import BgeRouter.Library.OrderedMultimap
import BgeRouter.Library.TimedCourses
import BgeRouter.UpstreamSnapshot

/-!
# Forwarding one request

`forward` sends the buffered request to one upstream and turns its answer into
the response for the client, without hop-by-hop headers and with two headers
of the router.  The HTTP client is `reqwest`, which is not part of the
repository.  It is given by what its `send` does with a request.
-/

namespace BgeRouter

open OrderedMultimap

abbrev Bytes := List UInt8

/-- A header name, normalised to lower case. -/
structure HeaderName where
  text : String
  lowercase : text.toByteArray.data.toList.all
    (fun byte => !(65 ≤ byte && byte ≤ 90)) = true
deriving DecidableEq

/-- Bytes that may stand in a header value: visible ones, blanks and tabs. -/
def HeaderValue.allowedByte (byte : UInt8) : Bool :=
  (32 ≤ byte && byte != 127) || byte == 9

structure HeaderValue where
  bytes : Bytes
  allowed : bytes.all HeaderValue.allowedByte = true
deriving DecidableEq

/-- Reads a header value from ASCII text. -/
def HeaderValue.parse (text : String) : Option HeaderValue :=
  let bytes := text.toByteArray.data.toList
  if ascii : bytes.all (fun byte => (32 ≤ byte && byte < 127) || byte == 9) = true then
    some ⟨bytes, by
      refine List.all_eq_true.mpr fun byte member => ?_
      have accepted := List.all_eq_true.mp ascii byte member
      simp only [Bool.or_eq_true, Bool.and_eq_true, decide_eq_true_eq,
        HeaderValue.allowedByte, bne_iff_ne] at accepted ⊢
      refine accepted.imp_left fun visible => ⟨visible.1, ?_⟩
      rintro rfl
      exact absurd visible.2 (by decide)⟩
  else none

/-- `HeaderMap`: the name-value pairs that its iteration yields. -/
abbrev HeaderMap := OrderedMultimap HeaderName HeaderValue

structure StatusCode where
  code : Nat
  valid : 100 ≤ code ∧ code < 1000
deriving DecidableEq

def StatusCode.fromU16 (code : Nat) : Option StatusCode :=
  if valid : 100 ≤ code ∧ code < 1000 then some ⟨code, valid⟩ else none

def StatusCode.ok : StatusCode := ⟨200, by decide⟩

def StatusCode.internalServerError : StatusCode := ⟨500, by decide⟩

def StatusCode.isServerError (status : StatusCode) : Bool :=
  decide (500 ≤ status.code ∧ status.code < 600)

@[simp]
theorem StatusCode.fromU16_code (status : StatusCode) :
    StatusCode.fromU16 status.code = some status := by
  simp [fromU16, status.valid]

structure Method where
  token : String
deriving DecidableEq

/-- A response, from an upstream or to the client. -/
structure Response where
  status : StatusCode
  headers : HeaderMap
  body : Bytes
deriving DecidableEq

/-- Why `send` failed: the request could not be built, the exchange with the
upstream failed, or a chain of redirects was too long. -/
inductive ReqwestError where
  | builder
  | request
  | redirect
deriving DecidableEq

inductive AppError where
  | noUpstreamAvailable
  | upstream (error : ReqwestError)
  | internal (message : String)
deriving DecidableEq

abbrev RouteResult := Except AppError Response

structure OutgoingRequest where
  method : Method
  url : String
  headers : HeaderMap
  body : Bytes
deriving DecidableEq

/-- One call of `forward` among all those made for a client request. -/
structure ForwardCall where
  poolType : PoolType
  attempt : Nat
  started : Instant
deriving DecidableEq

/-- What a `send` does: the requests it puts on the wire, and its result, if
there ever is one, with the time it took. -/
structure Exchange where
  wire : List OutgoingRequest
  completion : Option (Duration × Except ReqwestError Response)

structure Client where
  send : ForwardCall → OutgoingRequest → Exchange

/-- The client of a fleet in which every upstream answers the same after the
same time, for concrete runs. -/
def Client.uniform (completion : Option (Duration × Except ReqwestError Response)) :
    Client where
  send := fun _ request => ⟨[request], completion⟩

/-- The parts of a buffered client request that every forwarding uses. -/
structure ForwardCtx where
  scheme : UpstreamScheme
  method : Method
  pathAndQuery : String
  headers : HeaderMap
  body : Bytes

/-- A plain request for a path, for concrete runs. -/
def ForwardCtx.get (pathAndQuery : String) : ForwardCtx where
  scheme := .http
  method := ⟨"GET"⟩
  pathAndQuery := pathAndQuery
  headers := []
  body := []

/-- What a client request does to the rest of the system. -/
inductive RouterEffect where
  | forward (addr : SocketAddr) (poolType : PoolType)
  | trip (addr : SocketAddr) (duration : Duration)
  | secondaryStarted
deriving DecidableEq

/-- Headers that are not passed on, in either direction. -/
def hopByHop : List String :=
  ["connection", "keep-alive", "proxy-authenticate", "proxy-authorization", "te",
    "trailer", "transfer-encoding", "upgrade"]

def isHopByHop (name : HeaderName) : Bool :=
  decide (name.text ∈ hopByHop)

def xBgeRouterUpstream : HeaderName := ⟨"x-bge-router-upstream", by decide⟩

def xBgeRouterPool : HeaderName := ⟨"x-bge-router-pool", by decide⟩

def upstreamUrl (scheme : UpstreamScheme) (addr : SocketAddr) (pathAndQuery : String) :
    String :=
  scheme.asStr ++ "://" ++ addr.text ++ pathAndQuery

/-- The request that `forward` builds; a `RequestBuilder` appends headers. -/
def outgoingRequest (ctx : ForwardCtx) (addr : SocketAddr) : OutgoingRequest where
  method := ctx.method
  url := upstreamUrl ctx.scheme addr ctx.pathAndQuery
  headers := appendAll (fun name => !isHopByHop name) ctx.headers []
  body := ctx.body

/-- Sets a header of the router, if the text is a header value. -/
def injectHeader (name : HeaderName) (text : String) (headers : HeaderMap) : HeaderMap :=
  match HeaderValue.parse text with
  | some value => insert name value headers
  | none => headers

def responseHeaders (upstreamHeaders : HeaderMap) (addr : SocketAddr)
    (poolType : PoolType) : HeaderMap :=
  injectHeader xBgeRouterPool poolType.asStr
    (injectHeader xBgeRouterUpstream addr.text
      (insertAll (fun name => !isHopByHop name) upstreamHeaders []))

/-- What `forward` makes of the result of `send`. -/
def forwardResult (addr : SocketAddr) (poolType : PoolType) :
    Except ReqwestError Response → RouteResult
  | .error error => .error (.upstream error)
  | .ok upstreamResp => .ok {
      status := (StatusCode.fromU16 upstreamResp.status.code).getD
        StatusCode.internalServerError
      headers := responseHeaders upstreamResp.headers addr poolType
      body := upstreamResp.body }

/-- Forward a buffered request to `addr`. -/
def forward (client : Client) (ctx : ForwardCtx) (addr : SocketAddr)
    (poolType : PoolType) (attempt : Nat) : Timed RouterEffect RouteResult := do
  let now ← Timed.clock
  Timed.emit (.forward addr poolType)
  let sent ← Timed.respond
    (client.send ⟨poolType, attempt, now⟩ (outgoingRequest ctx addr)).completion
  return forwardResult addr poolType sent

section Forward

variable {client : Client} {ctx : ForwardCtx} {addr : SocketAddr} {poolType : PoolType}
  {attempt : Nat} {start : Instant}

@[simp]
theorem effects_forward :
    (forward client ctx addr poolType attempt start).effects =
      [(start, .forward addr poolType)] := by
  simp [forward]

theorem finish_forward :
    (forward client ctx addr poolType attempt start).finish =
      (client.send ⟨poolType, attempt, start⟩ (outgoingRequest ctx addr)).completion.map
        fun completion =>
          (start + completion.1, forwardResult addr poolType completion.2) := by
  simp [forward, Function.comp_def]

end Forward

end BgeRouter
