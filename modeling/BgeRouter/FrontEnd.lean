import BgeRouter.AnswerOrigins
import BgeRouter.HeaderTransparency

/-!
# The proxy handler

`handleProxy` buffers the body of a client request, routes the request, and
turns an error into a response.  A client gets one of four kinds of answer, and
which kind it is can be told from the answer: only what an upstream has
answered names that upstream.
-/

namespace BgeRouter

open OrderedMultimap

/-- A client request.  Its body takes some time to arrive, or never does, and
reading it may fail. -/
structure ClientRequest where
  method : Method
  pathAndQuery : String
  headers : HeaderMap
  body : Option (Duration × Option Bytes)

def StatusCode.badRequest : StatusCode := ⟨400, by decide⟩

def StatusCode.badGateway : StatusCode := ⟨502, by decide⟩

def StatusCode.serviceUnavailable : StatusCode := ⟨503, by decide⟩

def contentType : HeaderName := ⟨"content-type", by decide⟩

/-- `(status, text).into_response()`. -/
def textResponse (status : StatusCode) (text : String) : Response where
  status := status
  headers := injectHeader contentType "text/plain; charset=utf-8" []
  body := text.toByteArray.data.toList

namespace AppError

/-- The text of an error; `describe` is the `Display` of `reqwest::Error`. -/
def display (describe : ReqwestError → String) : AppError → String
  | noUpstreamAvailable => "no upstream available"
  | upstream error => "upstream error: " ++ describe error
  | internal message => "internal error: " ++ message

def status : AppError → StatusCode
  | noUpstreamAvailable => .serviceUnavailable
  | upstream _ => .badGateway
  | internal _ => .internalServerError

def intoResponse (describe : ReqwestError → String) (error : AppError) : Response :=
  textResponse error.status (error.display describe)

end AppError

/-- What `route` forwards of a request whose body has been read. -/
def ClientRequest.ctx (request : ClientRequest) (config : Config) (body : Bytes) :
    ForwardCtx where
  scheme := config.upstreamScheme
  method := request.method
  pathAndQuery := request.pathAndQuery
  headers := request.headers
  body := body

/-- What the handler makes of the result of `route`. -/
def routedResponse (describe : ReqwestError → String) : RouteResult → Response
  | .ok response => response
  | .error error => error.intoResponse describe

def unreadableBody : Response := textResponse .badRequest "failed to read request body"

section Handler

variable (client : Client) (config : Config) (describe : ReqwestError → String)
  (reads : PoolReads)

/-- Handle all embedding proxy requests. -/
def handleProxy (request : ClientRequest) : Timed RouterEffect Response := do
  let collected ← Timed.respond request.body
  match collected with
  | none => return unreadableBody
  | some body => do
      let routed ← route client (request.ctx config body) reads config
      return routedResponse describe routed

/-- The answer to a request that had these effects. -/
inductive ClientAnswer (request : ClientRequest)
    (effects : List (Instant × RouterEffect)) : Response → Prop where
  /-- the body cannot be read, and nobody is contacted -/
  | unreadable (elapsed : Duration) (failed : request.body = some (elapsed, none))
      (quiet : effects = []) : ClientAnswer request effects unreadableBody
  /-- the answer that one of the calls of this request has got -/
  | answered {addr : SocketAddr} {poolType : PoolType} {attempt : Nat} {begun : Instant}
      {body : Bytes} {elapsed : Duration} {answer response : Response}
      (called : (begun, .forward addr poolType) ∈ effects)
      (sent : (client.send ⟨poolType, attempt, begun⟩
        (outgoingRequest (request.ctx config body) addr)).completion =
          some (elapsed, .ok answer))
      (passed : forwardResult addr poolType (.ok answer) = .ok response) :
      ClientAnswer request effects response
  /-- one of its calls has failed -/
  | unreachable {addr : SocketAddr} {poolType : PoolType} {attempt : Nat} {begun : Instant}
      {body : Bytes} {elapsed : Duration} {error : ReqwestError}
      (called : (begun, .forward addr poolType) ∈ effects)
      (sent : (client.send ⟨poolType, attempt, begun⟩
        (outgoingRequest (request.ctx config body) addr)).completion =
          some (elapsed, .error error)) :
      ClientAnswer request effects
        (textResponse .badGateway ("upstream error: " ++ describe error))
  /-- there is no upstream left to try; an inference request has called nobody -/
  | unavailable (quiet : isInferencePath request.pathAndQuery = true → effects = []) :
      ClientAnswer request effects
        (textResponse .serviceUnavailable "no upstream available")

end Handler

section Answers

variable {client : Client} {config : Config} {describe : ReqwestError → String}
  {reads : PoolReads} {request : ClientRequest} {start time : Instant}
  {response : Response} {effects : List (Instant × RouterEffect)}

variable (client config describe reads start) in
theorem handleProxy_of_unread {elapsed : Duration}
    (failed : request.body = some (elapsed, none)) :
    (handleProxy client config describe reads request start).finish =
        some (start + elapsed, unreadableBody) ∧
      (handleProxy client config describe reads request start).effects = [] := by
  have arrived : ((Timed.respond request.body : Timed RouterEffect _) start).finish =
      some (start + elapsed, none) := by rw [Timed.finish_respond, failed]; rfl
  constructor
  · rw [handleProxy, Timed.finish_bind arrived]
    rfl
  · rw [handleProxy, Timed.effects_bind arrived, Timed.effects_respond]
    rfl

variable (client config describe reads start) in
/-- A request is routed when its body has arrived. -/
theorem handleProxy_of_read {elapsed : Duration} {body : Bytes}
    (read : request.body = some (elapsed, some body)) :
    let routed := route client (request.ctx config body) reads config (start + elapsed)
    (handleProxy client config describe reads request start).finish =
        routed.finish.map (fun done => (done.1, routedResponse describe done.2)) ∧
      (handleProxy client config describe reads request start).effects = routed.effects := by
  have arrived : ((Timed.respond request.body : Timed RouterEffect _) start).finish =
      some (start + elapsed, some body) := by rw [Timed.finish_respond, read]; rfl
  constructor
  · rw [handleProxy, Timed.finish_bind arrived]
    exact Timed.finish_bind_pure _
  · rw [handleProxy, Timed.effects_bind arrived, Timed.effects_respond, List.nil_append]
    exact Timed.effects_bind_pure _

/-- There is no answer to a request whose body never arrives. -/
theorem handleProxy_of_unsent (unsent : request.body = none) :
    (handleProxy client config describe reads request start).finish = none := by
  refine Timed.finish_bind_of_never ?_
  rw [Timed.finish_respond, unsent]
  rfl

theorem forPath_of_isInferencePath {path : String} (inference : isInferencePath path = true) :
    RoutePolicy.forPath path config = .hedged config.hedgeDelay := by
  rw [RoutePolicy.forPath, if_pos inference]

/-- The router's own answers name no upstream. -/
theorem getAll_textResponse (status : StatusCode) (text : String) :
    getAll (textResponse status text).headers xBgeRouterUpstream = [] := by
  rw [textResponse, getAll_injectHeader_of_ne (by decide)]
  rfl

/-- An answer that names an upstream is one of that upstream, which this very
request has called. -/
theorem ClientAnswer.names_upstream
    (answer : ClientAnswer client config describe request effects response)
    {value : HeaderValue} (named : value ∈ getAll response.headers xBgeRouterUpstream) :
    ∃ begun addr poolType, (begun, .forward addr poolType) ∈ effects ∧
      value.Spells addr.text := by
  cases answer with
  | unreadable =>
      rw [unreadableBody, getAll_textResponse] at named
      cases named
  | unreachable =>
      rw [getAll_textResponse] at named
      cases named
  | unavailable =>
      rw [getAll_textResponse] at named
      cases named
  | @answered addr poolType attempt begun body elapsed upstreamResp _ called sent passed =>
      obtain rfl := Except.ok.inj passed
      obtain ⟨own, injected, spelled⟩ :=
        @getAll_responseHeaders_upstream upstreamResp.headers addr poolType
      dsimp only at named
      rw [injected, List.mem_singleton] at named
      exact ⟨begun, addr, poolType, called, named ▸ spelled⟩

/-- What a request that has been routed comes to is answered as it should. -/
theorem clientAnswer_of_route {body : Bytes} {arrived : Instant} {routed : RouteResult}
    (finished : (route client (request.ctx config body) reads config arrived).finish =
      some (time, routed)) :
    ClientAnswer client config describe request
      (route client (request.ctx config body) reads config arrived).effects
      (routedResponse describe routed) := by
  rcases comesFromCall_dispatch finished with
    ⟨addr, poolType, attempt, begun, elapsed, called, answered, -⟩ | ⟨rfl, quiet⟩
  · obtain ⟨⟨own, outcome⟩, sent, same⟩ := Option.map_eq_some_iff.mp answered
    obtain ⟨rfl, rfl⟩ := Prod.mk.inj same
    cases outcome with
    | error error => exact .unreachable called sent
    | ok answer => exact .answered called sent rfl
  · exact .unavailable fun inference => quiet _ (forPath_of_isInferencePath inference)

theorem clientAnswer_of_handleProxy
    (finished : (handleProxy client config describe reads request start).finish =
      some (time, response)) :
    ClientAnswer client config describe request
      (handleProxy client config describe reads request start).effects response := by
  cases arrives : request.body with
  | none =>
      rw [handleProxy_of_unsent arrives] at finished
      cases finished
  | some arrival =>
      obtain ⟨elapsed, collected⟩ := arrival
      cases collected with
      | none =>
          obtain ⟨answered, quiet⟩ :=
            handleProxy_of_unread client config describe reads start arrives
          rw [answered] at finished
          cases finished
          exact .unreadable elapsed arrives quiet
      | some body =>
          obtain ⟨answered, performed⟩ :=
            handleProxy_of_read client config describe reads start arrives
          rw [answered, Option.map_eq_some_iff] at finished
          obtain ⟨⟨own, routed⟩, ended, same⟩ := finished
          obtain ⟨rfl, rfl⟩ := Prod.mk.inj same
          rw [performed]
          exact clientAnswer_of_route ended

/-- **What clients are told.**  Every answer is that of a call of this request,
or an answer of the router, which then names no upstream. -/
theorem handleProxy_answers
    (finished : (handleProxy client config describe reads request start).finish =
      some (time, response)) :
    let effects := (handleProxy client config describe reads request start).effects
    ClientAnswer client config describe request effects response ∧
      ∀ value ∈ getAll response.headers xBgeRouterUpstream,
        ∃ begun addr poolType, (begun, .forward addr poolType) ∈ effects ∧
          value.Spells addr.text := by
  have answer := clientAnswer_of_handleProxy finished
  exact ⟨answer, fun value named => answer.names_upstream named⟩

end Answers

/-- An inference request with an empty body, for concrete runs. -/
def ClientRequest.embeddings : ClientRequest where
  method := ⟨"POST"⟩
  pathAndQuery := "/v1/embeddings"
  headers := []
  body := some (0, some [])

/-- An inference request without an upstream is answered with 503. -/
theorem handleProxy_answers_emptyPool :
    let config := Config.default
    let describe := fun _ => "error"
    let reads : PoolReads := .alone (.default 0)
    let client : Client := .uniform (some (0, .error .request))
    ClientAnswer client config describe .embeddings
      (handleProxy client config describe reads .embeddings 0).effects
      (AppError.noUpstreamAvailable.intoResponse describe) := by
  intro config describe reads client
  exact (@handleProxy_answers client config describe reads .embeddings 0 0 _
    (by decide +kernel)).1

end BgeRouter
