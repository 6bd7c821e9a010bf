import BgeRouter.FrontEnd
import BgeRouter.Library.SortedEntries
import Mathlib.Data.String.Basic

/-!
# Request ids

The router gives every request an `x-request-id` before it is handled, and its
answer one afterwards.  The middleware is that of `tower_http`, given by what
its two layers do to headers.  The inference path puts the `x-` headers of a
request into its log events, as a sorted map.
-/

namespace BgeRouter

open OrderedMultimap

def xRequestId : HeaderName := ⟨"x-request-id", by decide⟩

/-- The text of a header value, if all of it is visible ASCII. -/
def HeaderValue.toStr (value : HeaderValue) : Option String :=
  if value.bytes.all fun byte => (32 ≤ byte && byte < 127) || byte == 9 then
    some (.ofList (value.bytes.map fun byte => .ofNat byte.toNat))
  else none

/-- The `X-*` headers of a request, sorted by name. -/
abbrev XHeaders := SortedEntries String String

def isXHeader (name : HeaderName) : Bool :=
  "x-".toList.isPrefixOf name.text.toList

/-- The body of the loop over the headers. -/
def collectXHeader (map : XHeaders) (entry : HeaderName × HeaderValue) : XHeaders :=
  if isXHeader entry.1 then
    match entry.2.toStr with
    | some val => map.insert entry.1.text val
    | none => map
  else map

def collectXHeaders (headers : HeaderMap) : XHeaders :=
  headers.foldl collectXHeader .empty

/-- The two layers of the middleware: what the one does to the headers of a
request, and the other, given those, to the headers of its response. -/
structure RequestIdLayers where
  setRequestId : HeaderMap → HeaderMap
  propagateRequestId : HeaderMap → HeaderMap → HeaderMap

/-- Neither layer touches an id that is there, and the ids that are made up are
texts. -/
structure RequestIdLayers.Documented (layers : RequestIdLayers) : Prop where
  keeps : ∀ headers, getAll headers xRequestId ≠ [] → layers.setRequestId headers = headers
  generates : ∀ headers, getAll headers xRequestId = [] → ∃ id, id.toStr ≠ none ∧
    layers.setRequestId headers = insert xRequestId id headers
  leaves : ∀ request response, getAll response xRequestId ≠ [] →
    layers.propagateRequestId request response = response
  propagates : ∀ request response id ids, getAll request xRequestId = id :: ids →
    getAll response xRequestId = [] →
      layers.propagateRequestId request response = insert xRequestId id response

/-- The request as the inner layers see it. -/
def ClientRequest.identified (request : ClientRequest) (layers : RequestIdLayers) :
    ClientRequest :=
  { request with headers := layers.setRequestId request.headers }

/-- What the router built with these layers does with a request to proxy. -/
def serveProxied (layers : RequestIdLayers) (client : Client) (config : Config)
    (describe : ReqwestError → String) (reads : PoolReads) (request : ClientRequest) :
    Timed RouterEffect Response := do
  let request := request.identified layers
  let response ← handleProxy client config describe reads request
  return { response with
    headers := layers.propagateRequestId request.headers response.headers }

section Collected

variable {headers : HeaderMap} {name : HeaderName}

/-- The last value that is a text is kept. -/
def lastText (values : List HeaderValue) : Option String :=
  (values.filterMap HeaderValue.toStr).getLast?

theorem lastText_cons (value : HeaderValue) (values : List HeaderValue) :
    lastText (value :: values) = (lastText values).or value.toStr := by
  cases text : value.toStr with
  | none => rw [lastText, List.filterMap_cons_none text, Option.or_none, lastText]
  | some val =>
      rw [lastText, List.filterMap_cons_some text, lastText, List.getLast?_cons]
      cases (values.filterMap HeaderValue.toStr).getLast? <;> rfl

theorem HeaderName.eq_of_text {own other : HeaderName} (same : own.text = other.text) :
    own = other := by
  cases own
  cases other
  subst same
  rfl

/-- A header adds what it says of its own name only. -/
theorem get?_collectXHeader (map : XHeaders) (entry : HeaderName × HeaderValue)
    (named : isXHeader name = true) :
    (collectXHeader map entry).get? name.text =
      if entry.1 = name then entry.2.toStr.or (map.get? name.text) else map.get? name.text := by
  obtain ⟨own, value⟩ := entry
  rw [collectXHeader]
  by_cases same : own = name
  · subst same
    rw [if_pos named, if_pos rfl]
    cases value.toStr with
    | none => rfl
    | some val => rw [SortedEntries.get?_insert, if_pos rfl]; rfl
  · have otherText : name.text ≠ own.text := fun text => same (HeaderName.eq_of_text text.symm)
    rw [if_neg same]
    split_ifs
    · cases value.toStr with
      | none => rfl
      | some val => rw [SortedEntries.get?_insert, if_neg otherText]
    · rfl

theorem get?_foldl_collectXHeader (map : XHeaders) (named : isXHeader name = true) :
    (headers.foldl collectXHeader map).get? name.text =
      (lastText (getAll headers name)).or (map.get? name.text) := by
  induction headers generalizing map with
  | nil => rfl
  | cons entry rest ih =>
      rw [List.foldl_cons, ih, get?_collectXHeader map entry named]
      split_ifs with same
      · rw [getAll_cons_self entry same, lastText_cons, Option.or_assoc]
      · rw [getAll_cons_of_ne entry same]

theorem get?_collectXHeaders (named : isXHeader name = true) :
    (collectXHeaders headers).get? name.text = lastText (getAll headers name) := by
  rw [collectXHeaders, get?_foldl_collectXHeader _ named, SortedEntries.get?_empty, Option.or_none]

end Collected

section Served

variable {layers : RequestIdLayers} {client : Client} {config : Config}
  {describe : ReqwestError → String} {reads : PoolReads} {request : ClientRequest}
  {start time : Instant} {response : Response}

/-- The ids under which a request is served. -/
def ClientRequest.ids (request : ClientRequest) (layers : RequestIdLayers) :
    List HeaderValue :=
  getAll (request.identified layers).headers xRequestId

theorem RequestIdLayers.Documented.ids (documented : layers.Documented) :
    if getAll request.headers xRequestId = [] then
      ∃ id, id.toStr ≠ none ∧ request.ids layers = [id]
    else request.ids layers = getAll request.headers xRequestId := by
  split_ifs with absent
  · obtain ⟨id, text, generated⟩ := documented.generates request.headers absent
    refine ⟨id, text, ?_⟩
    rw [ClientRequest.ids, ClientRequest.identified, generated, getAll_insert_self]
  · rw [ClientRequest.ids, ClientRequest.identified, documented.keeps _ absent]

theorem RequestIdLayers.Documented.ids_ne_nil (documented : layers.Documented) :
    request.ids layers ≠ [] := by
  have ids : if getAll request.headers xRequestId = [] then
      ∃ id, id.toStr ≠ none ∧ request.ids layers = [id]
    else request.ids layers = getAll request.headers xRequestId := documented.ids
  split_ifs at ids with absent
  · obtain ⟨id, -, same⟩ := ids
    simp [same]
  · rwa [ids]

/-- The ids are passed on to whatever upstream is called. -/
theorem getAll_outgoingRequest_ids (body : Bytes) (addr : SocketAddr) :
    getAll (outgoingRequest ((request.identified layers).ctx config body) addr).headers
      xRequestId = request.ids layers :=
  getAll_outgoingRequest (by decide)

/-- So they are on the wire, since there is at least one. -/
theorem RequestIdLayers.Documented.sent_ids (documented : layers.Documented) {body : Bytes}
    {addr : SocketAddr} {defaults : HeaderMap} {call : ForwardCall} {sent : OutgoingRequest}
    {following : List OutgoingRequest}
    (fills : client.FillsIn defaults call
      (outgoingRequest ((request.identified layers).ctx config body) addr))
    (wire : (client.send call
      (outgoingRequest ((request.identified layers).ctx config body) addr)).wire =
        sent :: following) : getAll sent.headers xRequestId = request.ids layers := by
  have built := @getAll_outgoingRequest_ids layers config request body addr
  have present : request.ids layers ≠ [] := documented.ids_ne_nil
  rw [fills.given sent following wire xRequestId (built ▸ present), built]

theorem getAll_textResponse_ids (status : StatusCode) (text : String) :
    getAll (textResponse status text).headers xRequestId = [] := by
  rw [textResponse, getAll_injectHeader_of_ne (by decide)]
  rfl

/-- An upstream that a call of this request has reached gave the answer this id. -/
def IdOfUpstream (client : Client) (config : Config) (request : ClientRequest)
    (effects : List (Instant × RouterEffect)) (id : HeaderValue) : Prop :=
  ∃ addr poolType attempt begun body elapsed answer,
    (begun, .forward addr poolType) ∈ effects ∧
      (client.send ⟨poolType, attempt, begun⟩
        (outgoingRequest (request.ctx config body) addr)).completion =
          some (elapsed, .ok answer) ∧
      (getAll answer.headers xRequestId).getLast? = some id

/-- The handler's own answers have no id, and of several ids of an upstream the
last one is left. -/
theorem ClientAnswer.ids {effects : List (Instant × RouterEffect)}
    (answer : ClientAnswer client config describe request effects response) :
    getAll response.headers xRequestId = [] ∨
      ∃ id, getAll response.headers xRequestId = [id] ∧
        IdOfUpstream client config request effects id := by
  cases answer with
  | unreadable => exact Or.inl (getAll_textResponse_ids _ _)
  | unreachable => exact Or.inl (getAll_textResponse_ids _ _)
  | unavailable => exact Or.inl (getAll_textResponse_ids _ _)
  | @answered addr poolType attempt begun body elapsed upstreamResp _ called sent passed =>
      obtain rfl := Except.ok.inj passed
      have copied := @getAll_responseHeaders upstreamResp.headers addr poolType xRequestId
        (by decide) (by decide)
      rw [if_neg (by decide)] at copied
      dsimp only
      rw [copied]
      cases last : (getAll upstreamResp.headers xRequestId).getLast? with
      | none => exact Or.inl rfl
      | some id =>
          exact Or.inr ⟨id, rfl, addr, poolType, attempt, begun, body, elapsed, upstreamResp,
            called, sent, last⟩

/-- An answer gets the first id of the request, unless it has one. -/
theorem RequestIdLayers.Documented.answer_id (documented : layers.Documented)
    {headers : HeaderMap} {property : HeaderValue → Prop}
    (own : getAll headers xRequestId = [] ∨
      ∃ id, getAll headers xRequestId = [id] ∧ property id) :
    ∃ id, getAll (layers.propagateRequestId (request.identified layers).headers headers)
        xRequestId = [id] ∧
      ((request.ids layers).head? = some id ∨ property id) := by
  rcases own with absent | ⟨id, present, holds⟩
  · obtain ⟨id, others, ids⟩ := List.exists_cons_of_ne_nil
      (documented.ids_ne_nil : request.ids layers ≠ [])
    refine ⟨id, ?_, Or.inl (by rw [ids, List.head?_cons])⟩
    rw [documented.propagates _ _ id others ids absent, getAll_insert_self]
  · refine ⟨id, ?_, Or.inr holds⟩
    rw [documented.leaves _ _ (by simp [present]), present]

/-- **Requests can be traced.**  Every call that is made for a request carries
the ids of the client, or the one that it was given, also on the wire, the log
shows the last of them, and the client's answer has one id, the first of them if
the upstream has sent none of its own. -/
theorem request_traced (documented : layers.Documented)
    (finished : (serveProxied layers client config describe reads request start).finish =
      some (time, response)) :
    (if getAll request.headers xRequestId = [] then
        ∃ id, id.toStr ≠ none ∧ request.ids layers = [id]
      else request.ids layers = getAll request.headers xRequestId) ∧
      (∀ body addr, getAll (outgoingRequest ((request.identified layers).ctx config body)
        addr).headers xRequestId = request.ids layers) ∧
      (∀ body addr defaults call sent following,
        client.FillsIn defaults call
          (outgoingRequest ((request.identified layers).ctx config body) addr) →
        (client.send call
          (outgoingRequest ((request.identified layers).ctx config body) addr)).wire =
            sent :: following →
        getAll sent.headers xRequestId = request.ids layers) ∧
      (collectXHeaders (request.identified layers).headers).get? xRequestId.text =
        lastText (request.ids layers) ∧
      ∃ id, getAll response.headers xRequestId = [id] ∧
        ((request.ids layers).head? = some id ∨
          IdOfUpstream client config (request.identified layers)
            (serveProxied layers client config describe reads request start).effects id) := by
  refine ⟨documented.ids, getAll_outgoingRequest_ids,
    fun body addr defaults call sent following => documented.sent_ids,
    get?_collectXHeaders (by decide), ?_⟩
  obtain ⟨handled, performed⟩ :
      (serveProxied layers client config describe reads request start).finish =
          (handleProxy client config describe reads (request.identified layers) start).finish.map
            (fun done => (done.1, { done.2 with
              headers := layers.propagateRequestId (request.identified layers).headers
                done.2.headers })) ∧
        (serveProxied layers client config describe reads request start).effects =
          (handleProxy client config describe reads (request.identified layers) start).effects :=
    ⟨Timed.finish_bind_pure _, Timed.effects_bind_pure _⟩
  rw [handled, Option.map_eq_some_iff] at finished
  obtain ⟨⟨ended, inner⟩, answered, same⟩ := finished
  obtain ⟨rfl, rfl⟩ := Prod.mk.inj same
  rw [performed]
  exact documented.answer_id (clientAnswer_of_handleProxy answered).ids

end Served

/-- Layers that give out one id only. -/
def RequestIdLayers.sample (id : HeaderValue) : RequestIdLayers where
  setRequestId := fun headers =>
    if getAll headers xRequestId = [] then insert xRequestId id headers else headers
  propagateRequestId := fun request response =>
    if getAll response xRequestId = [] then
      match getAll request xRequestId with
      | [] => response
      | own :: _ => insert xRequestId own response
    else response

theorem RequestIdLayers.documented_sample {id : HeaderValue} (text : id.toStr ≠ none) :
    (RequestIdLayers.sample id).Documented where
  keeps := fun headers present => if_neg present
  generates := fun headers absent => ⟨id, text, if_pos absent⟩
  leaves := fun request response present => if_neg present
  propagates := by
    intro request response own others ids absent
    simp only [sample, absent, if_true, ids]

/-- A client without an id gets the one that its request was given. -/
theorem request_traced_generated :
    let layers := RequestIdLayers.sample ⟨[97], by decide⟩
    let served := serveProxied layers (.uniform (some (0, .ok ⟨.ok, [], []⟩))) .default
      (fun _ => "error") (.alone okGpuOkCpu) .embeddings 0
    ∃ time response, served.finish = some (time, response) ∧
      ∃ id, getAll response.headers xRequestId = [id] := by
  intro layers served
  let done := served.finish.get (by decide +kernel)
  have finished : served.finish = some (done.1, done.2) := (Option.some_get _).symm
  have documented : layers.Documented := RequestIdLayers.documented_sample (by decide)
  obtain ⟨-, -, -, -, id, answered, -⟩ := request_traced documented finished
  exact ⟨done.1, done.2, finished, id, answered⟩

end BgeRouter
