import BgeRouter.ReverseProxy

/-!
# Which header values survive forwarding

Both copy loops of `forward` drop hop-by-hop names, and the headers of the
router replace whatever the upstream sent under their names.  The request side
appends, so it keeps every value, but the HTTP client adds headers of its own
where the request has none of the name.  The response side inserts, so of
several values for one name only the last one is left.
-/

namespace BgeRouter

open OrderedMultimap

/-- The text of a header value. -/
def HeaderValue.Spells (value : HeaderValue) (text : String) : Prop :=
  value.bytes = text.toByteArray.data.toList

/-- The documented behaviour of `send` in a call: what is answered has gone out,
and the first request on the wire has all the values that the client was given
for a name, or, for a name without any, those that the client has by default. -/
structure Client.FillsIn (client : Client) (defaults : HeaderMap) (call : ForwardCall)
    (request : OutgoingRequest) : Prop where
  sends : ∀ elapsed answer, (client.send call request).completion = some (elapsed, .ok answer) →
    (client.send call request).wire ≠ []
  given : ∀ sent following, (client.send call request).wire = sent :: following →
    ∀ name, getAll request.headers name ≠ [] →
      getAll sent.headers name = getAll request.headers name
  filled : ∀ sent following, (client.send call request).wire = sent :: following →
    ∀ name, getAll request.headers name = [] →
      getAll sent.headers name = getAll defaults name

/-- The first request on the wire, which is the one to the upstream, carries the
client's values of every header that is not hop-by-hop. -/
def CarriesRequest (ctx : ForwardCtx) (wire : List OutgoingRequest) : Prop :=
  ∃ sent following, wire = sent :: following ∧
    ∀ name, isHopByHop name = false → getAll sent.headers name = getAll ctx.headers name

/-- The headers that pass through `forward` are those of the client and of the
upstream, apart from hop-by-hop headers and the two headers of the router. -/
structure HeadersTransparent (ctx : ForwardCtx) (addr : SocketAddr) (poolType : PoolType)
    (wire : List OutgoingRequest) (upstreamHeaders respHeaders : HeaderMap) : Prop where
  copied : ∀ name, isHopByHop name = false → name ≠ xBgeRouterUpstream →
    name ≠ xBgeRouterPool → getAll respHeaders name = getAll upstreamHeaders name
  dropped : ∀ name, isHopByHop name = true → getAll respHeaders name = []
  upstream : ∃ value, getAll respHeaders xBgeRouterUpstream = [value] ∧
    value.Spells addr.text
  pool : ∃ value, getAll respHeaders xBgeRouterPool = [value] ∧
    value.Spells poolType.asStr
  requested : CarriesRequest ctx wire

/-- No name that is passed on has several values. -/
def SingleValued (upstreamHeaders : HeaderMap) : Prop :=
  ∀ name, isHopByHop name = false → name ≠ xBgeRouterUpstream →
    name ≠ xBgeRouterPool → (getAll upstreamHeaders name).length ≤ 1

/-- The request has every header that the HTTP client would add to it. -/
def LacksNoDefault (defaults : HeaderMap) (ctx : ForwardCtx) : Prop :=
  ∀ name, isHopByHop name = false → getAll ctx.headers name = [] →
    getAll defaults name = []

section Copies

variable {upstreamHeaders headers : HeaderMap} {addr : SocketAddr} {poolType : PoolType}
  {name : HeaderName} {text : String}

theorem HeaderValue.parse_of_visibleAscii (visible : VisibleAscii text) :
    ∃ value, HeaderValue.parse text = some value ∧ value.Spells text := by
  have accepted : text.toByteArray.data.toList.all
      (fun byte => (32 ≤ byte && byte < 127) || byte == 9) = true := by
    refine List.all_eq_true.mpr fun byte member => ?_
    rw [List.all_eq_true.mp visible byte member, Bool.true_or]
  refine ⟨_, dif_pos accepted, ?_⟩
  rfl

theorem visibleAscii_asStr (poolType : PoolType) : VisibleAscii poolType.asStr := by
  cases poolType <;> decide

theorem getAll_injectHeader_self (visible : VisibleAscii text) :
    ∃ value, getAll (injectHeader name text headers) name = [value] ∧
      value.Spells text := by
  obtain ⟨value, parsed, spelled⟩ := HeaderValue.parse_of_visibleAscii visible
  refine ⟨value, ?_, spelled⟩
  rw [injectHeader, parsed]
  exact getAll_insert_self

theorem getAll_injectHeader_of_ne {other : HeaderName} (ne : other ≠ name) :
    getAll (injectHeader name text headers) other = getAll headers other := by
  rw [injectHeader]
  split
  · exact getAll_insert_of_ne ne
  · rfl

theorem getAll_responseHeaders (notUpstream : name ≠ xBgeRouterUpstream)
    (notPool : name ≠ xBgeRouterPool) :
    getAll (responseHeaders upstreamHeaders addr poolType) name =
      if isHopByHop name then [] else (getAll upstreamHeaders name).getLast?.toList := by
  rw [responseHeaders, getAll_injectHeader_of_ne notPool,
    getAll_injectHeader_of_ne notUpstream, getAll_insertAll]
  cases isHopByHop name with
  | true => rfl
  | false => cases (getAll upstreamHeaders name).getLast? <;> rfl

/-- The router names the upstream it forwarded to, whatever that one sent. -/
theorem getAll_responseHeaders_upstream :
    ∃ value, getAll (responseHeaders upstreamHeaders addr poolType)
      xBgeRouterUpstream = [value] ∧ value.Spells addr.text := by
  rw [responseHeaders, getAll_injectHeader_of_ne (by decide)]
  exact getAll_injectHeader_self addr.visible

theorem isHopByHop_router_headers :
    isHopByHop xBgeRouterUpstream = false ∧ isHopByHop xBgeRouterPool = false := by
  decide

private theorem getLast?_toList_eq_iff {Value : Type*} (values : List Value) :
    values.getLast?.toList = values ↔ values.length ≤ 1 := by
  cases values with
  | nil => simp
  | cons first rest =>
      cases rest with
      | nil => simp
      | cons second others =>
          have lengths : ((first :: second :: others).getLast?.toList).length ≤ 1 := by
            cases (first :: second :: others).getLast? <;> simp
          constructor
          · intro same
            rw [same] at lengths
            exact lengths
          · intro short
            simp at short

/-- The response side is transparent exactly for single-valued headers. -/
theorem headersTransparent_responseHeaders_iff {ctx : ForwardCtx} {wire : List OutgoingRequest} :
    HeadersTransparent ctx addr poolType wire upstreamHeaders
        (responseHeaders upstreamHeaders addr poolType) ↔
      SingleValued upstreamHeaders ∧ CarriesRequest ctx wire := by
  constructor
  · intro transparent
    refine ⟨fun name passed notUpstream notPool => ?_, transparent.requested⟩
    have kept := transparent.copied name passed notUpstream notPool
    rw [getAll_responseHeaders notUpstream notPool, if_neg (by simp [passed])] at kept
    exact (getLast?_toList_eq_iff _).mp kept
  · rintro ⟨single, carries⟩
    refine ⟨?_, ?_, ?_, ?_, carries⟩
    · intro name passed notUpstream notPool
      rw [getAll_responseHeaders notUpstream notPool, if_neg (by simp [passed])]
      exact (getLast?_toList_eq_iff _).mpr (single name passed notUpstream notPool)
    · intro name hop
      have notUpstream : name ≠ xBgeRouterUpstream := by
        rintro rfl
        rw [isHopByHop_router_headers.1] at hop
        exact Bool.noConfusion hop
      have notPool : name ≠ xBgeRouterPool := by
        rintro rfl
        rw [isHopByHop_router_headers.2] at hop
        exact Bool.noConfusion hop
      rw [getAll_responseHeaders notUpstream notPool, if_pos hop]
    · exact getAll_responseHeaders_upstream
    · exact getAll_injectHeader_self (visibleAscii_asStr poolType)

/-- The request that is built has the client's values of every header that is
not hop-by-hop. -/
theorem getAll_outgoingRequest {ctx : ForwardCtx} (passed : isHopByHop name = false) :
    getAll (outgoingRequest ctx addr).headers name = getAll ctx.headers name := by
  rw [outgoingRequest, getAll_appendAll, passed]
  simp

end Copies

section Sent

variable {client : Client} {defaults : HeaderMap} {ctx : ForwardCtx} {addr : SocketAddr}
  {call : ForwardCall}

/-- The request side is transparent exactly where nothing is added. -/
theorem carriesRequest_iff (documented : client.FillsIn defaults call (outgoingRequest ctx addr))
    (sends : (client.send call (outgoingRequest ctx addr)).wire ≠ []) :
    CarriesRequest ctx (client.send call (outgoingRequest ctx addr)).wire ↔
      LacksNoDefault defaults ctx := by
  obtain ⟨sent, following, wire⟩ := List.exists_cons_of_ne_nil sends
  constructor
  · rintro ⟨other, others, sameWire, carries⟩ name passed absent
    obtain ⟨rfl, -⟩ := List.cons.inj (wire.symm.trans sameWire)
    have unset : getAll (outgoingRequest ctx addr).headers name = [] := by
      rw [getAll_outgoingRequest passed, absent]
    rw [← documented.filled sent following wire name unset, carries name passed, absent]
  · intro complete
    refine ⟨sent, following, wire, fun name passed => ?_⟩
    have built : getAll (outgoingRequest ctx addr).headers name = getAll ctx.headers name :=
      getAll_outgoingRequest passed
    by_cases absent : getAll ctx.headers name = []
    · rw [documented.filled sent following wire name (built.trans absent), absent]
      exact complete name passed absent
    · rw [documented.given sent following wire name (built ▸ absent), built]

end Sent

/-- **Exact condition for header transparency.** -/
theorem forward_headersTransparent_iff (client : Client) (defaults : HeaderMap)
    (ctx : ForwardCtx) (addr : SocketAddr) (poolType : PoolType) (attempt : Nat)
    (start : Instant)
    (documented : client.FillsIn defaults ⟨poolType, attempt, start⟩ (outgoingRequest ctx addr))
    {elapsed : Duration} {upstreamResp : Response}
    (answered : (client.send ⟨poolType, attempt, start⟩
      (outgoingRequest ctx addr)).completion = some (elapsed, .ok upstreamResp)) :
    (∃ response,
        (forward client ctx addr poolType attempt start).finish =
          some (start + elapsed, .ok response) ∧
        HeadersTransparent ctx addr poolType
          (client.send ⟨poolType, attempt, start⟩ (outgoingRequest ctx addr)).wire
          upstreamResp.headers response.headers) ↔
      SingleValued upstreamResp.headers ∧ LacksNoDefault defaults ctx := by
  have sends := documented.sends elapsed upstreamResp answered
  rw [finish_forward, answered, ← carriesRequest_iff documented sends,
    ← headersTransparent_responseHeaders_iff]
  constructor
  · rintro ⟨response, finished, transparent⟩
    obtain rfl := Except.ok.inj (Prod.mk.inj (Option.some.inj finished)).2
    exact transparent
  · intro transparent
    exact ⟨_, rfl, transparent⟩

/-- The request as a client with these defaults puts it on the wire. -/
def OutgoingRequest.withDefaults (request : OutgoingRequest) (defaults : HeaderMap) :
    OutgoingRequest :=
  { request with
    headers := request.headers ++
      defaults.filter fun entry => decide (getAll request.headers entry.1 = []) }

theorem OutgoingRequest.getAll_withDefaults (request : OutgoingRequest) (defaults : HeaderMap)
    (name : HeaderName) :
    getAll (request.withDefaults defaults).headers name =
      if getAll request.headers name = [] then getAll defaults name
      else getAll request.headers name := by
  rw [withDefaults, getAll_listAppend,
    getAll_filter fun name => decide (getAll request.headers name = [])]
  by_cases absent : getAll request.headers name = []
  · simp [absent]
  · simp [absent]

theorem Client.fillsIn_of_withDefaults {client : Client} {defaults : HeaderMap}
    {call : ForwardCall} {request : OutgoingRequest} {following : List OutgoingRequest}
    (wire : (client.send call request).wire = request.withDefaults defaults :: following) :
    client.FillsIn defaults call request where
  sends := by
    intro elapsed answer _
    rw [wire]
    exact List.cons_ne_nil _ _
  given := by
    intro sent others sameWire name present
    obtain ⟨rfl, -⟩ := List.cons.inj (wire.symm.trans sameWire)
    rw [OutgoingRequest.getAll_withDefaults, if_neg present]
  filled := by
    intro sent others sameWire name absent
    obtain ⟨rfl, -⟩ := List.cons.inj (wire.symm.trans sameWire)
    rw [OutgoingRequest.getAll_withDefaults, if_pos absent]

/-- A client whose requests are all answered like this, for concrete runs. -/
def Client.answering (defaults : HeaderMap) (answer : Response) : Client where
  send := fun _ request => ⟨[request.withDefaults defaults], some (0, .ok answer)⟩

/-- What the client adds to a request for the GPU task that has no body. -/
def sampleDefaults : HeaderMap :=
  [(⟨"accept", by decide⟩, ⟨[42, 47, 42], by decide⟩),
    (⟨"host", by decide⟩,
      ⟨[49, 48, 46, 48, 46, 48, 46, 49, 58, 56, 48, 56, 49], by decide⟩)]

/-- A client request with these headers. -/
def completeRequest : ForwardCtx := { ForwardCtx.get "/health" with headers := sampleDefaults }

def setCookie : HeaderName := ⟨"set-cookie", by decide⟩

/-- A successful answer that sets the given cookies. -/
def cookieAnswer (cookies : List HeaderValue) : Response where
  status := .ok
  headers := cookies.map fun cookie => (setCookie, cookie)
  body := []

theorem headersTransparent_of_one_cookie :
    let answer := cookieAnswer [⟨[97], by decide⟩]
    let client := Client.answering sampleDefaults answer
    ∃ response,
      (forward client completeRequest .sampleGpu .gpu 0 0).finish =
          some (0 + 0, .ok response) ∧
        HeadersTransparent completeRequest .sampleGpu .gpu
          (client.send ⟨.gpu, 0, 0⟩ (outgoingRequest completeRequest .sampleGpu)).wire
          answer.headers response.headers := by
  intro answer client
  have single : SingleValued answer.headers := by
    intro name _ _ _
    by_cases same : setCookie = name <;> simp [answer, cookieAnswer, getAll, same]
  have complete : LacksNoDefault sampleDefaults completeRequest := fun _ _ absent => absent
  exact (forward_headersTransparent_iff client sampleDefaults completeRequest .sampleGpu .gpu 0 0
    (Client.fillsIn_of_withDefaults rfl) rfl).mpr ⟨single, complete⟩

/-- Without an `accept` header a request goes out with the client's own. -/
example : ¬ LacksNoDefault sampleDefaults (.get "/health") := by
  intro complete
  exact absurd (complete ⟨"accept", by decide⟩ (by decide) rfl) (by decide)

/-- Of two cookies that an upstream sets, the client gets one. -/
theorem forward_loses_cookie :
    ¬ ∀ (client : Client) (defaults : HeaderMap) (ctx : ForwardCtx) (addr : SocketAddr)
        (poolType : PoolType) (attempt : Nat) (start : Instant) (elapsed : Duration)
        (upstreamResp : Response),
      client.FillsIn defaults ⟨poolType, attempt, start⟩ (outgoingRequest ctx addr) →
      (client.send ⟨poolType, attempt, start⟩ (outgoingRequest ctx addr)).completion =
        some (elapsed, .ok upstreamResp) →
      ∃ response,
        (forward client ctx addr poolType attempt start).finish =
          some (start + elapsed, .ok response) ∧
        HeadersTransparent ctx addr poolType
          (client.send ⟨poolType, attempt, start⟩ (outgoingRequest ctx addr)).wire
          upstreamResp.headers response.headers := by
  intro claim
  obtain ⟨response, finished, transparent⟩ := claim
    (.answering sampleDefaults (cookieAnswer [⟨[97], by decide⟩, ⟨[98], by decide⟩]))
    sampleDefaults completeRequest .sampleGpu .gpu 0 0 0 _
    (Client.fillsIn_of_withDefaults rfl) rfl
  obtain rfl := Except.ok.inj (Prod.mk.inj (Option.some.inj finished)).2
  have copied := transparent.copied setCookie (by decide) (by decide) (by decide)
  exact absurd copied (by decide)

end BgeRouter
