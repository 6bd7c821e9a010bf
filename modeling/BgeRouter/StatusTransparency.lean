import BgeRouter.AppState
import BgeRouter.HeaderTransparency

/-!
# Redirects of upstreams

The client follows redirects before `forward` sees an answer.  The status and
the body of a response are therefore those of the addressed upstream exactly
when its answer is not a redirect that the client follows.
-/

namespace BgeRouter

open OrderedMultimap

/-- What the server that a request addresses answers to it, and when. -/
abbrev Network :=
  ForwardCall → OutgoingRequest → Option (Duration × Except ReqwestError Response)

def location : HeaderName := ⟨"location", by decide⟩

/-- The status codes that `reqwest` follows. -/
def isRedirect (status : StatusCode) : Bool :=
  decide (status.code ∈ [301, 302, 303, 307, 308])

/-- Reading URLs is done by `reqwest`: which ones are valid, and where a
`Location` value leads from a URL. -/
structure UrlRules where
  valid : String → Bool
  resolve : String → HeaderValue → Option String

/-- Where an answer to a request for this URL redirects. -/
def redirectTarget (rules : UrlRules) (url : String) (answer : Response) : Option String :=
  if isRedirect answer.status then
    (getAll answer.headers location).head?.bind (rules.resolve url)
  else none

/-- When and where the addressed server redirects a request, if it does. -/
def redirectOf (network : Network) (rules : UrlRules) (call : ForwardCall)
    (request : OutgoingRequest) : Option (Duration × String) :=
  match network call request with
  | some (elapsed, .ok answer) =>
      (redirectTarget rules request.url answer).map fun url => (elapsed, url)
  | _ => none

/-- The addressed server answers with a redirect that can be followed. -/
def Redirects (network : Network) (rules : UrlRules) (call : ForwardCall)
    (request : OutgoingRequest) : Prop :=
  redirectOf network rules call request ≠ none

/-- The documented behaviour of a client with this redirect policy.  For an
invalid URL it puts nothing on the wire.  An answer that is not a redirect it
passes on, and nothing else goes out.  The first redirect is not passed on
unless the policy forbids to follow it: a further request goes out, or there is
no answer, as for a `Location` that is not a web address. -/
structure FollowsPolicy (client : Client) (policy : RedirectPolicy) (network : Network)
    (rules : UrlRules) : Prop where
  invalid : ∀ call request, rules.valid request.url = false →
    (client.send call request).wire = [] ∧
      ∀ elapsed answer, (client.send call request).completion ≠ some (elapsed, .ok answer)
  direct : ∀ call request, rules.valid request.url = true →
    ¬ Redirects network rules call request →
    (client.send call request).wire.length ≤ 1 ∧
      (client.send call request).completion = network call request
  followed : ∀ call request max, policy = .limited (max + 1) →
    rules.valid request.url = true → Redirects network rules call request →
    2 ≤ (client.send call request).wire.length ∨
      ∀ elapsed answer, (client.send call request).completion ≠ some (elapsed, .ok answer)

/-- The response carries the status and the body of the answer that the
upstream at `addr` itself gave, under the name of that upstream; every such
answer is passed through, and nothing else is requested. -/
structure StatusTransparent (client : Client) (network : Network) (rules : UrlRules)
    (ctx : ForwardCtx) (addr : SocketAddr) (poolType : PoolType) (attempt : Nat)
    (start : Instant) : Prop where
  own : ∀ time response,
    (forward client ctx addr poolType attempt start).finish = some (time, .ok response) →
    ∃ elapsed answer,
      network ⟨poolType, attempt, start⟩ (outgoingRequest ctx addr) =
        some (elapsed, .ok answer) ∧
      response.status = answer.status ∧ response.body = answer.body ∧
      ∃ value, getAll response.headers xBgeRouterUpstream = [value] ∧
        value.Spells addr.text
  passed : rules.valid (outgoingRequest ctx addr).url = true → ∀ elapsed answer,
    network ⟨poolType, attempt, start⟩ (outgoingRequest ctx addr) =
      some (elapsed, .ok answer) →
    ∃ response, (forward client ctx addr poolType attempt start).finish =
      some (start + elapsed, .ok response)
  nothingElse :
    (client.send ⟨poolType, attempt, start⟩ (outgoingRequest ctx addr)).wire.length ≤ 1

section Transparency

variable {client : Client} {policy : RedirectPolicy} {network : Network}
  {rules : UrlRules} {ctx : ForwardCtx} {addr : SocketAddr} {poolType : PoolType}
  {attempt : Nat} {start : Instant}

theorem forwardResult_ok_iff {sent : Except ReqwestError Response} {response : Response} :
    forwardResult addr poolType sent = .ok response ↔
      ∃ answer, sent = .ok answer ∧ response.status = answer.status ∧
        response.headers = responseHeaders answer.headers addr poolType ∧
        response.body = answer.body := by
  cases sent with
  | error error => simp [forwardResult]
  | ok answer =>
      simp only [forwardResult, StatusCode.fromU16_code, Option.getD_some, Except.ok.injEq,
        exists_eq_left']
      constructor
      · rintro rfl
        exact ⟨rfl, rfl, rfl⟩
      · rintro ⟨status, headers, body⟩
        cases response
        simp only at status headers body
        rw [status, headers, body]

/-- A client that hands back the answer to the one request that it sends is
transparent. -/
theorem statusTransparent_of_direct
    (few : (client.send ⟨poolType, attempt, start⟩ (outgoingRequest ctx addr)).wire.length ≤ 1)
    (direct : (client.send ⟨poolType, attempt, start⟩ (outgoingRequest ctx addr)).completion =
      network ⟨poolType, attempt, start⟩ (outgoingRequest ctx addr)) :
    StatusTransparent client network rules ctx addr poolType attempt start where
  own := by
    intro time response finished
    rw [finish_forward, direct] at finished
    obtain ⟨⟨elapsed, sent⟩, answered, same⟩ := Option.map_eq_some_iff.mp finished
    obtain ⟨answer, rfl, status, headers, body⟩ :=
      forwardResult_ok_iff.mp (Prod.mk.inj same).2
    refine ⟨elapsed, answer, answered, status, body, ?_⟩
    rw [headers]
    exact getAll_responseHeaders_upstream
  passed := by
    intro _ elapsed answer answered
    rw [finish_forward, direct, answered]
    exact ⟨_, rfl⟩
  nothingElse := few

/-- A response is the answer to what was sent. -/
theorem answer_of_finish_forward {time : Instant} {response : Response}
    (finished : (forward client ctx addr poolType attempt start).finish =
      some (time, .ok response)) :
    ∃ elapsed answer,
      (client.send ⟨poolType, attempt, start⟩ (outgoingRequest ctx addr)).completion =
        some (elapsed, .ok answer) := by
  rw [finish_forward] at finished
  obtain ⟨⟨elapsed, sent⟩, completed, same⟩ := Option.map_eq_some_iff.mp finished
  obtain ⟨answer, rfl, -⟩ := forwardResult_ok_iff.mp (Prod.mk.inj same).2
  exact ⟨elapsed, answer, completed⟩

theorem exists_answer_of_redirects {call : ForwardCall} {request : OutgoingRequest}
    (redirects : Redirects network rules call request) :
    ∃ elapsed answer, network call request = some (elapsed, .ok answer) := by
  rw [Redirects, redirectOf] at redirects
  split at redirects
  · exact ⟨_, _, ‹_›⟩
  · exact absurd rfl redirects

theorem statusTransparent_iff_of_followsPolicy {max : Nat}
    (follows : FollowsPolicy client (.limited (max + 1)) network rules) :
    StatusTransparent client network rules ctx addr poolType attempt start ↔
      ¬ (rules.valid (outgoingRequest ctx addr).url = true ∧
        Redirects network rules ⟨poolType, attempt, start⟩ (outgoingRequest ctx addr)) := by
  constructor
  · rintro transparent ⟨valid, redirects⟩
    rcases follows.followed _ _ max rfl valid redirects with more | unanswered
    · exact absurd (Nat.le_trans more transparent.nothingElse) (by decide)
    · -- the redirect itself would have to be handed back
      obtain ⟨elapsed, answer, answered⟩ := exists_answer_of_redirects redirects
      obtain ⟨response, finished⟩ := transparent.passed valid elapsed answer answered
      obtain ⟨own, other, completed⟩ := answer_of_finish_forward finished
      exact unanswered own other completed
  · intro harmless
    cases valid : rules.valid (outgoingRequest ctx addr).url with
    | true =>
        obtain ⟨few, direct⟩ := follows.direct ⟨poolType, attempt, start⟩ _ valid
          fun redirects => harmless ⟨valid, redirects⟩
        exact statusTransparent_of_direct few direct
    | false =>
        obtain ⟨unsent, unanswered⟩ := follows.invalid ⟨poolType, attempt, start⟩ _ valid
        refine ⟨?_, ?_, by simp [unsent]⟩
        · intro time response finished
          obtain ⟨elapsed, answer, completed⟩ := answer_of_finish_forward finished
          exact absurd completed (unanswered elapsed answer)
        · intro validUrl
          rw [valid] at validUrl
          cases validUrl

end Transparency

/-- **Exact condition for status transparency.**  The client that a started
router shares passes an upstream's answer through exactly when it is not a
redirect. -/
theorem forward_statusTransparent_iff {platform : Platform} {config : Config}
    {state : AppState} (started : AppState.new platform config = .ok state)
    (network : Network) (rules : UrlRules)
    (documented : ∀ builder client, platform.build builder = some client →
      FollowsPolicy client builder.redirect network rules)
    (ctx : ForwardCtx) (addr : SocketAddr) (poolType : PoolType) (attempt : Nat)
    (start : Instant) :
    StatusTransparent state.client network rules ctx addr poolType attempt start ↔
      ¬ (rules.valid (outgoingRequest ctx addr).url = true ∧
        Redirects network rules ⟨poolType, attempt, start⟩ (outgoingRequest ctx addr)) := by
  obtain ⟨builder, built, policy⟩ := AppState.client_of_new started
  have follows := documented builder state.client built
  rw [policy] at follows
  exact statusTransparent_iff_of_followsPolicy follows

section Following

variable (network : Network) (rules : UrlRules) (defaults : HeaderMap)

/-- Send a request and follow at most this many redirects. -/
def followRedirects (call : ForwardCall) : Nat → OutgoingRequest → Exchange
  | 0, request =>
      match redirectOf network rules call request with
      | none => ⟨[request.withDefaults defaults], network call request⟩
      | some (elapsed, _) =>
          ⟨[request.withDefaults defaults], some (elapsed, .error .redirect)⟩
  | max + 1, request =>
      match redirectOf network rules call request with
      | none => ⟨[request.withDefaults defaults], network call request⟩
      | some (elapsed, url) =>
          -- a `Location` without a web address is an error of the builder
          if rules.valid url then
            let rest := followRedirects call max { request with url := url }
            ⟨request.withDefaults defaults :: rest.wire,
              rest.completion.map fun completion => (elapsed + completion.1, completion.2)⟩
          else ⟨[request.withDefaults defaults], some (elapsed, .error .builder)⟩

/-- A client that behaves as documented, for concrete runs. -/
def Client.following (policy : RedirectPolicy) : Client where
  send := fun call request =>
    if rules.valid request.url then
      match policy with
      | .none => ⟨[request.withDefaults defaults], network call request⟩
      | .limited max => followRedirects network rules defaults call max request
    else ⟨[], some (0, .error .builder)⟩

theorem followRedirects_wire_pos (call : ForwardCall) (max : Nat) (request : OutgoingRequest) :
    0 < (followRedirects network rules defaults call max request).wire.length := by
  cases max with
  | zero =>
      rw [followRedirects]
      split <;> exact Nat.one_pos
  | succ max =>
      rw [followRedirects]
      split
      · exact Nat.one_pos
      · split_ifs
        · exact Nat.succ_pos _
        · exact Nat.one_pos

theorem followRedirects_of_not_redirects {call : ForwardCall} {request : OutgoingRequest}
    (max : Nat) (harmless : ¬ Redirects network rules call request) :
    followRedirects network rules defaults call max request =
      ⟨[request.withDefaults defaults], network call request⟩ := by
  have direct : redirectOf network rules call request = none := not_not.mp harmless
  cases max <;> simp only [followRedirects, direct]

theorem followsPolicy_following (policy : RedirectPolicy) :
    FollowsPolicy (.following network rules defaults policy) policy network rules where
  invalid := by
    intro call request invalid
    simp [Client.following, invalid]
  direct := by
    intro call request valid harmless
    cases policy with
    | none => simp [Client.following, valid]
    | limited max =>
        simp [Client.following, valid, followRedirects_of_not_redirects _ _ _ max harmless]
  followed := by
    rintro call request max rfl valid redirects
    obtain ⟨⟨elapsed, url⟩, target⟩ := Option.ne_none_iff_exists'.mp redirects
    simp only [Client.following, valid, if_true, followRedirects, target]
    split_ifs with reachable
    · exact Or.inl (Nat.succ_le_succ (followRedirects_wire_pos network rules defaults call max _))
    · exact Or.inr fun _ _ => by simp

end Following

/-- A `Location` value, and URL rules that lead from it to a server outside the
pool. -/
def elsewhere : HeaderValue := ⟨[47, 47, 120], by decide⟩

def sampleRules : UrlRules where
  valid := fun _ => true
  resolve := fun _ value => if value = elsewhere then some "http://x/" else none

/-- The GPU task answers with the given status and that location, any other
server with 200. -/
def sampleNetwork (status : StatusCode) : Network := fun _ request =>
  if request.url = "http://10.0.0.1:8081/health" then
    some (0, .ok ⟨status, [(location, elsewhere)], []⟩)
  else some (0, .ok ⟨.ok, [], []⟩)

def samplePlatform (network : Network) : Platform where
  readFile := fun _ => none
  certificateFromPem := fun _ => none
  build := fun builder =>
    some (.following network sampleRules sampleDefaults builder.redirect)

theorem samplePlatform_documented (network : Network) (builder : ClientBuilder)
    (client : Client) (built : (samplePlatform network).build builder = some client) :
    FollowsPolicy client builder.redirect network sampleRules := by
  obtain rfl := Option.some.inj built
  exact followsPolicy_following network sampleRules sampleDefaults builder.redirect

theorem notFound_statusTransparent :
    ∃ state, AppState.new (samplePlatform (sampleNetwork ⟨404, by decide⟩)) .default =
        .ok state ∧
      StatusTransparent state.client (sampleNetwork ⟨404, by decide⟩) sampleRules
        (.get "/health") .sampleGpu .gpu 0 0 := by
  obtain ⟨state, started⟩ : ∃ state,
      AppState.new (samplePlatform (sampleNetwork ⟨404, by decide⟩)) .default = .ok state :=
    ⟨_, rfl⟩
  refine ⟨state, started, (forward_statusTransparent_iff started _ _
    (samplePlatform_documented _) _ _ _ _ _).mpr ?_⟩
  rintro ⟨-, redirects⟩
  exact redirects (by decide)

/-- A 302 of the upstream is followed out of the pool, and the client gets the
status of the other server. -/
theorem redirect_not_passed_through :
    ¬ ∀ (platform : Platform) (config : Config) (state : AppState) (network : Network)
        (rules : UrlRules) (ctx : ForwardCtx) (addr : SocketAddr) (poolType : PoolType)
        (attempt : Nat) (start : Instant),
      AppState.new platform config = .ok state →
      (∀ builder client, platform.build builder = some client →
        FollowsPolicy client builder.redirect network rules) →
      StatusTransparent state.client network rules ctx addr poolType attempt start := by
  intro claim
  have transparent := claim (samplePlatform (sampleNetwork ⟨302, by decide⟩)) .default _
    (sampleNetwork ⟨302, by decide⟩) sampleRules (.get "/health") .sampleGpu .gpu 0 0 rfl
    (samplePlatform_documented _)
  obtain ⟨_, _, answered, status, -⟩ := transparent.own 0 _ rfl
  obtain ⟨-, sent⟩ := Prod.mk.inj (Option.some.inj answered)
  obtain rfl := Except.ok.inj sent
  exact absurd status (by decide)

end BgeRouter
