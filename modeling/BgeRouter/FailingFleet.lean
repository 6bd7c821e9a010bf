import BgeRouter.CallBounds
import BgeRouter.HealthPolling

/-!
# What the breaker saves a failing fleet

While requests keep failing, every upstream that one of them has called is put
in cooldown when its retries are used up.  So however many inference requests
follow one another, and whatever the polls report meanwhile, an upstream is
called no more often than one request tries it within the time of a cooldown.
-/

namespace BgeRouter

/-- A hedged request, with the pool that it sees and what the upstreams do. -/
structure HedgedRequest where
  client : Client
  ctx : ForwardCtx
  snapshot : PoolSnapshot
  start : Instant

/-- The windows of the one pool are those of the other, whatever else may have
been updated in between. -/
def KeepsDeadlines (before after : PoolSnapshot) : Prop :=
  ∀ poolType addr deadline, cooldownOf (before.pool poolType) addr = some deadline →
    cooldownOf (after.pool poolType) addr = some deadline

namespace HedgedRequest

variable (cfg : RetryConfig) (hedgeDelay : Duration)

def course (request : HedgedRequest) : Course RouterEffect RouteResult request.start :=
  hedgedRace request.client cfg request.ctx (.alone request.snapshot) hedgeDelay request.start

/-- The pool after the trips of a request. -/
def after (request : HedgedRequest) : PoolSnapshot :=
  poolAfter request.snapshot (request.course cfg hedgeDelay).effects

def FailedBy (request : HedgedRequest) (time : Instant) : Prop :=
  ∃ last result, (request.course cfg hedgeDelay).finish = some (last, result) ∧
    isWinner result = false ∧ last ≤ time

/-- The request begins after another one has failed. -/
def Follows (earlier request : HedgedRequest) : Prop :=
  earlier.FailedBy cfg hedgeDelay request.start ∧
    KeepsDeadlines (earlier.after cfg hedgeDelay) request.snapshot

/-- The request calls the upstream of this leg. -/
def Calls (request : HedgedRequest) (leg : SocketAddr × PoolType) (called : Instant) : Prop :=
  (called, .forward leg.1 leg.2) ∈ (request.course cfg hedgeDelay).effects

/-- The pool that the request sees has a window that outlasts the cooldown from
this call on. -/
def SeesWindow (request : HedgedRequest) (leg : SocketAddr × PoolType) (called : Instant) :
    Prop :=
  ∃ deadline, cooldownOf (request.snapshot.pool leg.2) leg.1 = some deadline ∧
    called + cfg.cooldown ≤ deadline

end HedgedRequest

theorem keepsDeadlines_applyUpdates (snapshot : PoolSnapshot) (results : List PollResult)
    (now : Instant) : KeepsDeadlines snapshot (applyUpdates snapshot results now) := by
  intro poolType addr deadline window
  rw [applyUpdates_pool, cooldownOf_updatePool]
  exact window

section Legs

variable {client : Client} {cfg : RetryConfig} {ctx : ForwardCtx} {hedgeDelay : Duration}
  {snapshot : PoolSnapshot} {start called time : Instant} {plan : HedgedPlan}
  {leg : SocketAddr × PoolType}

/-- A leg calls its own upstream only. -/
theorem leg_of_loop_call {own : SocketAddr × PoolType}
    (call : (called, .forward leg.1 leg.2) ∈
      (forwardWithRetry client cfg ctx own.1 own.2 start).effects) :
    start ≤ called ∧ leg = own := by
  obtain ⟨later, same | ⟨impossible, -⟩⟩ := mem_effects_forwardWithRetry call
  · obtain ⟨sameAddr, samePool⟩ := RouterEffect.forward.inj same
    exact ⟨later, Prod.ext sameAddr samePool⟩
  · cases impossible

theorem leg_of_call
    (call : (called, .forward leg.1 leg.2) ∈
      (plan.run client cfg ctx hedgeDelay start).effects) :
    start ≤ called ∧ leg ∈ plan.legs := by
  rcases mem_effects_plan call with impossible | ⟨own, member, begins, order, ofLeg⟩
  · cases impossible
  · obtain ⟨later, rfl⟩ := leg_of_loop_call ofLeg
    exact ⟨Nat.le_trans order later, member⟩

/-- The calls of a race are those of its legs. -/
theorem call_of_race {gpuAddr secondaryAddr : SocketAddr} {secondaryPool : PoolType}
    (call : (called, .forward leg.1 leg.2) ∈
      (HedgedPlan.run client cfg ctx hedgeDelay (.race gpuAddr secondaryAddr secondaryPool)
        start).effects) :
    (leg = (gpuAddr, .gpu) ∧ (called, .forward leg.1 leg.2) ∈
        (forwardWithRetry client cfg ctx gpuAddr .gpu start).effects) ∨
      (leg = (secondaryAddr, secondaryPool) ∧ (called, .forward leg.1 leg.2) ∈
        (forwardWithRetry client cfg ctx secondaryAddr secondaryPool
          (start + hedgeDelay)).effects) := by
  rcases mem_interleave.mp call with ofGpu | ofSecondary
  · have inLoop := List.mem_of_mem_filter ofGpu
    exact Or.inl ⟨(@leg_of_loop_call _ _ _ _ _ _ (gpuAddr, .gpu) inLoop).2, inLoop⟩
  · rcases List.mem_cons.mp (List.mem_of_mem_filter ofSecondary) with same | inLoop
    · cases same
    · exact Or.inr
        ⟨(@leg_of_loop_call _ _ _ _ _ _ (secondaryAddr, secondaryPool) inLoop).2, inLoop⟩

/-- A leg makes its calls before it fails. -/
theorem call_le_failure (choice : HedgedChoice snapshot start plan)
    (call : (called, .forward leg.1 leg.2) ∈
      (plan.run client cfg ctx hedgeDelay start).effects)
    (failure : CompletedFailure client cfg ctx hedgeDelay start plan leg.1 leg.2 time) :
    called ≤ time := by
  obtain ⟨addr, poolType⟩ := leg
  cases failure with
  | direct fails =>
      obtain ⟨result, finished, -⟩ := (failsAt_iff_finish _ _ _ _).mp fails
      exact (Course.ended _ _ _ finished).2 _ call
  | gpu fails _ =>
      obtain ⟨result, finished, -⟩ := (failsAt_iff_finish _ _ _ _).mp fails
      cases choice with
      | race gpu secondary =>
          rcases call_of_race call with ⟨-, ofGpu⟩ | ⟨same, -⟩
          · exact (Course.ended _ _ _ finished).2 _ ofGpu
          · exact absurd same.symm (secondaryCandidate_ne gpu secondary)
  | secondary fails _ =>
      obtain ⟨result, finished, -⟩ := (failsAt_iff_finish _ _ _ _).mp fails
      cases choice with
      | race gpu secondary =>
          rcases call_of_race call with ⟨same, -⟩ | ⟨-, ofSecondary⟩
          · exact absurd same (secondaryCandidate_ne gpu secondary)
          · exact (Course.ended _ _ _ finished).2 _ ofSecondary

/-- A selected upstream is idle, so its last window is over. -/
theorem deadline_le_of_leg (choice : HedgedChoice snapshot start plan)
    (distinct : snapshot.DistinctAddresses) (member : leg ∈ plan.legs) {deadline : Instant}
    (window : cooldownOf (snapshot.pool leg.2) leg.1 = some deadline) : deadline ≤ start := by
  obtain ⟨upstream, ofPool, sameAddr, routable⟩ := choice.picksRoutable member
  have own : cooldownOf (snapshot.pool leg.2) upstream.addr = upstream.cooldownUntil :=
    cooldownOf_of_mem (distinct.pool leg.2) ofPool
  rw [sameAddr, window] at own
  have idle := routable.not_inCooldown
  by_contra ahead
  have cooling : upstream.isInCooldown start = true :=
    isInCooldown_iff.mpr ⟨deadline, own.symm, Nat.lt_of_not_le ahead⟩
  rw [idle] at cooling
  cases cooling

theorem CompletedFailure.start_le
    (failure : CompletedFailure client cfg ctx hedgeDelay start plan leg.1 leg.2 time) :
    start ≤ time := by
  have made : (time, leg.1, cfg.cooldown) ∈
      selected tripOf (plan.run client cfg ctx hedgeDelay start).effects :=
    (mem_trips_run_iff plan time leg.1 cfg.cooldown).mpr ⟨rfl, leg.2, failure⟩
  obtain ⟨effect, member, -⟩ := mem_selected.mp made
  exact (plan.run client cfg ctx hedgeDelay start).started _ member

/-- A request rewrites a window only by a later one. -/
theorem exists_window_after (choice : HedgedChoice snapshot start plan)
    (distinct : snapshot.DistinctAddresses) (positive : 0 < cfg.cooldown)
    {deadline : Instant} (window : cooldownOf (snapshot.pool leg.2) leg.1 = some deadline) :
    ∃ later, cooldownOf ((poolAfter snapshot
        (plan.run client cfg ctx hedgeDelay start).effects).pool leg.2) leg.1 = some later ∧
      deadline ≤ later := by
  have afterDistinct : (poolAfter snapshot
      (plan.run client cfg ctx hedgeDelay start).effects).DistinctAddresses :=
    distinctAddresses_applyTrips distinct
  obtain ⟨upstream, found, ownWindow⟩ := Option.bind_eq_some_iff.mp window
  have member : upstream ∈ snapshot.pool leg.2 := List.mem_of_find?_eq_some found
  have sameAddr : upstream.addr = leg.1 := by simpa using List.find?_some found
  have updated := List.mem_map_of_mem
    (f := setWindows (selected tripOf (plan.run client cfg ctx hedgeDelay start).effects)) member
  rw [← pool_run choice distinct positive leg.2] at updated
  rcases entryEffect_run choice distinct member with ⟨time, failure, same⟩ | ⟨-, same⟩
  · rw [same] at updated
    rw [sameAddr] at failure
    refine ⟨time + cfg.cooldown, ?_, ?_⟩
    · rw [← sameAddr]
      exact cooldownOf_of_mem (afterDistinct.pool leg.2) updated
    · have idle := deadline_le_of_leg choice distinct failure.mem_legs window
      exact Nat.le_trans idle (Nat.le_trans failure.start_le (Nat.le_add_right _ _))
  · rw [same] at updated
    refine ⟨deadline, ?_, Nat.le_refl _⟩
    rw [← sameAddr, ← ownWindow]
    exact cooldownOf_of_mem (afterDistinct.pool leg.2) updated

end Legs

section Requests

variable {cfg : RetryConfig} {hedgeDelay : Duration} {request next : HedgedRequest}
  {requests : List HedgedRequest} {leg : SocketAddr × PoolType} {called : Instant}

theorem HedgedRequest.course_eq (request : HedgedRequest) :
    request.course cfg hedgeDelay =
      (hedgedPlan request.snapshot request.start).run request.client cfg request.ctx hedgeDelay
        request.start :=
  hedgedRace_apply

/-- What a failed request has called cools down after it. -/
theorem HedgedRequest.Calls.window_after (call : request.Calls cfg hedgeDelay leg called)
    (distinct : request.snapshot.DistinctAddresses) (positive : 0 < cfg.cooldown)
    {time : Instant} (failed : request.FailedBy cfg hedgeDelay time) :
    ∃ deadline, cooldownOf ((request.after cfg hedgeDelay).pool leg.2) leg.1 = some deadline ∧
      called + cfg.cooldown ≤ deadline := by
  have choice := hedgedPlan_choice request.snapshot request.start
  obtain ⟨last, result, finished, lost, -⟩ := failed
  rw [HedgedRequest.Calls, course_eq] at call
  rw [course_eq] at finished
  obtain ⟨time, -, failure⟩ := completedFailure_of_run_failed finished lost (leg_of_call call).2
  have before := call_le_failure choice call failure
  refine ⟨time + cfg.cooldown, ?_, Nat.add_le_add_right before _⟩
  rw [after, course_eq]
  exact (failure.window choice distinct positive).1

/-- A request that sees such a window does not call the upstream before its end. -/
theorem HedgedRequest.SeesWindow.apart (seen : request.SeesWindow cfg leg called)
    (distinct : request.snapshot.DistinctAddresses) {again : Instant}
    (call : request.Calls cfg hedgeDelay leg again) : called + cfg.cooldown ≤ again := by
  obtain ⟨deadline, window, ahead⟩ := seen
  rw [HedgedRequest.Calls, course_eq] at call
  obtain ⟨begun, member⟩ := leg_of_call call
  have finished := deadline_le_of_leg (hedgedPlan_choice _ _) distinct member window
  exact Nat.le_trans ahead (Nat.le_trans finished begun)

theorem HedgedRequest.SeesWindow.kept (seen : request.SeesWindow cfg leg called)
    (distinct : request.snapshot.DistinctAddresses) (positive : 0 < cfg.cooldown)
    (follows : request.Follows cfg hedgeDelay next) : next.SeesWindow cfg leg called := by
  obtain ⟨deadline, window, ahead⟩ := seen
  obtain ⟨later, windowAfter, order⟩ := @exists_window_after request.client cfg request.ctx
    hedgeDelay _ _ _ _ (hedgedPlan_choice request.snapshot request.start) distinct positive
    deadline window
  rw [← course_eq] at windowAfter
  exact ⟨later, follows.2 _ _ _ windowAfter, Nat.le_trans ahead order⟩

/-- The window is seen by all requests that follow one another. -/
theorem apart_of_seesWindow (positive : 0 < cfg.cooldown)
    (inTurn : (request :: requests).IsChain (HedgedRequest.Follows cfg hedgeDelay))
    (distinct : ∀ other ∈ request :: requests, other.snapshot.DistinctAddresses)
    (seen : request.SeesWindow cfg leg called) :
    ∀ other ∈ request :: requests, ∀ again, other.Calls cfg hedgeDelay leg again →
      called + cfg.cooldown ≤ again := by
  induction requests generalizing request with
  | nil =>
      intro other member again call
      obtain rfl := List.mem_singleton.mp member
      exact seen.apart (distinct other List.mem_cons_self) call
  | cons next later ih =>
      obtain ⟨follows, laterInTurn⟩ := List.isChain_cons_cons.mp inTurn
      have own := distinct request List.mem_cons_self
      have kept : next.SeesWindow cfg leg called := seen.kept own positive follows
      intro other member again call
      rcases List.mem_cons.mp member with rfl | ofLater
      · exact seen.apart own call
      · exact ih laterInTurn (fun other member => distinct other (List.mem_cons_of_mem _ member))
          kept other ofLater again call

/-- Calls of different requests to one upstream are a cooldown apart. -/
theorem pairwise_calls_apart (positive : 0 < cfg.cooldown)
    (inTurn : requests.IsChain (HedgedRequest.Follows cfg hedgeDelay))
    (distinct : ∀ other ∈ requests, other.snapshot.DistinctAddresses) :
    requests.Pairwise fun earlier later => ∀ leg called again,
      earlier.Calls cfg hedgeDelay leg called → later.Calls cfg hedgeDelay leg again →
        called + cfg.cooldown ≤ again := by
  induction requests with
  | nil => exact List.Pairwise.nil
  | cons request later ih =>
      have laterDistinct : ∀ other ∈ later, other.snapshot.DistinctAddresses :=
        fun other member => distinct other (List.mem_cons_of_mem _ member)
      cases later with
      | nil => exact List.pairwise_singleton _ _
      | cons next others =>
          obtain ⟨follows, laterInTurn⟩ := List.isChain_cons_cons.mp inTurn
          refine List.pairwise_cons.mpr ⟨?_, ih laterInTurn laterDistinct⟩
          intro other member leg called again call otherCall
          obtain ⟨deadline, window, ahead⟩ :=
            call.window_after (distinct request List.mem_cons_self) positive follows.1
          have seen : next.SeesWindow cfg leg called :=
            ⟨deadline, follows.2 _ _ _ window, ahead⟩
          exact apart_of_seesWindow positive laterInTurn laterDistinct seen other member again
            otherCall

/-- The calls to one upstream, as effects. -/
def callsLeg (leg : SocketAddr × PoolType) (effect : RouterEffect) : Bool :=
  decide (effect = .forward leg.1 leg.2)

theorem countP_callsLeg (effects : List (Instant × RouterEffect)) :
    (effects.countP fun effect => callsLeg leg effect.2) = (calls effects).count leg := by
  induction effects with
  | nil => rfl
  | cons effect rest ih =>
      obtain ⟨time, effect⟩ := effect
      cases effect with
      | forward addr poolType =>
          rw [calls_forward, List.countP_cons, List.count_cons, ih]
          congr 1
          obtain ⟨ownAddr, ownPool⟩ := leg
          simp [callsLeg]
      | trip addr duration => exact (List.countP_cons_of_neg (by simp [callsLeg])).trans ih
      | secondaryStarted => exact (List.countP_cons_of_neg (by simp [callsLeg])).trans ih

/-- **A failing fleet is spared.**  However many hedged requests follow one
another while they all fail, within the time of a cooldown no upstream is
called more often than a single request tries it. -/
theorem failingFleet_spared (positive : 0 < cfg.cooldown)
    (inTurn : requests.IsChain (HedgedRequest.Follows cfg hedgeDelay))
    (distinct : ∀ request ∈ requests, request.snapshot.DistinctAddresses)
    (leg : SocketAddr × PoolType) (start : Instant) :
    countInWindow (callsLeg leg) cfg.cooldown start
        (requests.map fun request => (request.course cfg hedgeDelay).effects).flatten ≤
      cfg.maxRetries + 1 := by
  apply countInWindow_flatten_le
  · intro batch member
    obtain ⟨request, -, rfl⟩ := List.mem_map.mp member
    rw [countP_callsLeg, HedgedRequest.course_eq]
    exact (callsOfLegs_plan (hedgedPlan_choice _ _)).count_le leg
  · rw [List.pairwise_map]
    apply (pairwise_calls_apart positive inTurn distinct).imp
    intro earlier later apart first firstMember second secondMember firstCalls secondCalls
    have sameFirst := of_decide_eq_true firstCalls
    have sameSecond := of_decide_eq_true secondCalls
    apply apart leg first.1 second.1
    · rw [HedgedRequest.Calls, ← sameFirst]
      exact firstMember
    · rw [HedgedRequest.Calls, ← sameSecond]
      exact secondMember

end Requests

/-- A request to a fleet that refuses every connection. -/
def firstRefused : HedgedRequest :=
  ⟨.uniform (some (0, .error .request)), .get "/v1/embeddings", okGpuOkCpu, 0⟩

/-- Another one, after a poll in which the GPU upstream has reported to be well. -/
def refusedAgain : HedgedRequest :=
  { firstRefused with
    snapshot := applyUpdates (firstRefused.after ⟨1, 1, 1, 10⟩ 1) [⟨.sampleGpu, .ok, 0, 1⟩] 3
    start := 5 }

theorem failingFleet_spared_afterPoll :
    countInWindow (callsLeg (.sampleGpu, .gpu)) 10 0
      ([firstRefused, refusedAgain].map fun request =>
        (request.course ⟨1, 1, 1, 10⟩ 1).effects).flatten ≤ 2 := by
  have failed : firstRefused.FailedBy ⟨1, 1, 1, 10⟩ 1 refusedAgain.start :=
    ⟨2, .error (.upstream .request), by decide +kernel, rfl, by decide⟩
  have follows : firstRefused.Follows ⟨1, 1, 1, 10⟩ 1 refusedAgain :=
    ⟨failed, keepsDeadlines_applyUpdates _ _ _⟩
  refine @failingFleet_spared ⟨1, 1, 1, 10⟩ 1 [firstRefused, refusedAgain] (by decide)
    (List.isChain_cons_cons.mpr ⟨follows, .singleton _⟩) ?_ _ 0
  intro request member
  rcases List.mem_cons.mp member with rfl | last
  · decide
  · obtain rfl := List.mem_singleton.mp last
    decide +kernel

end BgeRouter
