import BgeRouter.RouteDispatch
import BgeRouter.TrippedRouting

/-!
# The pool effect of a hedged request

A leg changes the pool only when its retry loop runs to its end and the last
attempt has failed.  A leg that wins has no trip to make, and a leg that is
dropped, wherever it is, has not made one yet.  On a pool with distinct
addresses the effect of a hedged request is therefore one window for each leg
that has failed before the race was decided.
-/

namespace BgeRouter

/-- A leg of the plan whose attempts have all failed, the last one at `time`,
before the other leg has won. -/
inductive CompletedFailure (client : Client) (cfg : RetryConfig) (ctx : ForwardCtx)
    (hedgeDelay : Duration) (start : Instant) :
    HedgedPlan → SocketAddr → PoolType → (time : Instant) → Prop where
  | direct {addr poolType time}
      (fails : FailsAt cfg (callResult client ctx addr poolType) 0 cfg.initialBackoff
        start time) :
      CompletedFailure client cfg ctx hedgeDelay start (.direct addr poolType) addr poolType
        time
  | gpu {gpuAddr secondaryAddr secondaryPool time}
      (fails : FailsAt cfg (callResult client ctx gpuAddr .gpu) 0 cfg.initialBackoff
        start time)
      (unbeaten : ∀ won result,
        (forwardWithRetry client cfg ctx secondaryAddr secondaryPool
          (start + hedgeDelay)).finish = some (won, result) →
        isWinner result = true → time ≤ won) :
      CompletedFailure client cfg ctx hedgeDelay start
        (.race gpuAddr secondaryAddr secondaryPool) gpuAddr .gpu time
  | secondary {gpuAddr secondaryAddr secondaryPool time}
      (fails : FailsAt cfg (callResult client ctx secondaryAddr secondaryPool) 0
        cfg.initialBackoff (start + hedgeDelay) time)
      (unbeaten : ∀ won result,
        (forwardWithRetry client cfg ctx gpuAddr .gpu start).finish = some (won, result) →
        isWinner result = true → time < won) :
      CompletedFailure client cfg ctx hedgeDelay start
        (.race gpuAddr secondaryAddr secondaryPool) secondaryAddr secondaryPool time

/-- An entry gets the window that begins with the failure of its leg, and is
left alone if there is no such failure. -/
def EntryEffect (failed : SocketAddr → Instant → Prop) (cooldown : Duration)
    (before after : UpstreamInfo) : Prop :=
  (∃ time, failed before.addr time ∧
    after = { before with cooldownUntil := some (time + cooldown) }) ∨
  ((∀ time, ¬ failed before.addr time) ∧ after = before)

section Trips

variable {client : Client} {cfg : RetryConfig} {ctx : ForwardCtx} {hedgeDelay : Duration}
  {start : Instant} {plan : HedgedPlan}

theorem failsAt_iff_finish (addr : SocketAddr) (poolType : PoolType) (begins time : Instant) :
    FailsAt cfg (callResult client ctx addr poolType) 0 cfg.initialBackoff begins time ↔
      ∃ result, (forwardWithRetry client cfg ctx addr poolType begins).finish =
        some (time, result) ∧ isRetryable result = true :=
  (forwardWithRetry_course client cfg ctx addr poolType begins).failsAt_iff time

theorem isWinner_eq_false_iff {result : RouteResult} :
    isWinner result = false ↔ isRetryable result = true := by
  simp [isWinner_eq]

/-- The trips of a race are those that its two legs get to make. -/
theorem trips_runRace (gpuAddr secondaryAddr : SocketAddr) (secondaryPool : PoolType) :
    let gpuFut := forwardWithRetry client cfg ctx gpuAddr .gpu
    let leg := forwardWithRetry client cfg ctx secondaryAddr secondaryPool
    let outcome := raceOutcome (gpuFut start) (hedged hedgeDelay leg start)
    selected tripOf
        (runRace client cfg hedgeDelay gpuAddr secondaryAddr secondaryPool ctx start).effects =
      interleave
        ((tripAtFinish gpuAddr cfg.cooldown (gpuFut start).finish).filter
          fun made => outcome.pollsGpu made.1)
        ((tripAtFinish secondaryAddr cfg.cooldown (leg (start + hedgeDelay)).finish).filter
          fun made => outcome.pollsSecondary made.1) := by
  intro gpuFut leg outcome
  have gpuTrips : selected tripOf (gpuFut start).effects =
      tripAtFinish gpuAddr cfg.cooldown (gpuFut start).finish :=
    (forwardWithRetry_course client cfg ctx gpuAddr .gpu start).trips
  have legTrips : selected tripOf (hedged hedgeDelay leg start).effects =
      tripAtFinish secondaryAddr cfg.cooldown (leg (start + hedgeDelay)).finish :=
    (forwardWithRetry_course client cfg ctx secondaryAddr secondaryPool _).trips
  have ordered : (outcome.secondaryPerformed (hedged hedgeDelay leg start)).Pairwise
      NotLater :=
    (hedged hedgeDelay leg start).ordered.filter _
  calc selected tripOf
        (runRace client cfg hedgeDelay gpuAddr secondaryAddr secondaryPool ctx start).effects
      = selected tripOf (interleave (outcome.gpuPerformed (gpuFut start))
          (outcome.secondaryPerformed (hedged hedgeDelay leg start))) := rfl
    _ = interleave (selected tripOf (outcome.gpuPerformed (gpuFut start)))
          (selected tripOf (outcome.secondaryPerformed (hedged hedgeDelay leg start))) :=
        selected_interleave tripOf ordered
    _ = _ := by
        rw [RaceOutcome.gpuPerformed, RaceOutcome.secondaryPerformed, selected_filter,
          selected_filter, gpuTrips, legTrips]

/-- Each trip of the request is that of a completed failure. -/
theorem mem_trips_run_iff (plan : HedgedPlan) (time : Instant) (addr : SocketAddr)
    (duration : Duration) :
    (time, addr, duration) ∈
        selected tripOf (plan.run client cfg ctx hedgeDelay start).effects ↔
      duration = cfg.cooldown ∧
        ∃ poolType, CompletedFailure client cfg ctx hedgeDelay start plan addr poolType time := by
  cases plan with
  | nothing =>
      constructor
      · rintro ⟨⟩
      · rintro ⟨-, _, ⟨⟩⟩
  | direct legAddr legPool =>
      have trips := (forwardWithRetry_course client cfg ctx legAddr legPool start).trips
      rw [HedgedPlan.run, trips, mem_tripAtFinish_iff,
        ← failsAt_iff_finish legAddr legPool start time]
      constructor
      · rintro ⟨rfl, sameDuration, fails⟩
        exact ⟨sameDuration, legPool, .direct fails⟩
      · rintro ⟨sameDuration, _, ⟨fails⟩⟩
        exact ⟨rfl, sameDuration, fails⟩
  | race gpuAddr secondaryAddr secondaryPool =>
      have ends := hedgedRace_ends (forwardWithRetry client cfg ctx gpuAddr .gpu)
        (forwardWithRetry client cfg ctx secondaryAddr secondaryPool) hedgeDelay start
      rw [HedgedPlan.run, trips_runRace, mem_interleave, List.mem_filter, List.mem_filter,
        mem_tripAtFinish_iff, mem_tripAtFinish_iff]
      constructor
      · rintro (⟨⟨rfl, sameDuration, result, finished, failed⟩, polled⟩ |
          ⟨⟨rfl, sameDuration, result, finished, failed⟩, polled⟩)
        · have lost := isWinner_eq_false_iff.mpr failed
          refine ⟨sameDuration, .gpu, .gpu ?_ ((ends.pollsGpu_iff finished lost).mp polled)⟩
          exact (failsAt_iff_finish _ _ _ _).mpr ⟨result, finished, failed⟩
        · have lost := isWinner_eq_false_iff.mpr failed
          refine ⟨sameDuration, secondaryPool,
            .secondary ?_ ((ends.pollsSecondary_iff finished lost).mp polled)⟩
          exact (failsAt_iff_finish _ _ _ _).mpr ⟨result, finished, failed⟩
      · rintro ⟨sameDuration, _, failure⟩
        cases failure with
        | gpu fails unbeaten =>
            obtain ⟨result, finished, failed⟩ := (failsAt_iff_finish _ _ _ _).mp fails
            have lost := isWinner_eq_false_iff.mpr failed
            exact Or.inl ⟨⟨rfl, sameDuration, result, finished, failed⟩,
              (ends.pollsGpu_iff finished lost).mpr unbeaten⟩
        | secondary fails unbeaten =>
            obtain ⟨result, finished, failed⟩ := (failsAt_iff_finish _ _ _ _).mp fails
            have lost := isWinner_eq_false_iff.mpr failed
            exact Or.inr ⟨⟨rfl, sameDuration, result, finished, failed⟩,
              (ends.pollsSecondary_iff finished lost).mpr unbeaten⟩

theorem CompletedFailure.mem_legs {addr : SocketAddr} {poolType : PoolType} {time : Instant}
    (failure : CompletedFailure client cfg ctx hedgeDelay start plan addr poolType time) :
    (addr, poolType) ∈ plan.legs := by
  cases failure with
  | direct => exact List.mem_cons_self
  | gpu => exact List.mem_cons_self
  | secondary => exact List.mem_cons_of_mem _ List.mem_cons_self

theorem tripAtFinish_filter_sublist (addr : SocketAddr) (cooldown : Duration)
    (finish : Option (Instant × RouteResult)) (kept : Instant × SocketAddr × Duration → Bool) :
    (((tripAtFinish addr cooldown finish).filter kept).map fun made => made.2.1).Sublist
      [addr] := by
  cases finish with
  | none => exact List.nil_sublist _
  | some finished =>
      simp only [tripAtFinish]
      split_ifs
      · exact List.filter_sublist.map _
      · exact List.nil_sublist _

theorem nodup_trips_run {snapshot : PoolSnapshot}
    (choice : HedgedChoice snapshot start plan) (distinct : snapshot.DistinctAddresses) :
    ((selected tripOf (plan.run client cfg ctx hedgeDelay start).effects).map
      fun made => made.2.1).Nodup := by
  cases plan with
  | nothing => exact List.nodup_nil
  | direct addr poolType =>
      have trips := (forwardWithRetry_course client cfg ctx addr poolType start).trips
      rw [HedgedPlan.run, trips, ← List.filter_true (tripAtFinish _ _ _)]
      exact (List.nodup_singleton addr).sublist (tripAtFinish_filter_sublist addr _ _ _)
  | race gpuAddr secondaryAddr secondaryPool =>
      have ne := choice.addr_ne distinct
      have both : [gpuAddr, secondaryAddr].Nodup := by simp [ne]
      rw [HedgedPlan.run, trips_runRace]
      apply ((interleave_perm _ _).map _).nodup_iff.mpr
      rw [List.map_append]
      exact both.sublist
        ((tripAtFinish_filter_sublist gpuAddr _ _ _).append
          (tripAtFinish_filter_sublist secondaryAddr _ _ _))

end Trips

section Pool

variable {client : Client} {cfg : RetryConfig} {ctx : ForwardCtx} {hedgeDelay : Duration}
  {start : Instant} {plan : HedgedPlan} {snapshot : PoolSnapshot}

/-- An upstream whose attempts began at a selection was idle then, and still is
when they have failed. -/
theorem CompletedFailure.idle {addr : SocketAddr} {poolType : PoolType} {time : Instant}
    (failure : CompletedFailure client cfg ctx hedgeDelay start plan addr poolType time)
    (choice : HedgedChoice snapshot start plan) (distinct : snapshot.DistinctAddresses) :
    IdleAddress snapshot addr time := by
  have idleAtStart := (choice.picksRoutable failure.mem_legs).idle distinct
  have made : (time, addr, cfg.cooldown) ∈
      selected tripOf (plan.run client cfg ctx hedgeDelay start).effects :=
    (mem_trips_run_iff plan time addr cfg.cooldown).mpr ⟨rfl, poolType, failure⟩
  obtain ⟨effect, member, -⟩ := mem_selected.mp made
  exact idleAtStart.mono ((plan.run client cfg ctx hedgeDelay start).started _ member)

/-- The request rewrites the windows of the entries of its failed legs. -/
theorem pool_run (choice : HedgedChoice snapshot start plan)
    (distinct : snapshot.DistinctAddresses) (positive : 0 < cfg.cooldown)
    (poolType : PoolType) :
    (poolAfter snapshot (plan.run client cfg ctx hedgeDelay start).effects).pool poolType =
      (snapshot.pool poolType).map
        (setWindows (selected tripOf (plan.run client cfg ctx hedgeDelay start).effects)) := by
  refine applyTrips_pool distinct (nodup_trips_run choice distinct) ?_ poolType
  rintro ⟨time, addr, duration⟩ member
  obtain ⟨rfl, failedPool, failure⟩ := (mem_trips_run_iff plan time addr duration).mp member
  exact ⟨positive, failure.idle choice distinct⟩

/-- What becomes of a single entry. -/
theorem entryEffect_run (choice : HedgedChoice snapshot start plan)
    (distinct : snapshot.DistinctAddresses) {poolType : PoolType} {upstream : UpstreamInfo}
    (member : upstream ∈ snapshot.pool poolType) :
    EntryEffect
      (fun addr time =>
        CompletedFailure client cfg ctx hedgeDelay start plan addr poolType time)
      cfg.cooldown upstream
      (setWindows (selected tripOf (plan.run client cfg ctx hedgeDelay start).effects)
        upstream) := by
  by_cases failed : ∃ time, CompletedFailure client cfg ctx hedgeDelay start plan
      upstream.addr poolType time
  · obtain ⟨time, failure⟩ := failed
    refine Or.inl ⟨time, failure, ?_⟩
    apply setWindows_of_mem (nodup_trips_run choice distinct)
    exact (mem_trips_run_iff plan time upstream.addr cfg.cooldown).mpr
      ⟨rfl, poolType, failure⟩
  · refine Or.inr ⟨fun time failure => failed ⟨time, failure⟩, ?_⟩
    apply setWindows_of_absent
    rintro ⟨time, addr, duration⟩ made same
    obtain ⟨-, failedPool, failure⟩ := (mem_trips_run_iff plan time addr duration).mp made
    have sameAddr : addr = upstream.addr := same
    subst sameAddr
    obtain ⟨leg, legMember, legSame, -⟩ := choice.picksRoutable failure.mem_legs
    obtain ⟨rfl, -⟩ := distinct.unique legMember member legSame
    exact failed ⟨time, failure⟩

/-- Without a completed failure the pool stays as it is. -/
theorem poolAfter_run_of_no_failure
    (unfailed : ∀ addr poolType time,
      ¬ CompletedFailure client cfg ctx hedgeDelay start plan addr poolType time) :
    poolAfter snapshot (plan.run client cfg ctx hedgeDelay start).effects = snapshot := by
  have noTrip : selected tripOf (plan.run client cfg ctx hedgeDelay start).effects = [] := by
    apply List.eq_nil_iff_forall_not_mem.mpr
    rintro ⟨time, addr, duration⟩ made
    obtain ⟨-, poolType, failure⟩ := (mem_trips_run_iff plan time addr duration).mp made
    exact unfailed addr poolType time failure
  rw [poolAfter, noTrip, applyTrips_nil]

/-- A hedged request that returns a failure has seen all its legs fail. -/
theorem completedFailure_of_run_failed {last : Instant} {result : RouteResult}
    (finished : (plan.run client cfg ctx hedgeDelay start).finish = some (last, result))
    (failed : isWinner result = false) {leg : SocketAddr × PoolType}
    (member : leg ∈ plan.legs) :
    ∃ time, time ≤ last ∧
      CompletedFailure client cfg ctx hedgeDelay start plan leg.1 leg.2 time := by
  cases plan with
  | nothing => cases member
  | direct addr poolType =>
      obtain rfl := List.mem_singleton.mp member
      refine ⟨last, Nat.le_refl last, .direct ?_⟩
      exact (failsAt_iff_finish _ _ _ _).mpr
        ⟨result, finished, isWinner_eq_false_iff.mp failed⟩
  | race gpuAddr secondaryAddr secondaryPool =>
      have ends := hedgedRace_ends (forwardWithRetry client cfg ctx gpuAddr .gpu)
        (forwardWithRetry client cfg ctx secondaryAddr secondaryPool) hedgeDelay start
      obtain ⟨gpuTime, gpuFailure, time, failure, ofGpu, ofSecondary, gpuFailed, ownFailed,
        gpuOrder, order⟩ := ends.both_failed finished failed
      rcases List.mem_cons.mp member with rfl | inTail
      · refine ⟨gpuTime, gpuOrder, .gpu ?_ ?_⟩
        · exact (failsAt_iff_finish _ _ _ _).mpr
            ⟨gpuFailure, ofGpu, isWinner_eq_false_iff.mp gpuFailed⟩
        · intro won winnerResult again winner
          cases ofSecondary.symm.trans again
          rw [ownFailed] at winner
          cases winner
      · obtain rfl := List.mem_singleton.mp inTail
        refine ⟨time, order, .secondary ?_ ?_⟩
        · exact (failsAt_iff_finish _ _ _ _).mpr
            ⟨failure, ofSecondary, isWinner_eq_false_iff.mp ownFailed⟩
        · intro won winnerResult again winner
          cases ofGpu.symm.trans again
          rw [gpuFailed] at winner
          cases winner

/-- The window of a failed leg, and what it means for later requests. -/
theorem CompletedFailure.window {addr : SocketAddr} {poolType : PoolType} {time : Instant}
    (failure : CompletedFailure client cfg ctx hedgeDelay start plan addr poolType time)
    (choice : HedgedChoice snapshot start plan) (distinct : snapshot.DistinctAddresses)
    (positive : 0 < cfg.cooldown) :
    let after := poolAfter snapshot (plan.run client cfg ctx hedgeDelay start).effects
    cooldownOf (after.pool poolType) addr = some (time + cfg.cooldown) ∧
      ∀ now, now < time + cfg.cooldown → OutOfRouting after addr now := by
  intro after
  obtain ⟨upstream, member, rfl, -⟩ := choice.picksRoutable failure.mem_legs
  have afterDistinct : after.DistinctAddresses := distinctAddresses_applyTrips distinct
  have made := (mem_trips_run_iff plan time upstream.addr cfg.cooldown).mpr
    ⟨rfl, poolType, failure⟩
  have updated : { upstream with cooldownUntil := some (time + cfg.cooldown) } ∈
      after.pool poolType := by
    rw [pool_run choice distinct positive poolType,
      ← setWindows_of_mem (nodup_trips_run choice distinct) made]
    exact List.mem_map_of_mem member
  constructor
  · exact cooldownOf_of_mem (afterDistinct.pool poolType) updated
  · intro now ahead
    apply outOfRouting_iff_cooled.mpr
    intro other otherMember otherAddr
    obtain ⟨otherPool, otherMember⟩ := PoolSnapshot.mem_entries.mp otherMember
    obtain ⟨-, rfl⟩ := afterDistinct.unique updated otherMember otherAddr.symm
    exact isInCooldown_iff.mpr ⟨_, rfl, ahead⟩

end Pool

/-- **The pool effect of a hedged request is exactly its completed failures.**
If the request fails, every leg has its window, and no selector returns the
address of a leg before its window has ended. -/
theorem hedgedRace_poolEffect (client : Client) (cfg : RetryConfig) (ctx : ForwardCtx)
    (hedgeDelay : Duration) (snapshot : PoolSnapshot) (start : Instant)
    (positive : 0 < cfg.cooldown) (distinct : snapshot.DistinctAddresses) :
    let request := hedgedRace client cfg ctx (.alone snapshot) hedgeDelay start
    let after := poolAfter snapshot request.effects
    let failure := CompletedFailure client cfg ctx hedgeDelay start (hedgedPlan snapshot start)
    (∀ poolType, List.Forall₂
      (EntryEffect (fun addr time => failure addr poolType time) cfg.cooldown)
      (snapshot.pool poolType) (after.pool poolType)) ∧
    ((∀ addr poolType time, ¬ failure addr poolType time) → after = snapshot) ∧
    ∀ last result, request.finish = some (last, result) → isWinner result = false →
      ∀ addr poolType, (addr, poolType) ∈ (hedgedPlan snapshot start).legs →
        ∃ time, time ≤ last ∧ failure addr poolType time ∧
          cooldownOf (after.pool poolType) addr = some (time + cfg.cooldown) ∧
          ∀ now, now < time + cfg.cooldown → OutOfRouting after addr now := by
  intro request after failure
  have choice := hedgedPlan_choice snapshot start
  have planned : request = (hedgedPlan snapshot start).run client cfg ctx hedgeDelay start :=
    hedgedRace_apply
  have sameAfter : after = poolAfter snapshot
      ((hedgedPlan snapshot start).run client cfg ctx hedgeDelay start).effects := by
    rw [← planned]
  rw [sameAfter, planned]
  refine ⟨?_, poolAfter_run_of_no_failure, ?_⟩
  · intro poolType
    rw [pool_run choice distinct positive poolType, List.forall₂_map_right_iff,
      List.forall₂_same]
    exact fun upstream member => entryEffect_run choice distinct member
  · intro last result finished failed addr poolType member
    obtain ⟨time, order, legFailure⟩ := completedFailure_of_run_failed finished failed member
    exact ⟨time, order, legFailure, legFailure.window choice distinct positive⟩

/-- A healthy upstream in each pool. -/
def okGpuOkCpu : PoolSnapshot where
  gpu := [⟨.sampleGpu, .gpu, .ok, 0, 1, 0, none⟩]
  cpu := [⟨.sampleCpu, .cpu, .ok, 0, 1, 0, none⟩]
  updatedAt := 0

/-- A race in which both upstreams refuse the connection. -/
def refusedRace : Course RouterEffect RouteResult 0 :=
  hedgedRace (.uniform (some (0, .error .request))) ⟨0, 1, 1, 1⟩ (.get "/v1/embeddings")
    (.alone okGpuOkCpu) 1 0

theorem refusedRace_opens_both_windows :
    (∃ time, cooldownOf (poolAfter okGpuOkCpu refusedRace.effects).gpu .sampleGpu =
      some (time + 1)) ∧
    ∃ time, cooldownOf (poolAfter okGpuOkCpu refusedRace.effects).cpu .sampleCpu =
      some (time + 1) := by
  have windows := (hedgedRace_poolEffect (.uniform (some (0, .error .request))) ⟨0, 1, 1, 1⟩
    (.get "/v1/embeddings") 1 okGpuOkCpu 0 (by decide) (by decide)).2.2 _ _ rfl rfl
  obtain ⟨gpuTime, -, -, gpuWindow, -⟩ := windows .sampleGpu .gpu List.mem_cons_self
  obtain ⟨cpuTime, -, -, cpuWindow, -⟩ :=
    windows .sampleCpu .cpu (List.mem_cons_of_mem _ List.mem_cons_self)
  exact ⟨⟨gpuTime, gpuWindow⟩, cpuTime, cpuWindow⟩

end BgeRouter
