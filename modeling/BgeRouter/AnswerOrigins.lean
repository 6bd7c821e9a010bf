import BgeRouter.RequestLegs

/-!
# Where the result of a request comes from

Retries, the race and the timeouts choose among the outcomes of calls, they
never make one up.  The result of a request is the outcome of one of the calls
that the request has really made, or the refusal of a request that has no
upstream left to try.
-/

namespace BgeRouter

/-- The result is the outcome of one of these calls, received by `time`. -/
def ComesFromCall (client : Client) (ctx : ForwardCtx)
    (effects : List (Instant × RouterEffect)) (time : Instant) (result : RouteResult) :
    Prop :=
  ∃ addr poolType attempt begun elapsed,
    (begun, .forward addr poolType) ∈ effects ∧
      callResult client ctx addr poolType attempt begun = some (elapsed, result) ∧
      begun + elapsed ≤ time

section Loops

variable {client : Client} {cfg : RetryConfig} {ctx : ForwardCtx} {addr : SocketAddr}
  {poolType : PoolType} {start time : Instant} {result : RouteResult}
  {effects : List (Instant × RouterEffect)}

theorem ComesFromCall.mono {more : List (Instant × RouterEffect)} {later : Instant}
    (comes : ComesFromCall client ctx effects time result)
    (subset : ∀ effect ∈ effects, effect.1 ≤ time → effect ∈ more) (order : time ≤ later) :
    ComesFromCall client ctx more later result := by
  obtain ⟨addr, poolType, attempt, begun, elapsed, called, answered, inTime⟩ := comes
  refine ⟨addr, poolType, attempt, begun, elapsed, ?_, answered, Nat.le_trans inTime order⟩
  exact subset _ called (Nat.le_trans (Nat.le_add_right _ _) inTime)

/-- A retry loop returns the outcome of its last call. -/
theorem RetryCourse.comesFromCall {attempt : Nat} {backoff : Duration}
    {finish : Option (Instant × RouteResult)}
    (course : RetryCourse cfg addr poolType (callResult client ctx addr poolType) attempt
      backoff start effects finish) (finished : finish = some (time, result)) :
    ComesFromCall client ctx effects time result := by
  induction course with
  | silent => cases finished
  | kept answered =>
      cases finished
      exact ⟨addr, poolType, _, _, _, List.mem_cons_self, answered, Nat.le_refl _⟩
  | exhausted answered =>
      cases finished
      exact ⟨addr, poolType, _, _, _, List.mem_cons_self, answered, Nat.le_refl _⟩
  | retried _ _ _ _ ih =>
      exact (ih finished).mono (fun effect member _ => List.mem_cons_of_mem _ member)
        (Nat.le_refl _)

theorem comesFromCall_forwardWithRetry
    (finished : (forwardWithRetry client cfg ctx addr poolType start).finish =
      some (time, result)) :
    ComesFromCall client ctx (forwardWithRetry client cfg ctx addr poolType start).effects
      time result :=
  (forwardWithRetry_course client cfg ctx addr poolType start).comesFromCall finished

/-- The result of a race is that of a leg that has been polled to its end. -/
theorem RaceEnd.result_of_leg {secondaryStarted : Instant → Bool}
    {gpu secondary : Option (Instant × RouteResult)} {outcome : RaceOutcome} {last : Instant}
    (ends : RaceEnd start secondaryStarted gpu secondary outcome)
    (finished : outcome.finish = some (last, result)) :
    ∃ own, own ≤ last ∧
      ((gpu = some (own, result) ∧ ∀ early, early ≤ own → outcome.pollsGpu early = true) ∨
        (secondary = some (own, result) ∧
          ∀ early, early ≤ own → outcome.pollsSecondary early = true)) := by
  cases ends with
  | gpuFirst ofGpu | gpuLast ofGpu =>
      cases finished
      refine ⟨last, Nat.le_refl _, Or.inl ⟨ofGpu, fun early order => ?_⟩⟩
      exact decide_eq_true order
  | secondaryFirst ofSecondary | secondaryLast ofSecondary =>
      cases finished
      refine ⟨last, Nat.le_refl _, Or.inr ⟨ofSecondary, fun early order => ?_⟩⟩
      exact decide_eq_true order
  | bothFailed ofGpu ofSecondary gpuFailed failed later =>
      cases finished
      refine ⟨_, later ▸ Nat.le_max_left _ _, Or.inl ⟨ofGpu, fun early order => ?_⟩⟩
      exact decide_eq_true (Nat.le_trans order (later ▸ Nat.le_max_left _ _))
  | pending => cases finished

theorem comesFromCall_plan {hedgeDelay : Duration} {plan : HedgedPlan}
    (finished : (plan.run client cfg ctx hedgeDelay start).finish = some (time, result)) :
    (plan = .nothing ∧ result = .error .noUpstreamAvailable) ∨
      ComesFromCall client ctx (plan.run client cfg ctx hedgeDelay start).effects time
        result := by
  cases plan with
  | nothing =>
      cases finished
      exact Or.inl ⟨rfl, rfl⟩
  | direct legAddr legPool => exact Or.inr (comesFromCall_forwardWithRetry finished)
  | race gpuAddr secondaryAddr secondaryPool =>
      right
      let gpuFut := forwardWithRetry client cfg ctx gpuAddr .gpu
      let leg := forwardWithRetry client cfg ctx secondaryAddr secondaryPool
      have ends := raceOutcome_ends (gpuFut start) (hedged hedgeDelay leg start)
      obtain ⟨own, order, ⟨ofGpu, polled⟩ | ⟨ofSecondary, polled⟩⟩ :=
        ends.result_of_leg finished
      · refine (comesFromCall_forwardWithRetry ofGpu).mono (fun effect member early => ?_) order
        exact mem_interleave.mpr (Or.inl (List.mem_filter.mpr ⟨member, polled _ early⟩))
      · rw [finish_hedged] at ofSecondary
        refine (comesFromCall_forwardWithRetry ofSecondary).mono (fun effect member early => ?_)
          order
        refine mem_interleave.mpr (Or.inr (List.mem_filter.mpr ⟨?_, polled _ early⟩))
        rw [effects_hedged]
        exact List.mem_cons_of_mem _ member

end Loops

section Attempts

variable {client : Client} {cfg : RetryConfig} {perUpstream : Duration} {ctx : ForwardCtx}
  {reads : PoolReads} {start time : Instant} {result : RouteResult}

/-- The outcome of an attempt is that of one of its calls. -/
theorem comesFromCall_attempt {attempt : Attempt}
    (outcome : (attempt.inTime client cfg perUpstream ctx).map Prod.snd = some result) :
    ComesFromCall client ctx (attempt.effects client cfg perUpstream ctx)
      (attempt.ends client cfg perUpstream ctx) result := by
  obtain ⟨⟨time, own⟩, completed, rfl⟩ := Option.map_eq_some_iff.mp outcome
  have ends : attempt.ends client cfg perUpstream ctx = time := by
    rw [Attempt.ends, completed]
    rfl
  obtain ⟨finished, inTime⟩ := Course.finishedBy_eq_some_iff.mp completed
  rw [ends]
  obtain ⟨addr, poolType, started, known⟩ := attempt
  cases poolType with
  | gpu =>
      have effects := (gpuAttempt_of_inTime finished inTime).2
      rw [Attempt.effects, effects]
      exact comesFromCall_forwardWithRetry finished
  | cpu =>
      have effects := Timed.effects_timeout finished inTime
      rw [Attempt.effects, forwardCpuWithTimeout]
      exact effects ▸ comesFromCall_forwardWithRetry finished

/-- An attempt of the report is one of those whose effects were performed. -/
theorem MeetsSequentialSpec.comesFromCall {finish : Instant}
    {effects : List (Instant × RouterEffect)} {report : SequentialReport}
    {gpu : List Attempt} {cpu : Option Attempt}
    (spec : MeetsSequentialSpec client cfg perUpstream ctx reads start finish effects report
      gpu cpu) :
    report.result = .error .noUpstreamAvailable ∨
      ComesFromCall client ctx effects finish report.result := by
  have finishes := spec.finishes
  have performed := spec.performed
  have ending := spec.ending
  rw [spec.attempts] at finishes performed
  generalize report.result = result at ending ⊢
  cases ending with
  | @won earlier attempt _ last answered winner =>
      right
      have own : IsNextAttempt client cfg perUpstream ctx start earlier _ _ attempt :=
        (spec.gpuTrials.each earlier attempt [] last).2
      rw [last, Option.toList_none, List.append_nil, endOf_concat] at finishes
      rw [last, Option.toList_none, List.append_nil, effectsOf_concat] at performed
      rw [finishes, performed]
      exact (comesFromCall_attempt (own.outcome.symm.trans answered)).mono
        (fun effect member _ => List.mem_append_right _ member) (Nat.le_refl _)
  | @cpu attempt exhausted isCpu next =>
      rw [Option.toList_some, endOf_concat] at finishes
      rw [Option.toList_some, effectsOf_concat] at performed
      cases answered : attempt.outcome with
      | none => exact Or.inl rfl
      | some result =>
          right
          rw [finishes, performed]
          exact (comesFromCall_attempt (next.outcome.symm.trans answered)).mono
            (fun effect member _ => List.mem_append_right _ member) (Nat.le_refl _)
  | noUpstream => exact Or.inl rfl

end Attempts

/-- The result of a request comes from one of its calls.  A hedged request is
refused only when it has made none. -/
theorem comesFromCall_dispatch {client : Client} {cfg : RetryConfig} {ctx : ForwardCtx}
    {reads : PoolReads} {policy : RoutePolicy} {start time : Instant} {result : RouteResult}
    (finished : (dispatch client cfg ctx reads policy start).finish = some (time, result)) :
    ComesFromCall client ctx (dispatch client cfg ctx reads policy start).effects time
        result ∨
      result = .error .noUpstreamAvailable ∧
        ∀ delay, policy = .hedged delay →
          (dispatch client cfg ctx reads policy start).effects = [] := by
  cases policy with
  | hedged delay =>
      rw [dispatch, hedgedRace_apply] at finished ⊢
      rcases comesFromCall_plan finished with ⟨nothing, rfl⟩ | comes
      · refine Or.inr ⟨rfl, fun _ _ => ?_⟩
        rw [nothing]
        rfl
      · exact Or.inl comes
  | sequentialTimeout perUpstream =>
      obtain ⟨finish, report, gpu, cpu, ended, spec⟩ :=
        sequentialTimeout_meetsSpec client cfg perUpstream ctx reads start
      rw [dispatch, Timed.finish_bind_pure, ended] at finished
      obtain ⟨rfl, rfl⟩ := Prod.mk.inj (Option.some.inj finished)
      rw [dispatch, Timed.effects_bind_pure]
      rcases spec.comesFromCall with refused | comes
      · refine Or.inr ⟨refused, fun delay same => ?_⟩
        cases same
      · exact Or.inl comes

end BgeRouter
