import BgeRouter.HedgedPoolEffect
import BgeRouter.PoolHistory
import BgeRouter.SequentialSpecification

/-!
# What a request does, leg by leg

Both dispatchers try upstreams in legs.  A leg begins with a selection from the
snapshot that one of the request's loads shows, and then runs a retry loop on
the upstream that was selected.  So every call a request makes goes to an
upstream that some selector has returned for it, and every trip it makes is of
an upstream that the leg has given up.
-/

namespace BgeRouter

/-- A leg that began at `begins` gives its upstream up: every try has failed, or
a GPU attempt of the sequential dispatcher has used up its timeout. -/
inductive GivesUp (client : Client) (cfg : RetryConfig) (ctx : ForwardCtx)
    (chosen : SocketAddr × PoolType) (begins time : Instant) : RoutePolicy → Prop where
  | hedged {delay : Duration}
      (fails : FailsAt cfg (callResult client ctx chosen.1 chosen.2) 0 cfg.initialBackoff
        begins time) :
      GivesUp client cfg ctx chosen begins time (.hedged delay)
  | sequential {perUpstream : Duration} (inTime : time ≤ begins + perUpstream)
      (fails : FailsAt (Attempt.retryCfg cfg perUpstream chosen.2)
        (callResult client ctx chosen.1 chosen.2) 0
        (Attempt.retryCfg cfg perUpstream chosen.2).initialBackoff begins time) :
      GivesUp client cfg ctx chosen begins time (.sequentialTimeout perUpstream)
  | timedOut {perUpstream : Duration} (gpu : chosen.2 = .gpu)
      (late : time = begins + perUpstream)
      (unfinished : ¬ CompletesBy (attemptCfg cfg perUpstream)
        (callResult client ctx chosen.1 chosen.2) time 0
        (attemptCfg cfg perUpstream).initialBackoff begins) :
      GivesUp client cfg ctx chosen begins time (.sequentialTimeout perUpstream)

/-- One of the loads of a request shows a snapshot from which `chosen` is
selected at the instant `selection`. -/
def SelectedBy (reads : PoolReads) (selection : Instant) (chosen : SocketAddr × PoolType) :
    Prop :=
  ∃ loads history, SelectedAt (reads loads history) selection chosen

/-- Where an effect of a request comes from. -/
inductive EffectOrigin (client : Client) (cfg : RetryConfig) (ctx : ForwardCtx)
    (reads : PoolReads) (policy : RoutePolicy) (start time : Instant) :
    RouterEffect → Prop where
  | forward {selection : Instant} {chosen : SocketAddr × PoolType}
      (selected : SelectedBy reads selection chosen) (after : start ≤ selection)
      (order : selection ≤ time) :
      EffectOrigin client cfg ctx reads policy start time (.forward chosen.1 chosen.2)
  | trip {selection begins : Instant} {chosen : SocketAddr × PoolType}
      (selected : SelectedBy reads selection chosen) (after : start ≤ selection)
      (order : selection ≤ begins) (order' : begins ≤ time)
      (givesUp : GivesUp client cfg ctx chosen begins time policy) :
      EffectOrigin client cfg ctx reads policy start time (.trip chosen.1 cfg.cooldown)
  | secondaryStarted :
      EffectOrigin client cfg ctx reads policy start time .secondaryStarted

section Loops

variable {client : Client} {cfg : RetryConfig} {ctx : ForwardCtx} {addr : SocketAddr}
  {poolType : PoolType} {start : Instant}

/-- A retry loop calls its upstream, and trips it when it has failed. -/
theorem RetryCourse.mem_effects {answer : Nat → Instant → Option (Duration × RouteResult)}
    {attempt : Nat} {backoff : Duration} {effects : List (Instant × RouterEffect)}
    {finish : Option (Instant × RouteResult)} {time : Instant} {effect : RouterEffect}
    (course : RetryCourse cfg addr poolType answer attempt backoff start effects finish)
    (member : (time, effect) ∈ effects) :
    effect = .forward addr poolType ∨
      effect = .trip addr cfg.cooldown ∧ FailsAt cfg answer attempt backoff start time := by
  induction course with
  | silent => simp_all
  | kept => simp_all
  | exhausted answered failed last =>
      rcases List.mem_cons.mp member with same | made
      · exact Or.inl (Prod.mk.inj same).2
      · obtain ⟨rfl, rfl⟩ := Prod.mk.inj (List.mem_singleton.mp made)
        exact Or.inr ⟨rfl, _, .last answered (Or.inr last), failed⟩
  | retried answered failed more rest ih =>
      rcases List.mem_cons.mp member with same | later
      · exact Or.inl (Prod.mk.inj same).2
      · refine (ih later).imp id fun tripped => ⟨tripped.1, ?_⟩
        obtain ⟨-, result, ends, finallyFailed⟩ := tripped
        exact ⟨result, .retry answered failed more ends, finallyFailed⟩

theorem mem_effects_forwardWithRetry {time : Instant} {effect : RouterEffect}
    (member : (time, effect) ∈
      (forwardWithRetry client cfg ctx addr poolType start).effects) :
    start ≤ time ∧ (effect = .forward addr poolType ∨
      effect = .trip addr cfg.cooldown ∧
        FailsAt cfg (callResult client ctx addr poolType) 0 cfg.initialBackoff start time) :=
  ⟨(forwardWithRetry client cfg ctx addr poolType start).started _ member,
    (forwardWithRetry_course client cfg ctx addr poolType start).mem_effects member⟩

/-- The legs of a hedged request begin at its start and after the hedge delay. -/
theorem mem_effects_plan {hedgeDelay : Duration} {plan : HedgedPlan} {time : Instant}
    {effect : RouterEffect}
    (member : (time, effect) ∈ (plan.run client cfg ctx hedgeDelay start).effects) :
    effect = .secondaryStarted ∨ ∃ leg ∈ plan.legs, ∃ begins, start ≤ begins ∧
      (time, effect) ∈ (forwardWithRetry client cfg ctx leg.1 leg.2 begins).effects := by
  cases plan with
  | nothing => cases member
  | direct legAddr legPool =>
      exact Or.inr ⟨_, List.mem_cons_self, start, Nat.le_refl start, member⟩
  | race gpuAddr secondaryAddr secondaryPool =>
      rcases mem_interleave.mp member with ofGpu | ofSecondary
      · exact Or.inr ⟨_, List.mem_cons_self, start, Nat.le_refl start,
          List.mem_of_mem_filter ofGpu⟩
      · rcases List.mem_cons.mp (List.mem_of_mem_filter ofSecondary) with same | ofLeg
        · exact Or.inl (Prod.mk.inj same).2
        · exact Or.inr ⟨_, List.mem_cons_of_mem _ List.mem_cons_self, start + hedgeDelay,
            Nat.le_add_right _ _, ofLeg⟩

end Loops

section Attempts

variable {client : Client} {cfg : RetryConfig} {perUpstream : Duration} {ctx : ForwardCtx}
  {reads : PoolReads} {start : Instant} {gpu : List Attempt} {attempt : Attempt}

/-- What a GPU attempt does beyond its retry loop is to trip an upstream that
has not completed in time. -/
theorem mem_effects_gpuAttempt {addr : SocketAddr} {time : Instant} {effect : RouterEffect}
    (member : (time, effect) ∈ (gpuAttempt client cfg perUpstream ctx addr start).effects) :
    (time, effect) ∈ (Timed.timeout perUpstream
        (forwardWithRetry client (attemptCfg cfg perUpstream) ctx addr .gpu) start).effects ∨
      effect = .trip addr cfg.cooldown ∧
        GivesUp client cfg ctx (addr, .gpu) start time (.sequentialTimeout perUpstream) := by
  refine (Timed.mem_effects_bind member).imp id ?_
  rintro ⟨ended, outcome, finished, later⟩
  obtain ⟨limit, own, ownFinished, atLimit, -⟩ :=
    timeout_forwardWithRetry_course client (attemptCfg cfg perUpstream) perUpstream ctx
      addr .gpu start
  obtain ⟨rfl, rfl⟩ := Prod.mk.inj (Option.some.inj (finished.symm.trans ownFinished))
  cases outcome with
  | some result => cases later
  | none =>
      obtain ⟨rfl, rfl⟩ := Prod.mk.inj (List.mem_singleton.mp later)
      refine ⟨rfl, .timedOut rfl (atLimit rfl) ?_⟩
      rintro ⟨completed, result, ends, inTime⟩
      have done := (forwardWithRetry_course client (attemptCfg cfg perUpstream) ctx addr .gpu
        start).endsWith_iff.mp ends
      rw [atLimit rfl] at inTime
      rw [Timed.finish_timeout done inTime] at finished
      cases finished

theorem mem_effects_attempt {time : Instant} {effect : RouterEffect}
    (member : (time, effect) ∈ attempt.effects client cfg perUpstream ctx) :
    attempt.started ≤ time ∧ (effect = .forward attempt.addr attempt.poolType ∨
      effect = .trip attempt.addr cfg.cooldown ∧
        GivesUp client cfg ctx (attempt.addr, attempt.poolType) attempt.started time
          (.sequentialTimeout perUpstream)) := by
  obtain ⟨addr, poolType, started, outcome⟩ := attempt
  have inLoop : ∀ ownCfg, ownCfg = Attempt.retryCfg cfg perUpstream poolType →
      (time, effect) ∈ (Timed.timeout perUpstream
        (forwardWithRetry client ownCfg ctx addr poolType) started).effects →
      effect = .forward addr poolType ∨ effect = .trip addr cfg.cooldown ∧
        GivesUp client cfg ctx (addr, poolType) started time
          (.sequentialTimeout perUpstream) := by
    rintro _ rfl timed
    obtain ⟨inBody, inTime⟩ := Timed.mem_effects_timeout timed
    refine (mem_effects_forwardWithRetry inBody).2.imp id ?_
    rintro ⟨tripped, fails⟩
    refine ⟨tripped.trans ?_, .sequential inTime fails⟩
    cases poolType <;> rfl
  cases poolType with
  | cpu => exact ⟨Course.started _ _ member, inLoop cfg rfl member⟩
  | gpu =>
      refine ⟨Course.started _ _ member, ?_⟩
      rcases mem_effects_gpuAttempt member with timed | tripped
      · exact inLoop _ rfl timed
      · exact Or.inr tripped

variable (client cfg perUpstream ctx) in
theorem Attempt.started_le_ends (attempt : Attempt) :
    attempt.started ≤ attempt.ends client cfg perUpstream ctx := by
  cases ended : attempt.inTime client cfg perUpstream ctx with
  | none => simp [Attempt.ends, ended]
  | some finished =>
      have done := (Course.finishedBy_eq_some_iff.mp ended).1
      simpa [Attempt.ends, ended] using (Course.ended _ _ _ done).1

theorem GpuTrials.start_le_endOf
    (trials : GpuTrials client cfg perUpstream ctx reads start gpu) :
    start ≤ endOf client cfg perUpstream ctx start gpu := by
  have each := trials.each
  clear trials
  induction gpu using List.reverseRecOn with
  | nil => exact Nat.le_refl start
  | append_singleton earlier last ih =>
      obtain ⟨each, -, next⟩ := forall_split_concat_iff.mp each
      rw [endOf_concat]
      calc start
          ≤ endOf client cfg perUpstream ctx start earlier := ih each
        _ = last.started := next.started.symm
        _ ≤ last.ends client cfg perUpstream ctx :=
            last.started_le_ends client cfg perUpstream ctx

/-- The attempts before a GPU attempt are trials of their own. -/
theorem GpuTrials.earlier {later : List Attempt}
    (trials : GpuTrials client cfg perUpstream ctx reads start (gpu ++ later)) :
    GpuTrials client cfg perUpstream ctx reads start gpu where
  atMostTwo := Nat.le_trans (by simp) trials.atMostTwo
  distinct := by
    have distinct := trials.distinct
    rw [List.map_append] at distinct
    exact (List.nodup_append.mp distinct).1
  each := by
    rintro before own after rfl
    exact trials.each before own (after ++ later) (by simp)

theorem IsBest.selectedAt {snapshot : PoolSnapshot} {excluded : List SocketAddr}
    {now : Instant} {tier : Tier} {position : ℕ} {upstream : UpstreamInfo}
    (best : IsBest snapshot.gpu excluded now tier position upstream) :
    SelectedAt snapshot now (upstream.addr, .gpu) := by
  refine Or.inr (Or.inr (Or.inr (Or.inl ⟨excluded, ?_⟩)))
  exact pickTier_eq_some_iff.mpr ⟨tier, position, upstream, best, rfl⟩

theorem IsBest.selectedAt_cpu {snapshot : PoolSnapshot} {now : Instant} {tier : Tier}
    {position : ℕ} {upstream : UpstreamInfo}
    (best : IsBest snapshot.cpu [] now tier position upstream) :
    SelectedAt snapshot now (upstream.addr, .cpu) := by
  refine Or.inr (Or.inr (Or.inr (Or.inr ?_)))
  rw [pickCpu_eq_pickTier]
  exact pickTier_eq_some_iff.mpr ⟨tier, position, upstream, best, rfl⟩

/-- Every attempt is on an upstream that was selected when it started. -/
theorem MeetsSequentialSpec.selected {finish : Instant}
    {effects : List (Instant × RouterEffect)} {report : SequentialReport} {cpu : Option Attempt}
    (spec : MeetsSequentialSpec client cfg perUpstream ctx reads start finish effects report
      gpu cpu) (member : attempt ∈ report.attempts) :
    start ≤ attempt.started ∧
      SelectedBy reads attempt.started (attempt.addr, attempt.poolType) := by
  rw [spec.attempts] at member
  rcases List.mem_append.mp member with ofGpu | ofCpu
  · obtain ⟨earlier, later, rfl⟩ := List.append_of_mem ofGpu
    obtain ⟨isGpu, next⟩ := spec.gpuTrials.each earlier attempt later rfl
    obtain ⟨tier, position, upstream, best, sameAddr⟩ := next.best
    rw [isGpu, ← sameAddr]
    refine ⟨?_, _, _, best.selectedAt⟩
    rw [next.started]
    exact spec.gpuTrials.earlier.start_le_endOf
  · have ending := spec.ending
    generalize report.result = result at ending
    cases ending with
    | won | noUpstream => cases ofCpu
    | cpu exhausted isCpu next =>
        obtain rfl := List.mem_singleton.mp ofCpu
        obtain ⟨tier, position, upstream, best, sameAddr⟩ := next.best
        rw [isCpu, ← sameAddr]
        refine ⟨?_, _, _, best.selectedAt_cpu⟩
        rw [next.started]
        exact spec.gpuTrials.start_le_endOf

end Attempts

section Requests

variable {client : Client} {cfg : RetryConfig} {ctx : ForwardCtx} {reads : PoolReads}
  {start time : Instant} {effect : RouterEffect}

theorem selectedAt_of_secondaryCandidate {snapshot : PoolSnapshot} {now : Instant}
    {chosen : SocketAddr × PoolType}
    (found : secondaryCandidate snapshot now = some chosen) :
    SelectedAt snapshot now chosen := by
  rcases Option.or_eq_some_iff.mp found with otherGpu | ⟨-, cpu⟩
  · obtain ⟨gpu, -, excluded⟩ := Option.bind_eq_some_iff.mp otherGpu
    exact Or.inr (Or.inr (Or.inr (Or.inl ⟨_, excluded⟩)))
  · exact Or.inr (Or.inr (Or.inr (Or.inr cpu)))

theorem HedgedChoice.selectedAt {snapshot : PoolSnapshot} {now : Instant} {plan : HedgedPlan}
    (choice : HedgedChoice snapshot now plan) {leg : SocketAddr × PoolType}
    (member : leg ∈ plan.legs) : SelectedAt snapshot now leg := by
  cases choice with
  | nothing => cases member
  | cpuOnly noGpu cpu =>
      obtain rfl := List.mem_singleton.mp member
      exact Or.inr (Or.inr (Or.inr (Or.inr cpu)))
  | gpuOnly gpu noSecondary =>
      obtain rfl := List.mem_singleton.mp member
      exact Or.inr (Or.inl gpu)
  | race gpu secondary =>
      rcases List.mem_cons.mp member with rfl | last
      · exact Or.inr (Or.inl gpu)
      · obtain rfl := List.mem_singleton.mp last
        exact selectedAt_of_secondaryCandidate secondary

/-- Every effect of a request has its origin in one of the request's legs. -/
theorem effectOrigin_of_dispatch (policy : RoutePolicy)
    (member : (time, effect) ∈ (dispatch client cfg ctx reads policy start).effects) :
    EffectOrigin client cfg ctx reads policy start time effect := by
  cases policy with
  | hedged delay =>
      rw [dispatch, hedgedRace_apply] at member
      rcases mem_effects_plan member with rfl | ⟨leg, isLeg, begins, after, ofLeg⟩
      · exact .secondaryStarted
      · have selected : SelectedBy reads start leg :=
          ⟨0, [], (hedgedPlan_choice _ _).selectedAt isLeg⟩
        obtain ⟨order, rfl | ⟨rfl, fails⟩⟩ := mem_effects_forwardWithRetry ofLeg
        · exact .forward selected (Nat.le_refl start) (Nat.le_trans after order)
        · exact .trip selected (Nat.le_refl start) after order (.hedged fails)
  | sequentialTimeout perUpstream =>
      obtain ⟨finish, report, gpu, cpu, -, spec⟩ :=
        sequentialTimeout_meetsSpec client cfg perUpstream ctx reads start
      rw [dispatch, Timed.effects_bind_pure, spec.performed, effectsOf, List.mem_flatMap] at member
      obtain ⟨attempt, isAttempt, ofAttempt⟩ := member
      obtain ⟨after, selected⟩ := spec.selected isAttempt
      obtain ⟨order, rfl | ⟨rfl, givesUp⟩⟩ := mem_effects_attempt ofAttempt
      · exact .forward selected after order
      · exact .trip selected after (Nat.le_refl _) order givesUp

end Requests

end BgeRouter
