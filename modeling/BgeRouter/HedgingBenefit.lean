import BgeRouter.HedgedPoolEffect
import BgeRouter.RaceSpecification

/-!
# What hedging is good for

The plain strategy sends a request to the best GPU upstream, retries included,
and waits.  The hedged strategy wins whenever the plain one does, and no later.
It fails only when the plain one fails too, with the same failure.  While the
GPU upstream wins within the hedge delay, the two cannot be told apart.
-/

namespace BgeRouter

/-- `better` is won whenever `plain` is, and no later. -/
def WinsNoLater {start begun : Instant} (plain : Course RouterEffect RouteResult begun)
    (better : Course RouterEffect RouteResult start) : Prop :=
  ∀ time result, plain.finish = some (time, result) → isWinner result = true →
    ∃ sooner own, better.finish = some (sooner, own) ∧ isWinner own = true ∧ sooner ≤ time

/-- `better` fails only if `plain` has failed before, with the same failure. -/
def FailsOnlyAs {start : Instant} (plain better : Course RouterEffect RouteResult start) :
    Prop :=
  ∀ time failure, better.finish = some (time, failure) → isWinner failure = false →
    ∃ own, own ≤ time ∧ plain.finish = some (own, failure)

section Ends

variable {start : Instant} {secondaryStarted : Instant → Bool}
  {gpu secondary : Option (Instant × RouteResult)} {outcome : RaceOutcome} {time : Instant}
  {result : RouteResult}

theorem RaceEnd.no_later_than_gpu
    (ends : RaceEnd start secondaryStarted gpu secondary outcome)
    (finished : gpu = some (time, result)) (winner : isWinner result = true) :
    ∃ sooner own, outcome.finish = some (sooner, own) ∧ isWinner own = true ∧
      sooner ≤ time := by
  subst finished
  cases ends with
  | gpuFirst same | gpuLast same =>
      cases same
      exact ⟨time, result, rfl, winner, Nat.le_refl _⟩
  | secondaryFirst _ ownWinner first =>
      exact ⟨_, _, rfl, ownWinner, Nat.le_of_lt (first _ rfl)⟩
  | secondaryLast _ _ same failed | bothFailed same _ failed =>
      cases same
      rw [winner] at failed
      cases failed
  | pending failed =>
      rw [failed _ rfl] at winner
      cases winner

theorem RaceEnd.no_later_than_secondary
    (ends : RaceEnd start secondaryStarted gpu secondary outcome)
    (finished : secondary = some (time, result)) (winner : isWinner result = true) :
    ∃ sooner own, outcome.finish = some (sooner, own) ∧ isWinner own = true ∧
      sooner ≤ time := by
  subst finished
  cases ends with
  | secondaryFirst same | secondaryLast same =>
      cases same
      exact ⟨time, result, rfl, winner, Nat.le_refl _⟩
  | gpuFirst _ ownWinner first => exact ⟨_, _, rfl, ownWinner, first _ rfl⟩
  | gpuLast _ _ same failed | bothFailed _ same _ failed =>
      cases same
      rw [winner] at failed
      cases failed
  | pending _ failed =>
      rw [failed _ rfl] at winner
      cases winner

theorem RaceEnd.failed_as_gpu (ends : RaceEnd start secondaryStarted gpu secondary outcome)
    (finished : outcome.finish = some (time, result)) (failed : isWinner result = false) :
    ∃ own, own ≤ time ∧ gpu = some (own, result) := by
  cases ends with
  | gpuFirst _ winner | gpuLast _ winner | secondaryFirst _ winner
  | secondaryLast _ winner =>
      cases finished
      rw [winner] at failed
      cases failed
  | bothFailed ofGpu _ _ _ later =>
      cases finished
      exact ⟨_, later ▸ Nat.le_max_left _ _, ofGpu⟩
  | pending => cases finished

/-- The GPU leg wins if it does so before the other leg can end. -/
theorem RaceEnd.won_by_gpu (ends : RaceEnd start secondaryStarted gpu secondary outcome)
    (finished : gpu = some (time, result)) (winner : isWinner result = true)
    (notBefore : ∀ done, secondary = some done → time ≤ done.1) :
    ∃ elapsed status, outcome = .won time result ⟨.primaryGpu, elapsed, status⟩ := by
  subst finished
  cases ends with
  | gpuFirst same | gpuLast same =>
      cases same
      exact ⟨_, _, rfl⟩
  | secondaryFirst own _ first =>
      exact absurd (first _ rfl) (Nat.not_lt.mpr (notBefore _ own))
  | secondaryLast _ _ same failed | bothFailed same _ failed =>
      cases same
      rw [winner] at failed
      cases failed
  | pending failed =>
      rw [failed _ rfl] at winner
      cases winner

end Ends

section Races

variable {gpuFut leg : Timed RouterEffect RouteResult} {hedgeDelay : Duration}
  {start : Instant}

theorem interleave_right_nil {effects : List (Instant × RouterEffect)}
    (ordered : effects.Pairwise NotLater) : interleave effects [] = effects :=
  ordered.insertionSort_eq

/-- A race that the GPU leg wins by the hedge delay is that leg alone. -/
theorem race_of_wonBy (won : WonBy (gpuFut start) (start + hedgeDelay)) :
    (race gpuFut (hedged hedgeDelay leg) start).finish = (gpuFut start).finish ∧
      (race gpuFut (hedged hedgeDelay leg) start).effects = (gpuFut start).effects := by
  obtain ⟨time, result, finished, winner, inTime⟩ := won
  have notBefore : ∀ done, (leg (start + hedgeDelay)).finish = some done → time ≤ done.1 :=
    fun done legFinished =>
      Nat.le_trans inTime ((leg _).ended done.1 done.2 legFinished).1
  obtain ⟨elapsed, status, outcome⟩ :=
    (hedgedRace_ends gpuFut leg hedgeDelay start).won_by_gpu finished winner notBefore
  have performed : (race gpuFut (hedged hedgeDelay leg) start).effects = interleave
      ((raceOutcome (gpuFut start) (hedged hedgeDelay leg start)).gpuPerformed (gpuFut start))
      ((raceOutcome (gpuFut start) (hedged hedgeDelay leg start)).secondaryPerformed
        (hedged hedgeDelay leg start)) := rfl
  constructor
  · change (raceOutcome (gpuFut start) (hedged hedgeDelay leg start)).finish = _
    rw [outcome, finished]
    rfl
  · -- the GPU leg is polled to its end, the other leg has not begun by then
    have whole : RaceOutcome.gpuPerformed (.won time result ⟨.primaryGpu, elapsed, status⟩)
        (gpuFut start) = (gpuFut start).effects :=
      List.filter_eq_self.mpr fun effect member =>
        decide_eq_true (((gpuFut start).ended time result finished).2 effect member)
    have none : RaceOutcome.secondaryPerformed
        (.won time result ⟨.primaryGpu, elapsed, status⟩) (hedged hedgeDelay leg start) = [] := by
      refine List.filter_eq_nil_iff.mpr fun effect member => ?_
      have begun : start + hedgeDelay ≤ effect.1 := by
        rw [effects_hedged] at member
        rcases List.mem_cons.mp member with rfl | ofLeg
        · exact Nat.le_refl _
        · exact (leg _).started effect ofLeg
      simpa [RaceOutcome.pollsSecondary] using Nat.le_trans inTime begun
    rw [performed, outcome, whole, none]
    exact interleave_right_nil (gpuFut start).ordered

end Races

section Requests

variable {client : Client} {cfg : RetryConfig} {ctx : ForwardCtx} {reads : PoolReads}
  {start : Instant} {gpuAddr : SocketAddr}

/-- **Hedging never makes it worse.**  Compared with sending the request to the
best GPU upstream only, a hedged request is won whenever that one is, or the
secondary leg is, and no later; it fails only as the plain request does; and
it is the plain request if that is won within the hedge delay. -/
theorem hedgedRace_noWorse (hedgeDelay : Duration)
    (primary : pickGpu (reads 0 []) start = some (gpuAddr, .gpu)) :
    let plain := forwardWithRetry client cfg ctx gpuAddr .gpu
    let request := hedgedRace client cfg ctx reads hedgeDelay start
    WinsNoLater (plain start) request ∧
      (∀ secondary, secondaryCandidate (reads 0 []) start = some secondary →
        WinsNoLater (forwardWithRetry client cfg ctx secondary.1 secondary.2
          (start + hedgeDelay)) request) ∧
      FailsOnlyAs (plain start) request ∧
      (WonBy (plain start) (start + hedgeDelay) →
        request.finish = (plain start).finish ∧ request.effects = (plain start).effects) := by
  intro plain request
  have same : request = (hedgedPlan (reads 0 []) start).run client cfg ctx hedgeDelay start :=
    hedgedRace_apply
  rw [same]
  cases secondary : secondaryCandidate (reads 0 []) start with
  | none =>
      rw [hedgedPlan, primary, secondary]
      refine ⟨fun time result finished winner => ?_, fun other same => ?_,
        fun time failure finished _ => ?_, fun _ => ⟨rfl, rfl⟩⟩
      · exact ⟨time, result, finished, winner, Nat.le_refl _⟩
      · cases same
      · exact ⟨time, Nat.le_refl _, finished⟩
  | some chosen =>
      rw [hedgedPlan, primary, secondary]
      let leg := forwardWithRetry client cfg ctx chosen.1 chosen.2
      have ends := hedgedRace_ends plain leg hedgeDelay start
      refine ⟨fun time result => ends.no_later_than_gpu, ?_, fun time failure => ends.failed_as_gpu,
        race_of_wonBy⟩
      rintro _ ⟨⟩ time result
      exact ends.no_later_than_secondary

end Requests

/-- Both upstreams of a hedged request answer after the hedge delay. -/
theorem hedgedRace_noWorse_twoUpstreams :
    let plain : Timed RouterEffect RouteResult := forwardWithRetry
      (.uniform (some (5, .ok ⟨.ok, [], []⟩))) ⟨0, 1, 1, 1⟩ (.get "/v1/embeddings") .sampleGpu
      .gpu
    let request := hedgedRace (.uniform (some (5, .ok ⟨.ok, [], []⟩))) ⟨0, 1, 1, 1⟩
      (.get "/v1/embeddings") (.alone okGpuOkCpu) 1 0
    WinsNoLater (plain 0) request ∧ FailsOnlyAs (plain 0) request := by
  intro plain request
  obtain ⟨wins, -, fails, -⟩ := @hedgedRace_noWorse
    (.uniform (some (5, .ok ⟨.ok, [], []⟩))) ⟨0, 1, 1, 1⟩ (.get "/v1/embeddings")
    (.alone okGpuOkCpu) 0 .sampleGpu 1 (by decide)
  exact ⟨wins, fails⟩

end BgeRouter
