import BgeRouter.HedgedRace

/-!
# What the hedged race guarantees

For any two legs and any hedge delay the loop returns what the reference
specification says, handles each completion once, lets the secondary leg begin
exactly when the GPU leg has not won by then, and reports what became of the
leg that lost.
-/

namespace BgeRouter

/-- The GPU leg has completed with an answer to return. -/
def WonBy {start : Instant} (gpu : Course RouterEffect RouteResult start)
    (deadline : Instant) : Prop :=
  ∃ time result, gpu.finish = some (time, result) ∧ isWinner result = true ∧ time ≤ deadline

/-- What became of the losing leg when the other one won: it had failed, it was
in flight, or it had not begun. -/
def loserStatusSpec (fires : Instant) (gpu secondary : Option (Instant × RouteResult))
    (time : Instant) : RaceSide → LoserStatus
  | .primaryGpu =>
      if secondary.any fun done => decide (done.1 < time) then .errored
      else if fires < time then .cancelled
      else .notStarted
  | .secondary =>
      if gpu.any fun done => decide (done.1 ≤ time) then .errored else .cancelled

/-- A leg that sends its first request when it begins. -/
def SendsAtOnce (leg : Timed RouterEffect RouteResult) (addr : SocketAddr)
    (poolType : PoolType) : Prop :=
  ∀ start, ∃ later, (leg start).effects = (start, .forward addr poolType) :: later

/-- The completion of the leg on one side. -/
def RaceSide.completion (gpu secondary : Option (Instant × RouteResult)) :
    RaceSide → Option (Instant × RouteResult)
  | .primaryGpu => gpu
  | .secondary => secondary

/-- What the race owes to its caller when the GPU leg is started at `start` and
`leg` is the secondary leg without the hedge delay. -/
structure MeetsRaceSpec (gpuFut leg : Timed RouterEffect RouteResult)
    (hedgeDelay : Duration) (start : Instant) (outcome : RaceOutcome) : Prop where
  /-- the result and the time it is returned at -/
  returns : outcome.finish =
    raceSpec (gpuFut start).finish (leg (start + hedgeDelay)).finish
  /-- no leg is polled after its completion, no select is empty, and the loop ends -/
  sound : outcome ≠ .panicked ∧ outcome ≠ .outOfFuel
  /-- the kept failure is there when the loop is left -/
  gpuFailure : ∀ time failure, outcome = .bothFailed time failure →
    ∃ gpuTime gpuResult, (gpuFut start).finish = some (gpuTime, gpuResult) ∧
      failure = some gpuResult
  /-- the secondary upstream gets a request unless the GPU leg has won by then -/
  requested : ∀ addr poolType, SendsAtOnce leg addr poolType →
    ((∃ time, (time, .forward addr poolType) ∈
        outcome.secondaryPerformed (hedged hedgeDelay leg start)) ↔
      ¬ WonBy (gpuFut start) (start + hedgeDelay))
  /-- the log entry names the winner and tells what became of the other leg -/
  log : ∀ time result log, outcome = .won time result log →
    log.side.completion (gpuFut start).finish (leg (start + hedgeDelay)).finish =
      some (time, result) ∧
    isWinner result = true ∧
    log.elapsed = time - start ∧
    log.loserStatus = loserStatusSpec (start + hedgeDelay) (gpuFut start).finish
      (leg (start + hedgeDelay)).finish time log.side

section Hedging

variable {leg : Timed RouterEffect RouteResult} {hedgeDelay : Duration}
  {start time : Instant}

@[simp]
theorem finish_hedged :
    (hedged hedgeDelay leg start).finish = (leg (start + hedgeDelay)).finish :=
  rfl

@[simp]
theorem effects_hedged :
    (hedged hedgeDelay leg start).effects =
      (start + hedgeDelay, .secondaryStarted) :: (leg (start + hedgeDelay)).effects :=
  rfl

theorem startedBefore_hedged :
    startedBefore (hedged hedgeDelay leg start) time =
      decide (start + hedgeDelay < time) := by
  by_cases fired : start + hedgeDelay < time
  · simp [startedBefore, Course.before, fired]
  · have unseen : ∀ effect ∈ (hedged hedgeDelay leg start).effects,
        ¬ effect.1 < time := by
      intro effect member early
      rw [effects_hedged] at member
      rcases List.mem_cons.mp member with rfl | ofLeg
      · exact fired early
      · exact fired (Nat.lt_of_le_of_lt ((leg _).started effect ofLeg) early)
    have nothing : (hedged hedgeDelay leg start).before time = [] :=
      List.filter_eq_nil_iff.mpr fun effect member => by simpa using unseen effect member
    simp [startedBefore, nothing, fired]

theorem not_wonBy_iff {gpu : Course RouterEffect RouteResult start} {deadline : Instant} :
    ¬ WonBy gpu deadline ↔
      ∀ done, gpu.finish = some done → isWinner done.2 = true → deadline < done.1 := by
  constructor
  · rintro lost ⟨doneTime, result⟩ finished winner
    by_contra early
    exact lost ⟨doneTime, result, finished, winner, Nat.not_lt.mp early⟩
  · rintro late ⟨doneTime, result, finished, winner, early⟩
    have order := late (doneTime, result) finished winner
    exact absurd early (Nat.not_le.mpr order)

end Hedging

section Specification

variable {gpuFut leg : Timed RouterEffect RouteResult} {hedgeDelay : Duration}
  {start : Instant} {outcome : RaceOutcome}

/-- How the race between the legs ends, with the hedge delay in view. -/
theorem hedgedRace_ends (gpuFut leg : Timed RouterEffect RouteResult)
    (hedgeDelay : Duration) (start : Instant) :
    RaceEnd start (fun time => decide (start + hedgeDelay < time)) (gpuFut start).finish
      (leg (start + hedgeDelay)).finish
      (raceOutcome (gpuFut start) (hedged hedgeDelay leg start)) := by
  have ends := raceOutcome_ends (gpuFut start) (hedged hedgeDelay leg start)
  have flag : startedBefore (hedged hedgeDelay leg start) =
      fun time => decide (start + hedgeDelay < time) :=
    funext fun _ => startedBefore_hedged
  rw [finish_hedged, flag] at ends
  exact ends

/-- The secondary leg is still polled when the hedge delay has passed exactly
if the GPU leg has not won by then. -/
theorem pollsSecondary_hedgeDelay_iff
    (ends : RaceEnd start (fun time => decide (start + hedgeDelay < time))
      (gpuFut start).finish (leg (start + hedgeDelay)).finish outcome) :
    outcome.pollsSecondary (start + hedgeDelay) = true ↔
      ¬ WonBy (gpuFut start) (start + hedgeDelay) := by
  have notBefore : ∀ done, (leg (start + hedgeDelay)).finish = some done →
      start + hedgeDelay ≤ done.1 :=
    fun done finished => ((leg _).ended done.1 done.2 finished).1
  rw [not_wonBy_iff]
  cases ends with
  | gpuFirst finished winner first =>
      simp [RaceOutcome.pollsSecondary, finished, winner]
  | gpuLast finished winner otherFinished failed order =>
      have later := Nat.lt_of_le_of_lt (notBefore _ otherFinished) order
      simp [RaceOutcome.pollsSecondary, finished, later]
  | secondaryFirst finished winner first =>
      have later := notBefore _ finished
      simp only [RaceOutcome.pollsSecondary, later, decide_true, true_iff]
      intro done gpuFinished _
      exact Nat.lt_of_le_of_lt later (first done gpuFinished)
  | secondaryLast finished winner otherFinished failed order =>
      have later := notBefore _ finished
      simp [RaceOutcome.pollsSecondary, later, otherFinished, failed]
  | @bothFailed gpuTime gpuFailure time failure last gpuFinished finished gpuFailed failed
      later =>
      have order : start + hedgeDelay ≤ last := by
        rw [later]
        exact Nat.le_trans (notBefore _ finished) (Nat.le_max_right gpuTime time)
      simp [RaceOutcome.pollsSecondary, gpuFinished, gpuFailed, order]
  | pending gpuFailed failed missing =>
      simp only [RaceOutcome.pollsSecondary, true_iff]
      intro done finished winner
      rw [gpuFailed done finished] at winner
      cases winner

theorem RaceOutcome.pollsSecondary_of_le {time later : Instant} (order : time ≤ later)
    (polled : outcome.pollsSecondary later = true) :
    outcome.pollsSecondary time = true := by
  cases outcome with
  | won last result log =>
      obtain ⟨side, elapsed, loserStatus⟩ := log
      cases side with
      | primaryGpu =>
          exact decide_eq_true (Nat.lt_of_le_of_lt order (of_decide_eq_true polled))
      | secondary => exact decide_eq_true (Nat.le_trans order (of_decide_eq_true polled))
  | bothFailed last failure =>
      exact decide_eq_true (Nat.le_trans order (of_decide_eq_true polled))
  | pending => rfl
  | panicked => rfl
  | outOfFuel => rfl

/-- The secondary leg's requests all come after the hedge delay, and its first
one comes right then. -/
theorem secondaryPerformed_forward_iff {addr : SocketAddr} {poolType : PoolType}
    (atOnce : SendsAtOnce leg addr poolType) :
    (∃ time, (time, .forward addr poolType) ∈
        outcome.secondaryPerformed (hedged hedgeDelay leg start)) ↔
      outcome.pollsSecondary (start + hedgeDelay) = true := by
  constructor
  · rintro ⟨time, performed⟩
    obtain ⟨member, polled⟩ := List.mem_filter.mp performed
    rw [effects_hedged] at member
    rcases List.mem_cons.mp member with same | ofLeg
    · cases same
    · exact RaceOutcome.pollsSecondary_of_le ((leg _).started _ ofLeg) polled
  · intro polled
    obtain ⟨later, effects⟩ := atOnce (start + hedgeDelay)
    refine ⟨start + hedgeDelay, List.mem_filter.mpr ⟨?_, polled⟩⟩
    rw [effects_hedged, effects]
    exact List.mem_cons_of_mem _ List.mem_cons_self

/-- What a winner's log entry says about the other leg. -/
theorem RaceEnd.log_eq {time : Instant} {result : RouteResult} {log : WinnerLog}
    {fires : Instant} {gpu secondary : Option (Instant × RouteResult)}
    (ends : RaceEnd start (fun time => decide (fires < time)) gpu secondary
      (.won time result log)) :
    log.side.completion gpu secondary = some (time, result) ∧ isWinner result = true ∧
      log.elapsed = time - start ∧
      log.loserStatus = loserStatusSpec fires gpu secondary time log.side := by
  cases ends with
  | gpuFirst finished winner first =>
      refine ⟨finished, winner, rfl, ?_⟩
      have notErrored : secondary.any (fun done => decide (done.1 < time)) = false := by
        cases secondary with
        | none => rfl
        | some done => simpa using first done rfl
      simp [loserStatusSpec, notErrored]
  | gpuLast finished winner otherFinished failed order =>
      refine ⟨finished, winner, rfl, ?_⟩
      simp [loserStatusSpec, otherFinished, order]
  | secondaryFirst finished winner first =>
      refine ⟨finished, winner, rfl, ?_⟩
      have notErrored : gpu.any (fun done => decide (done.1 ≤ time)) = false := by
        cases gpu with
        | none => rfl
        | some done => simpa using first done rfl
      simp [loserStatusSpec, notErrored]
  | secondaryLast finished winner otherFinished failed order =>
      refine ⟨finished, winner, rfl, ?_⟩
      simp [loserStatusSpec, otherFinished, order]

theorem meetsRaceSpec_raceOutcome (gpuFut leg : Timed RouterEffect RouteResult)
    (hedgeDelay : Duration) (start : Instant) :
    MeetsRaceSpec gpuFut leg hedgeDelay start
      (raceOutcome (gpuFut start) (hedged hedgeDelay leg start)) := by
  have ends := hedgedRace_ends gpuFut leg hedgeDelay start
  refine ⟨ends.finish_eq, ?_, ?_, ?_, ?_⟩
  · generalize raceOutcome (gpuFut start) (hedged hedgeDelay leg start) = outcome at ends
    cases ends <;> exact ⟨nofun, nofun⟩
  · intro time failure left
    rw [left] at ends
    cases ends with
    | bothFailed gpuFinished => exact ⟨_, _, gpuFinished, rfl⟩
  · intro addr poolType atOnce
    exact (secondaryPerformed_forward_iff atOnce).trans (pollsSecondary_hedgeDelay_iff ends)
  · intro time result log won
    rw [won] at ends
    exact ends.log_eq

end Specification

/-- A retry loop begins with a request. -/
theorem forwardWithRetry_sendsAtOnce (client : Client) (cfg : RetryConfig)
    (ctx : ForwardCtx) (addr : SocketAddr) (poolType : PoolType) :
    SendsAtOnce (forwardWithRetry client cfg ctx addr poolType) addr poolType :=
  fun start => (forwardWithRetry_course client cfg ctx addr poolType start).head

/-- **The hedged race is its specification.**  This holds of the loop for any two
legs and any hedge delay, and so of the race that a request runs. -/
theorem runRace_meetsRaceSpec (hedgeDelay : Duration) (start : Instant) :
    (∀ gpuFut leg : Timed RouterEffect RouteResult,
      MeetsRaceSpec gpuFut leg hedgeDelay start
        (raceOutcome (gpuFut start) (hedged hedgeDelay leg start))) ∧
    ∀ (client : Client) (cfg : RetryConfig) (gpuAddr secondaryAddr : SocketAddr)
      (secondaryPool : PoolType) (ctx : ForwardCtx),
      let gpuFut := forwardWithRetry client cfg ctx gpuAddr .gpu
      let leg := forwardWithRetry client cfg ctx secondaryAddr secondaryPool
      (runRace client cfg hedgeDelay gpuAddr secondaryAddr secondaryPool ctx start).finish =
        raceSpec (gpuFut start).finish (leg (start + hedgeDelay)).finish ∧
      ((∃ time, (time, .forward secondaryAddr secondaryPool) ∈
          (raceOutcome (gpuFut start) (hedged hedgeDelay leg start)).secondaryPerformed
            (hedged hedgeDelay leg start)) ↔
        ¬ WonBy (gpuFut start) (start + hedgeDelay)) := by
  refine ⟨fun gpuFut leg => meetsRaceSpec_raceOutcome gpuFut leg hedgeDelay start, ?_⟩
  intro client cfg gpuAddr secondaryAddr secondaryPool ctx gpuFut leg
  have specified := meetsRaceSpec_raceOutcome gpuFut leg hedgeDelay start
  refine ⟨specified.returns, specified.requested _ _ ?_⟩
  exact forwardWithRetry_sendsAtOnce client cfg ctx secondaryAddr secondaryPool

end BgeRouter
