import BgeRouter.Library.BiasedSelect
import BgeRouter.RetryLoop

/-!
# The hedged race

`runRace` starts the GPU leg at once and the secondary leg after the hedge
delay, and `selectWinner` waits for the two in a loop around a biased select.
The first answer other than 5xx is returned and the other leg is dropped; when
both legs fail, the outcome of the GPU leg is returned.
-/

namespace BgeRouter

inductive RaceSide where
  | primaryGpu
  | secondary
deriving DecidableEq

def RaceSide.asStr : RaceSide → String
  | .primaryGpu => "primary_gpu"
  | .secondary => "secondary"

/-- What is logged about the leg that did not win. -/
inductive LoserStatus where
  | notStarted
  | cancelled
  | errored
deriving DecidableEq

def LoserStatus.asStr : LoserStatus → String
  | .notStarted => "not_started"
  | .cancelled => "cancelled"
  | .errored => "errored"

structure WinnerLog where
  side : RaceSide
  elapsed : Duration
  loserStatus : LoserStatus
deriving DecidableEq

/-- How the loop ends: it returns the answer of a winner or leaves with the
failure it has kept, it waits forever, or it goes wrong. -/
inductive RaceOutcome where
  | won (time : Instant) (result : RouteResult) (log : WinnerLog)
  | bothFailed (time : Instant) (failure : Option RouteResult)
  | pending
  | panicked
  | outOfFuel

/-- The local variables of the loop. -/
structure RaceState where
  now : Instant
  gpuFut : SelectLeg RouteResult
  secondaryFut : SelectLeg RouteResult
  gpuDone : Bool
  secondaryDone : Bool
  gpuFailure : Option RouteResult
  secondaryFailure : Option RouteResult

/-- The state in which the loop is entered. -/
def RaceState.initial (start : Instant) (gpu secondary : Option (Instant × RouteResult)) :
    RaceState where
  now := start
  gpuFut := .fresh gpu
  secondaryFut := .fresh secondary
  gpuDone := false
  secondaryDone := false
  gpuFailure := none
  secondaryFailure := none

/-- The loop of `select_winner`; `secondaryStarted` is the flag that the
secondary leg has set by the time the GPU leg is polled. -/
def selectWinner (start : Instant) (secondaryStarted : Instant → Bool) :
    (fuel : Nat) → RaceState → RaceOutcome
  | 0, _ => .outOfFuel
  | fuel + 1, state =>
      if state.gpuDone && state.secondaryDone then
        .bothFailed state.now (state.gpuFailure.or state.secondaryFailure)
      else
        match biasedSelect state.now state.gpuFut (!state.gpuDone) state.secondaryFut
            (!state.secondaryDone) with
        | .first time result =>
            if isWinner result then
              .won time result
                { side := .primaryGpu
                  elapsed := time - start
                  loserStatus :=
                    if state.secondaryDone then .errored
                    else if secondaryStarted time then .cancelled
                    else .notStarted }
            else
              selectWinner start secondaryStarted fuel { state with
                now := time
                gpuFut := { state.gpuFut with taken := true }
                gpuDone := true
                gpuFailure := some result }
        | .second time result =>
            if isWinner result then
              .won time result
                { side := .secondary
                  elapsed := time - start
                  loserStatus := if state.gpuDone then .errored else .cancelled }
            else
              selectWinner start secondaryStarted fuel { state with
                now := time
                secondaryFut := { state.secondaryFut with taken := true }
                secondaryDone := true
                secondaryFailure := some result }
        | .pending => .pending
        | .polledAfterCompletion => .panicked
        | .allDisabled => .panicked

/-- Every leg completes at most once, so three rounds are enough. -/
def raceFuel : Nat := 3

namespace RaceOutcome

/-- When the race returns, and what. -/
def finish : RaceOutcome → Option (Instant × RouteResult)
  | won time result _ => some (time, result)
  | bothFailed time failure => some (time, failure.getD (.error .noUpstreamAvailable))
  | _ => none

/-- The GPU leg is polled up to the end of the race. -/
def pollsGpu (outcome : RaceOutcome) (time : Instant) : Bool :=
  outcome.finish.all fun last => decide (time ≤ last.1)

/-- The secondary leg is polled up to the end of the race, but no more in the
poll in which the GPU leg wins. -/
def pollsSecondary : RaceOutcome → Instant → Bool
  | won last _ ⟨.primaryGpu, _, _⟩, time => decide (time < last)
  | won last _ ⟨.secondary, _, _⟩, time => decide (time ≤ last)
  | bothFailed last _, time => decide (time ≤ last)
  | _, _ => true

def gpuPerformed {start : Instant} (outcome : RaceOutcome)
    (gpu : Course RouterEffect RouteResult start) : List (Instant × RouterEffect) :=
  gpu.effects.filter fun effect => outcome.pollsGpu effect.1

def secondaryPerformed {start : Instant} (outcome : RaceOutcome)
    (secondary : Course RouterEffect RouteResult start) :
    List (Instant × RouterEffect) :=
  secondary.effects.filter fun effect => outcome.pollsSecondary effect.1

end RaceOutcome

/-- The flag of the secondary leg, as the GPU leg's arm of the select sees it. -/
def startedBefore {start : Instant} (secondary : Course RouterEffect RouteResult start)
    (time : Instant) : Bool :=
  (secondary.before time).any fun effect => decide (effect.2 = .secondaryStarted)

section Loop

variable {start : Instant} {secondaryStarted : Instant → Bool}
  {gpu secondary : Option (Instant × RouteResult)}

/-- How the race ends, told by the order and the kind of the two completions. -/
inductive RaceEnd (start : Instant) (secondaryStarted : Instant → Bool)
    (gpu secondary : Option (Instant × RouteResult)) : RaceOutcome → Prop where
  | gpuFirst {time result} (finished : gpu = some (time, result))
      (winner : isWinner result = true)
      (first : ∀ done, secondary = some done → time ≤ done.1) :
      RaceEnd start secondaryStarted gpu secondary
        (.won time result ⟨.primaryGpu, time - start,
          if secondaryStarted time then .cancelled else .notStarted⟩)
  | gpuLast {time result other failure} (finished : gpu = some (time, result))
      (winner : isWinner result = true) (otherFinished : secondary = some (other, failure))
      (failed : isWinner failure = false) (order : other < time) :
      RaceEnd start secondaryStarted gpu secondary
        (.won time result ⟨.primaryGpu, time - start, .errored⟩)
  | secondaryFirst {time result} (finished : secondary = some (time, result))
      (winner : isWinner result = true) (first : ∀ done, gpu = some done → time < done.1) :
      RaceEnd start secondaryStarted gpu secondary
        (.won time result ⟨.secondary, time - start, .cancelled⟩)
  | secondaryLast {time result other failure} (finished : secondary = some (time, result))
      (winner : isWinner result = true) (otherFinished : gpu = some (other, failure))
      (failed : isWinner failure = false) (order : other ≤ time) :
      RaceEnd start secondaryStarted gpu secondary
        (.won time result ⟨.secondary, time - start, .errored⟩)
  | bothFailed {gpuTime gpuFailure time failure last}
      (gpuFinished : gpu = some (gpuTime, gpuFailure))
      (finished : secondary = some (time, failure)) (gpuFailed : isWinner gpuFailure = false)
      (failed : isWinner failure = false) (later : last = max gpuTime time) :
      RaceEnd start secondaryStarted gpu secondary (.bothFailed last (some gpuFailure))
  | pending (gpuFailed : ∀ done, gpu = some done → isWinner done.2 = false)
      (failed : ∀ done, secondary = some done → isWinner done.2 = false)
      (missing : gpu = none ∨ secondary = none) :
      RaceEnd start secondaryStarted gpu secondary .pending

theorem selectWinner_after_gpu {now : Instant} (failure : RouteResult) (fuel : Nat)
    (gpuFut : SelectLeg RouteResult)
    (secondaryLater : ∀ done, secondary = some done → now ≤ done.1) :
    selectWinner start secondaryStarted (fuel + 2)
        { now := now
          gpuFut := gpuFut
          secondaryFut := .fresh secondary
          gpuDone := true
          secondaryDone := false
          gpuFailure := some failure
          secondaryFailure := none } =
      secondary.elim .pending fun done =>
        if isWinner done.2 then .won done.1 done.2 ⟨.secondary, done.1 - start, .errored⟩
        else .bothFailed done.1 (some failure) := by
  have round := biasedSelect_second_only gpuFut secondaryLater
  rw [selectWinner]
  simp only [Bool.not_true, Bool.not_false, Bool.and_false, Bool.false_eq_true, if_false,
    round]
  cases secondary with
  | none => rfl
  | some done =>
      simp only [SelectResult.earlier, Option.elim]
      split_ifs with winner
      · rfl
      · rfl

theorem selectWinner_after_secondary {now : Instant} (failure : RouteResult) (fuel : Nat)
    (secondaryFut : SelectLeg RouteResult)
    (gpuLater : ∀ done, gpu = some done → now ≤ done.1) :
    selectWinner start secondaryStarted (fuel + 2)
        { now := now
          gpuFut := .fresh gpu
          secondaryFut := secondaryFut
          gpuDone := false
          secondaryDone := true
          gpuFailure := none
          secondaryFailure := some failure } =
      gpu.elim .pending fun done =>
        if isWinner done.2 then .won done.1 done.2 ⟨.primaryGpu, done.1 - start, .errored⟩
        else .bothFailed done.1 (some done.2) := by
  have round := biasedSelect_first_only secondaryFut gpuLater
  rw [selectWinner]
  simp only [Bool.not_true, Bool.not_false, Bool.false_and, Bool.false_eq_true, if_false,
    round]
  cases gpu with
  | none => rfl
  | some done =>
      simp only [SelectResult.earlier, Option.elim]
      split_ifs with winner
      · rfl
      · rfl

theorem selectWinner_gpu_first {time : Instant} {result : RouteResult} (later : start ≤ time)
    (first : ∀ done, secondary = some done → time ≤ done.1) :
    selectWinner start secondaryStarted raceFuel
        (.initial start (some (time, result)) secondary) =
      if isWinner result then
        .won time result ⟨.primaryGpu, time - start,
          if secondaryStarted time then .cancelled else .notStarted⟩
      else secondary.elim .pending fun done =>
        if isWinner done.2 then .won done.1 done.2 ⟨.secondary, done.1 - start, .errored⟩
        else .bothFailed done.1 (some result) := by
  have round : biasedSelect start (.fresh (some (time, result))) true (.fresh secondary) true =
      .first time result := by
    rw [biasedSelect_fresh (by simpa using later)
      fun done finished => Nat.le_trans later (first done finished)]
    cases secondary with
    | none => rfl
    | some done => exact if_pos (first done rfl)
  rw [raceFuel, selectWinner]
  simp only [RaceState.initial, Bool.not_false, Bool.and_self, Bool.false_eq_true, if_false,
    round]
  by_cases winner : isWinner result = true
  · simp only [if_pos winner]
  · simp only [if_neg winner]
    exact selectWinner_after_gpu result 0 _ first

theorem selectWinner_secondary_first {time : Instant} {result : RouteResult}
    (later : start ≤ time) (first : ∀ done, gpu = some done → time < done.1) :
    selectWinner start secondaryStarted raceFuel
        (.initial start gpu (some (time, result))) =
      if isWinner result then .won time result ⟨.secondary, time - start, .cancelled⟩
      else gpu.elim .pending fun done =>
        if isWinner done.2 then .won done.1 done.2 ⟨.primaryGpu, done.1 - start, .errored⟩
        else .bothFailed done.1 (some done.2) := by
  have gpuLater : ∀ done, gpu = some done → time ≤ done.1 :=
    fun done finished => Nat.le_of_lt (first done finished)
  have round : biasedSelect start (.fresh gpu) true (.fresh (some (time, result))) true =
      .second time result := by
    rw [biasedSelect_fresh (fun done finished => Nat.le_trans later (gpuLater done finished))
      (by simpa using later)]
    cases gpu with
    | none => rfl
    | some done => exact if_neg (Nat.not_le.mpr (first done rfl))
  rw [raceFuel, selectWinner]
  simp only [RaceState.initial, Bool.not_false, Bool.and_self, Bool.false_eq_true, if_false,
    round]
  split_ifs with winner
  · rfl
  · exact selectWinner_after_secondary result 0 _ gpuLater

theorem RaceEnd.of_gpu_first {time : Instant} {result : RouteResult} (later : start ≤ time)
    (first : ∀ done, secondary = some done → time ≤ done.1) :
    RaceEnd start secondaryStarted (some (time, result)) secondary
      (selectWinner start secondaryStarted raceFuel
        (.initial start (some (time, result)) secondary)) := by
  rw [selectWinner_gpu_first later first]
  by_cases winner : isWinner result = true
  · rw [if_pos winner]
    exact .gpuFirst rfl winner first
  · rw [if_neg winner]
    have failed := Bool.eq_false_iff.mpr winner
    cases secondary with
    | none =>
        apply RaceEnd.pending
        · rintro done ⟨⟩
          exact failed
        · intro done finished
          cases finished
        · exact Or.inr rfl
    | some done =>
        have order := first done rfl
        simp only [Option.elim]
        split_ifs with otherWinner
        · exact .secondaryLast rfl otherWinner rfl failed order
        · exact .bothFailed rfl rfl failed (Bool.eq_false_iff.mpr otherWinner)
            (Nat.max_eq_right order).symm

theorem RaceEnd.of_secondary_first {time : Instant} {result : RouteResult}
    (later : start ≤ time) (first : ∀ done, gpu = some done → time < done.1) :
    RaceEnd start secondaryStarted gpu (some (time, result))
      (selectWinner start secondaryStarted raceFuel
        (.initial start gpu (some (time, result)))) := by
  rw [selectWinner_secondary_first later first]
  split_ifs with winner
  · exact .secondaryFirst rfl winner first
  · have failed := Bool.eq_false_iff.mpr winner
    cases gpu with
    | none =>
        apply RaceEnd.pending
        · intro done finished
          cases finished
        · rintro done ⟨⟩
          exact failed
        · exact Or.inl rfl
    | some done =>
        have order := first done rfl
        simp only [Option.elim]
        split_ifs with gpuWinner
        · exact .gpuLast rfl gpuWinner rfl failed order
        · exact .bothFailed rfl rfl (Bool.eq_false_iff.mpr gpuWinner) failed
            (Nat.max_eq_left (Nat.le_of_lt order)).symm

/-- The loop ends within three rounds, in one of these ways. -/
theorem selectWinner_ends (gpuLater : ∀ done, gpu = some done → start ≤ done.1)
    (secondaryLater : ∀ done, secondary = some done → start ≤ done.1) :
    RaceEnd start secondaryStarted gpu secondary
      (selectWinner start secondaryStarted raceFuel (.initial start gpu secondary)) := by
  cases gpu with
  | none =>
      cases secondary with
      | none => exact .pending nofun nofun (Or.inl rfl)
      | some done => exact .of_secondary_first (secondaryLater done rfl) nofun
  | some gpuDone =>
      cases secondary with
      | none => exact .of_gpu_first (gpuLater gpuDone rfl) nofun
      | some done =>
          rcases Nat.lt_or_ge done.1 gpuDone.1 with secondaryFirst | gpuFirst
          · apply RaceEnd.of_secondary_first (secondaryLater done rfl)
            rintro other ⟨⟩
            exact secondaryFirst
          · apply RaceEnd.of_gpu_first (gpuLater gpuDone rfl)
            rintro other ⟨⟩
            exact gpuFirst

/-- **Reference specification.**  The winner that completes first is returned,
the GPU leg's if both come at once.  Without a winner the GPU leg's outcome is
returned when the later leg has failed. -/
def raceSpec (gpu secondary : Option (Instant × RouteResult)) :
    Option (Instant × RouteResult) :=
  match gpu.filter (isWinner ·.2), secondary.filter (isWinner ·.2) with
  | some (gpuTime, gpuResult), some (time, result) =>
      if gpuTime ≤ time then some (gpuTime, gpuResult) else some (time, result)
  | some winner, none => some winner
  | none, some winner => some winner
  | none, none =>
      match gpu, secondary with
      | some (gpuTime, gpuResult), some (time, _) => some (max gpuTime time, gpuResult)
      | _, _ => none

theorem RaceEnd.finish_eq {outcome : RaceOutcome}
    (ends : RaceEnd start secondaryStarted gpu secondary outcome) :
    outcome.finish = raceSpec gpu secondary := by
  cases ends with
  | @gpuFirst time result finished winner first =>
      cases secondary with
      | none => simp [RaceOutcome.finish, raceSpec, finished, Option.filter, winner]
      | some done =>
          have order := first done rfl
          cases other : isWinner done.2 <;>
            simp [RaceOutcome.finish, raceSpec, finished, Option.filter, winner, other, order]
  | gpuLast finished winner otherFinished failed order =>
      simp [RaceOutcome.finish, raceSpec, finished, otherFinished, Option.filter, winner,
        failed]
  | @secondaryFirst time result finished winner first =>
      cases gpu with
      | none => simp [RaceOutcome.finish, raceSpec, finished, Option.filter, winner]
      | some done =>
          have order := Nat.not_le.mpr (first done rfl)
          cases other : isWinner done.2 <;>
            simp [RaceOutcome.finish, raceSpec, finished, Option.filter, winner, other, order]
  | secondaryLast finished winner otherFinished failed order =>
      simp [RaceOutcome.finish, raceSpec, finished, otherFinished, Option.filter, winner,
        failed]
  | bothFailed gpuFinished finished gpuFailed failed later =>
      simp [RaceOutcome.finish, raceSpec, gpuFinished, finished, Option.filter, gpuFailed,
        failed, later]
  | pending gpuFailed failed missing =>
      have noGpu : gpu.filter (isWinner ·.2) = none :=
        Option.filter_eq_none_iff.mpr fun done same => by simp [gpuFailed done same]
      have noSecondary : secondary.filter (isWinner ·.2) = none :=
        Option.filter_eq_none_iff.mpr fun done same => by simp [failed done same]
      rcases missing with rfl | rfl
      · simp [RaceOutcome.finish, raceSpec, noSecondary]
      · cases gpu with
        | none => rfl
        | some done => simp [RaceOutcome.finish, raceSpec, noGpu]

theorem forall_win_of_finished {property : Instant → Prop} {leg : Option (Instant × RouteResult)}
    {time : Instant} {result : RouteResult} (finished : leg = some (time, result))
    (holds : isWinner result = true → property time) :
    ∀ won other, leg = some (won, other) → isWinner other = true → property won := by
  intro won other again winner
  cases finished.symm.trans again
  exact holds winner

theorem forall_win_of_lost {property : Instant → Prop} {leg : Option (Instant × RouteResult)}
    (lost : ∀ done, leg = some done → isWinner done.2 = false) :
    ∀ won other, leg = some (won, other) → isWinner other = true → property won := by
  intro won other finished winner
  rw [lost _ finished] at winner
  cases winner

/-- A failure of the GPU leg is handled unless the secondary leg has won before. -/
theorem RaceEnd.pollsGpu_iff {outcome : RaceOutcome}
    (ends : RaceEnd start secondaryStarted gpu secondary outcome) {time : Instant}
    {failure : RouteResult} (finished : gpu = some (time, failure))
    (failed : isWinner failure = false) :
    outcome.pollsGpu time = true ↔
      ∀ won result, secondary = some (won, result) → isWinner result = true → time ≤ won := by
  subst finished
  cases ends with
  | gpuFirst ofGpu winner =>
      cases ofGpu
      rw [failed] at winner
      cases winner
  | gpuLast ofGpu winner =>
      cases ofGpu
      rw [failed] at winner
      cases winner
  | secondaryFirst ofSecondary winner first =>
      have late := Nat.not_le.mpr (first _ rfl)
      constructor
      · intro polled
        exact absurd (of_decide_eq_true polled) late
      · intro unbeaten
        exact absurd (unbeaten _ _ ofSecondary winner) late
  | secondaryLast ofSecondary winner ofGpu _ order =>
      cases ofGpu
      have polled := decide_eq_true order
      exact iff_of_true polled (forall_win_of_finished ofSecondary fun _ => order)
  | bothFailed ofGpu ofSecondary _ lost later =>
      cases ofGpu
      have polled := decide_eq_true (later ▸ Nat.le_max_left _ _)
      exact iff_of_true polled (forall_win_of_finished ofSecondary fun winner =>
        absurd winner (Bool.eq_false_iff.mp lost))
  | pending _ lost => exact iff_of_true rfl (forall_win_of_lost lost)

/-- A failure of the secondary leg is handled unless the GPU leg has won before
or at the same time. -/
theorem RaceEnd.pollsSecondary_iff {outcome : RaceOutcome}
    (ends : RaceEnd start secondaryStarted gpu secondary outcome) {time : Instant}
    {failure : RouteResult} (finished : secondary = some (time, failure))
    (failed : isWinner failure = false) :
    outcome.pollsSecondary time = true ↔
      ∀ won result, gpu = some (won, result) → isWinner result = true → time < won := by
  subst finished
  cases ends with
  | gpuFirst ofGpu winner first =>
      have late := Nat.not_lt.mpr (first _ rfl)
      constructor
      · intro polled
        exact absurd (of_decide_eq_true polled) late
      · intro unbeaten
        exact absurd (unbeaten _ _ ofGpu winner) late
  | gpuLast ofGpu winner ofSecondary _ order =>
      cases ofSecondary
      have polled := decide_eq_true order
      exact iff_of_true polled (forall_win_of_finished ofGpu fun _ => order)
  | secondaryFirst ofSecondary winner =>
      cases ofSecondary
      rw [failed] at winner
      cases winner
  | secondaryLast ofSecondary winner =>
      cases ofSecondary
      rw [failed] at winner
      cases winner
  | bothFailed ofGpu ofSecondary lost _ later =>
      cases ofSecondary
      have polled := decide_eq_true (later ▸ Nat.le_max_right _ _)
      exact iff_of_true polled (forall_win_of_finished ofGpu fun winner =>
        absurd winner (Bool.eq_false_iff.mp lost))
  | pending lost => exact iff_of_true rfl (forall_win_of_lost lost)

theorem RaceEnd.both_failed {outcome : RaceOutcome}
    (ends : RaceEnd start secondaryStarted gpu secondary outcome) {last : Instant}
    {result : RouteResult} (finished : outcome.finish = some (last, result))
    (failed : isWinner result = false) :
    ∃ gpuTime gpuFailure time failure, gpu = some (gpuTime, gpuFailure) ∧
      secondary = some (time, failure) ∧ isWinner gpuFailure = false ∧
      isWinner failure = false ∧ gpuTime ≤ last ∧ time ≤ last := by
  cases ends with
  | gpuFirst _ winner =>
      cases finished
      rw [winner] at failed
      cases failed
  | gpuLast _ winner =>
      cases finished
      rw [winner] at failed
      cases failed
  | secondaryFirst _ winner =>
      cases finished
      rw [winner] at failed
      cases failed
  | secondaryLast _ winner =>
      cases finished
      rw [winner] at failed
      cases failed
  | bothFailed ofGpu ofSecondary gpuFailed ownFailed later =>
      cases finished
      refine ⟨_, _, _, _, ofGpu, ofSecondary, gpuFailed, ownFailed, ?_, ?_⟩
      · exact later ▸ Nat.le_max_left _ _
      · exact later ▸ Nat.le_max_right _ _
  | pending => cases finished

theorem RaceEnd.time {outcome : RaceOutcome}
    (ends : RaceEnd start secondaryStarted gpu secondary outcome) {last : Instant}
    {result : RouteResult} (finished : outcome.finish = some (last, result)) :
    ∃ own, gpu = some (last, own) ∨ secondary = some (last, own) := by
  cases ends with
  | gpuFirst ofGpu =>
      obtain ⟨rfl, rfl⟩ := Prod.mk.inj (Option.some.inj finished)
      exact ⟨_, Or.inl ofGpu⟩
  | gpuLast ofGpu =>
      obtain ⟨rfl, rfl⟩ := Prod.mk.inj (Option.some.inj finished)
      exact ⟨_, Or.inl ofGpu⟩
  | secondaryFirst ofSecondary =>
      obtain ⟨rfl, rfl⟩ := Prod.mk.inj (Option.some.inj finished)
      exact ⟨_, Or.inr ofSecondary⟩
  | secondaryLast ofSecondary =>
      obtain ⟨rfl, rfl⟩ := Prod.mk.inj (Option.some.inj finished)
      exact ⟨_, Or.inr ofSecondary⟩
  | @bothFailed gpuTime gpuFailure time failure own ofGpu ofSecondary _ _ later =>
      obtain ⟨rfl, -⟩ := Prod.mk.inj (Option.some.inj finished)
      rcases Nat.le_total gpuTime time with order | order
      · rw [later, Nat.max_eq_right order]
        exact ⟨failure, Or.inr ofSecondary⟩
      · rw [later, Nat.max_eq_left order]
        exact ⟨gpuFailure, Or.inl ofGpu⟩
  | pending => cases finished

end Loop

section Race

variable {start : Instant}

def raceOutcome (gpu secondary : Course RouterEffect RouteResult start) : RaceOutcome :=
  selectWinner start (startedBefore secondary) raceFuel
    (.initial start gpu.finish secondary.finish)

theorem raceOutcome_ends (gpu secondary : Course RouterEffect RouteResult start) :
    RaceEnd start (startedBefore secondary) gpu.finish secondary.finish
      (raceOutcome gpu secondary) :=
  selectWinner_ends (fun done finished => (gpu.ended done.1 done.2 finished).1)
    (fun done finished => (secondary.ended done.1 done.2 finished).1)

namespace RaceOutcome

variable {outcome : RaceOutcome} {gpu secondary : Course RouterEffect RouteResult start}

theorem le_of_pollsGpu {time last : Instant} {result : RouteResult}
    (finished : outcome.finish = some (last, result))
    (polled : outcome.pollsGpu time = true) : time ≤ last := by
  simpa [pollsGpu, finished] using polled

theorem le_of_pollsSecondary {time last : Instant} {result : RouteResult}
    (finished : outcome.finish = some (last, result))
    (polled : outcome.pollsSecondary time = true) : time ≤ last := by
  cases outcome with
  | won ownLast ownResult log =>
      obtain ⟨rfl, -⟩ := Prod.mk.inj (Option.some.inj finished)
      obtain ⟨side, elapsed, loserStatus⟩ := log
      cases side with
      | primaryGpu => exact Nat.le_of_lt (of_decide_eq_true polled)
      | secondary => exact of_decide_eq_true polled
  | bothFailed ownLast failure =>
      obtain ⟨rfl, -⟩ := Prod.mk.inj (Option.some.inj finished)
      exact of_decide_eq_true polled
  | pending => cases finished
  | panicked => cases finished
  | outOfFuel => cases finished

theorem performed_le {last : Instant} {result : RouteResult}
    (finished : outcome.finish = some (last, result)) {effect : Instant × RouterEffect}
    (member : effect ∈ outcome.gpuPerformed gpu ∨
      effect ∈ outcome.secondaryPerformed secondary) : effect.1 ≤ last := by
  rcases member with ofGpu | ofSecondary
  · exact le_of_pollsGpu finished (List.mem_filter.mp ofGpu).2
  · exact le_of_pollsSecondary finished (List.mem_filter.mp ofSecondary).2

end RaceOutcome

/-- Both legs until the race ends. -/
def race (gpuFut secondaryFut : Timed RouterEffect RouteResult) :
    Timed RouterEffect RouteResult := fun start =>
  let outcome := raceOutcome (gpuFut start) (secondaryFut start)
  { effects := interleave (outcome.gpuPerformed (gpuFut start))
      (outcome.secondaryPerformed (secondaryFut start))
    finish := outcome.finish
    started := by
      intro effect member
      rcases mem_interleave.mp member with ofGpu | ofSecondary
      · exact (gpuFut start).started effect (List.mem_of_mem_filter ofGpu)
      · exact (secondaryFut start).started effect (List.mem_of_mem_filter ofSecondary)
    ordered := interleave_ordered ((secondaryFut start).ordered.filter _)
    ended := by
      intro time result finished
      refine ⟨?_, fun effect member =>
        RaceOutcome.performed_le finished (mem_interleave.mp member)⟩
      obtain ⟨own, ofGpu | ofSecondary⟩ := (raceOutcome_ends _ _).time finished
      · exact ((gpuFut start).ended time own ofGpu).1
      · exact ((secondaryFut start).ended time own ofSecondary).1 }

/-- What the GPU leg does first is what the race does first. -/
theorem race_head {gpuFut : Timed RouterEffect RouteResult}
    (secondaryFut : Timed RouterEffect RouteResult) {effect : RouterEffect}
    {gpuLater : List (Instant × RouterEffect)}
    (head : (gpuFut start).effects = (start, effect) :: gpuLater) :
    ∃ later, (race gpuFut secondaryFut start).effects = (start, effect) :: later := by
  let outcome := raceOutcome (gpuFut start) (secondaryFut start)
  have polled : outcome.pollsGpu start = true := by
    rw [RaceOutcome.pollsGpu, Option.all_eq_true]
    intro last finished
    exact decide_eq_true ((race gpuFut secondaryFut start).ended last.1 last.2 finished).1
  have performed : outcome.gpuPerformed (gpuFut start) =
      (start, effect) :: gpuLater.filter fun other => outcome.pollsGpu other.1 := by
    rw [RaceOutcome.gpuPerformed, head]
    exact List.filter_cons_of_pos polled
  have merged : (race gpuFut secondaryFut start).effects =
      interleave ((start, effect) :: gpuLater.filter fun other => outcome.pollsGpu other.1)
        (outcome.secondaryPerformed (secondaryFut start)) := by
    rw [← performed]
    rfl
  refine ⟨_, merged.trans (interleave_cons_of_first ?_)⟩
  intro other member
  apply (race gpuFut secondaryFut start).started other
  rw [merged, interleave_cons, List.mem_orderedInsert]
  exact Or.inr member

/-- The secondary leg: it sets its flag when the hedge delay has passed, and
only then begins. -/
def hedged (hedgeDelay : Duration) (leg : Timed RouterEffect RouteResult) :
    Timed RouterEffect RouteResult := do
  Timed.sleep hedgeDelay
  Timed.emit .secondaryStarted
  leg

def runRace (client : Client) (cfg : RetryConfig) (hedgeDelay : Duration)
    (gpuAddr secondaryAddr : SocketAddr) (secondaryPool : PoolType) (ctx : ForwardCtx) :
    Timed RouterEffect RouteResult :=
  race (forwardWithRetry client cfg ctx gpuAddr .gpu)
    (hedged hedgeDelay (forwardWithRetry client cfg ctx secondaryAddr secondaryPool))

end Race

end BgeRouter
