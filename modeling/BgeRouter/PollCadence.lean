import BgeRouter.BackgroundLoops
import BgeRouter.Library.SkippedTicks

/-!
# The cadence of polls and heartbeats

`health::run` and `metrics::run` wait for timers that skip missed ticks.  A
round of polls lasts as long as its slowest upstream, four seconds at most, so
the reported health is never much older than that or than the period.
Heartbeats take no time and stay on their grid.
-/

namespace BgeRouter

open SkippedTicks

/-- The timeout of the request of a poll. -/
def pollTimeout : Duration := .fromSecs 4

/-- How long a poll waits for an upstream that answers after some time, or
never. -/
def pollOneTakes (answer : Option Duration) : Duration :=
  min (answer.getD pollTimeout) pollTimeout

/-- All upstreams are polled at once, and the slowest one is waited for. -/
def pollAllTakes (answers : List (Option Duration)) : Duration :=
  (answers.map pollOneTakes).foldr max 0

section Loops

variable (interval : Interval) (start : Instant)

/-- When a round of polls begins. -/
def pollAt (answers : Nat → List (Option Duration)) : Nat → Instant :=
  tickAt interval.period start fun round => pollAllTakes (answers round)

/-- When the results of a round are stored. -/
def pollStoredAt (answers : Nat → List (Option Duration)) (round : Nat) : Instant :=
  pollAt interval start answers round + pollAllTakes (answers round)

/-- The first tick of the heartbeat is left out. -/
def heartbeatAt (beat : Nat) : Instant :=
  tickAt interval.period start (fun _ => 0) (beat + 1)

/-- The rounds of polls under a configuration. -/
structure PollCadence (config : Config) (answers : Nat → List (Option Duration)) : Prop where
  /-- a round begins after the results of the one before are stored -/
  apart : ∀ round, pollStoredAt interval start answers round ≤
    pollAt interval start answers (round + 1)
  prompt : ∀ round, pollAt interval start answers (round + 1) ≤
    pollAt interval start answers round + max config.healthPoll pollTimeout
  fresh : ∀ round, pollStoredAt interval start answers (round + 1) ≤
    pollStoredAt interval start answers round +
      (max config.healthPoll pollTimeout + pollTimeout)
  /-- slow rounds are not made up for -/
  noBurst : ∀ round later, pollAt interval start answers round + later * config.healthPoll <
    pollAt interval start answers (round + later + 1)
  steady : ∀ round, (∀ earlier, earlier < round →
      pollAllTakes (answers earlier) ≤ config.healthPoll) →
    pollAt interval start answers round = start + round * config.healthPoll

end Loops

section Cadence

variable {config : Config} {interval : Interval} {start : Instant}
  {answers : Nat → List (Option Duration)}

theorem pollOneTakes_le (answer : Option Duration) : pollOneTakes answer ≤ pollTimeout :=
  Nat.min_le_right _ _

theorem pollAllTakes_le (answers : List (Option Duration)) :
    pollAllTakes answers ≤ pollTimeout := by
  induction answers with
  | nil => exact Nat.zero_le _
  | cons answer rest ih => exact Nat.max_le.mpr ⟨pollOneTakes_le answer, ih⟩

theorem period_of_timeInterval {period : Duration}
    (ticking : timeInterval period = .ticking interval) : interval.period = period := by
  rw [timeInterval] at ticking
  split_ifs at ticking
  cases ticking
  rfl

theorem period_of_metricsSpawn (ticking : metricsSpawn config = .ticking interval) :
    interval.period = config.heartbeat := by
  rw [metricsSpawn] at ticking
  split_ifs at ticking
  exact period_of_timeInterval ticking

theorem heartbeatAt_eq (ticking : metricsSpawn config = .ticking interval) (beat : Nat) :
    heartbeatAt interval start beat = start + (beat + 1) * config.heartbeat := by
  rw [← period_of_metricsSpawn ticking]
  apply tickAt_eq interval.positive
  intro earlier _
  exact Nat.zero_le _

theorem pollCadence (ticking : healthRun config = .ticking interval) :
    PollCadence interval start config answers := by
  have period : interval.period = config.healthPoll := period_of_timeInterval ticking
  have takes := fun round => pollAllTakes_le (answers round)
  have apart : ∀ round, pollStoredAt interval start answers round ≤
      pollAt interval start answers (round + 1) := fun round => tickAt_add_work_le round
  have prompt : ∀ round, pollAt interval start answers (round + 1) ≤
      pollAt interval start answers round + max config.healthPoll pollTimeout := by
    intro round
    have next : pollAt interval start answers (round + 1) ≤
        pollAt interval start answers round +
          max interval.period (pollAllTakes (answers round)) := tickAt_succ_le round
    rw [period] at next
    have slowest : max config.healthPoll (pollAllTakes (answers round)) ≤
        max config.healthPoll pollTimeout :=
      Nat.max_le.mpr ⟨Nat.le_max_left _ _, Nat.le_trans (takes round) (Nat.le_max_right _ _)⟩
    exact Nat.le_trans next (Nat.add_le_add_left slowest _)
  refine ⟨apart, prompt, fun round => ?_, fun round later => ?_, fun round short => ?_⟩
  · have begun : pollAt interval start answers round ≤ pollStoredAt interval start answers round :=
      Nat.le_add_right _ _
    calc pollStoredAt interval start answers (round + 1)
        ≤ pollAt interval start answers (round + 1) + pollTimeout :=
          Nat.add_le_add_left (takes (round + 1)) _
      _ ≤ pollAt interval start answers round + max config.healthPoll pollTimeout +
            pollTimeout := Nat.add_le_add_right (prompt round) _
      _ ≤ pollStoredAt interval start answers round + max config.healthPoll pollTimeout +
            pollTimeout := Nat.add_le_add_right (Nat.add_le_add_right begun _) _
      _ = pollStoredAt interval start answers round +
            (max config.healthPoll pollTimeout + pollTimeout) := Nat.add_assoc _ _ _
  · rw [← period]
    exact tickAt_add_lt interval.positive round later
  · rw [← period] at short ⊢
    exact tickAt_eq interval.positive short

/-- **Health is polled steadily**, however slow the upstreams are, and the
heartbeats come on time. -/
theorem loopCadence (ticking : healthRun config = .ticking interval) (start : Instant)
    (answers : Nat → List (Option Duration)) :
    PollCadence interval start config answers ∧
      ∀ beats, metricsSpawn config = .ticking beats →
        ∀ beat, heartbeatAt beats start beat = start + (beat + 1) * config.heartbeat :=
  ⟨pollCadence ticking, fun _ beating beat => heartbeatAt_eq beating beat⟩

end Cadence

/-- With default settings, in a fleet that never answers. -/
theorem loopCadence_default :
    PollCadence ⟨Config.default.healthPoll, by decide⟩ 0 Config.default
      (fun _ => [none, none]) :=
  (loopCadence rfl 0 fun _ => [none, none]).1

end BgeRouter
