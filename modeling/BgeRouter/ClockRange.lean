import BgeRouter.Configuration
import BgeRouter.SerialisedUpdates

/-!
# Windows and the range of the clock

An instant counts its seconds in a signed 64-bit integer, while a cooldown may
be any number of seconds that an unsigned one holds.  The end of a window is a
plain sum of the two, which panics when it is out of range.
-/

namespace BgeRouter

/-- `i64::MAX`. -/
def i64Max : Nat := 9223372036854775807

/-- The clock can show this instant. -/
def OnClock (instant : Instant) : Prop :=
  instant / 1000000000 ≤ i64Max

instance (instant : Instant) : Decidable (OnClock instant) :=
  inferInstanceAs (Decidable (_ ≤ _))

/-- `Instant + Duration`, or `none` where it panics. -/
def addDuration (now : Instant) (duration : Duration) : Option Instant :=
  if OnClock (now + duration) then some (now + duration) else none

/-- A `trip` call as in `trip`, or `none` where it panics. -/
def tripOrPanic (snapshot : PoolSnapshot) (addr : SocketAddr) (duration : Duration)
    (now : Instant) : Option PoolSnapshot :=
  if duration = 0 then some snapshot
  else if alreadyCooled snapshot addr now then some snapshot
  else (addDuration now duration).map fun deadline => tripRcu snapshot addr deadline now

section Panics

variable {snapshot : PoolSnapshot} {addr : SocketAddr} {duration : Duration}
  {now : Instant} {lookup : String → Option String} {config : Config}

/-- A call panics exactly when it gets to a sum out of range, and otherwise
does what `trip` does. -/
theorem tripOrPanic_eq_trip_iff :
    tripOrPanic snapshot addr duration now = some (trip snapshot addr duration now) ↔
      duration = 0 ∨ alreadyCooled snapshot addr now = true ∨ OnClock (now + duration) := by
  by_cases zero : duration = 0
  · have completes : tripOrPanic snapshot addr duration now =
        some (trip snapshot addr duration now) := by
      rw [tripOrPanic, if_pos zero, trip, if_pos zero]
    exact iff_of_true completes (Or.inl zero)
  cases cooled : alreadyCooled snapshot addr now with
  | true =>
      have completes : tripOrPanic snapshot addr duration now =
          some (trip snapshot addr duration now) := by
        rw [tripOrPanic, if_neg zero, if_pos cooled, trip_of_alreadyCooled cooled]
      exact iff_of_true completes (Or.inr (Or.inl rfl))
  | false =>
      have reaches : tripOrPanic snapshot addr duration now =
          (addDuration now duration).map fun deadline =>
            tripRcu snapshot addr deadline now := by
        rw [tripOrPanic, if_neg zero, cooled]
        rfl
      rw [reaches, trip_of_not_alreadyCooled (Nat.pos_of_ne_zero zero) cooled, addDuration]
      by_cases inRange : OnClock (now + duration)
      · rw [if_pos inRange]
        exact iff_of_true rfl (Or.inr (Or.inr inRange))
      · rw [if_neg inRange]
        simp [zero, inRange]

theorem onClock_add_fromSecs_iff {secs : Nat} :
    OnClock (now + Duration.fromSecs secs) ↔ now / 1000000000 + secs ≤ i64Max := by
  have seconds : (now + Duration.fromSecs secs) / 1000000000 = now / 1000000000 + secs :=
    Nat.add_mul_div_right now secs (by decide)
  rw [OnClock, seconds]

/-- **Tripping within the range of the clock.**  With an accepted
configuration a call completes exactly when the cooldown is disabled, the
upstream is cooling down already, or the window ends within the range. -/
theorem tripOrPanic_iff_of_fromLookup (accepted : Config.fromLookup lookup = .ok config) :
    ∃ secs, parseU64 "BGE_ROUTER_COOLDOWN_SECS" defaultCooldownSecs lookup = .ok secs ∧
      ∀ snapshot addr now,
        tripOrPanic snapshot addr config.retryConfig.cooldown now =
            some (trip snapshot addr config.retryConfig.cooldown now) ↔
          secs = 0 ∨ alreadyCooled snapshot addr now = true ∨
            now / 1000000000 + secs ≤ i64Max := by
  obtain ⟨secs, read, cooldown⟩ := (Config.settingsFrom_of_fromLookup accepted).cooldown
  refine ⟨secs, read, fun snapshot addr now => ?_⟩
  have length : config.retryConfig.cooldown = .fromSecs secs := cooldown
  rw [length, tripOrPanic_eq_trip_iff, fromSecs_eq_zero_iff, onClock_add_fromSecs_iff]

end Panics

/-- The default cooldown fits the clock of any process. -/
theorem tripOrPanic_default :
    ∃ secs, parseU64 "BGE_ROUTER_COOLDOWN_SECS" defaultCooldownSecs (fun _ => none) = .ok secs ∧
      ∀ snapshot addr now,
        tripOrPanic snapshot addr Config.default.retryConfig.cooldown now =
            some (trip snapshot addr Config.default.retryConfig.cooldown now) ↔
          secs = 0 ∨ alreadyCooled snapshot addr now = true ∨
            now / 1000000000 + secs ≤ i64Max :=
  tripOrPanic_iff_of_fromLookup Config.fromLookup_empty

/-- The longest cooldown is accepted, and the first trip panics. -/
theorem longestCooldown_panics :
    ¬ ∀ lookup config, Config.fromLookup lookup = .ok config →
      ∀ snapshot addr now, OnClock now →
        (tripOrPanic snapshot addr config.retryConfig.cooldown now).isSome = true := by
  intro completes
  have accepted :
      Config.fromLookup (onlySets "BGE_ROUTER_COOLDOWN_SECS" "18446744073709551615") =
        .ok { Config.default with cooldown := .fromSecs u64Max } := rfl
  have panicked : tripOrPanic onlyGpu .sampleGpu (.fromSecs u64Max) 0 = none := by decide
  have completed := completes _ _ accepted onlyGpu .sampleGpu 0 (by decide)
  rw [Config.retryConfig, panicked] at completed
  cases completed

end BgeRouter
