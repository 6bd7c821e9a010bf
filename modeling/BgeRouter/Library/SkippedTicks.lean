/-!
# Timers that skip missed ticks

A loop waits for a timer, works for some time and waits again.  The timer is
due at the multiples of its period from its start on.  If the work takes longer
than that, the ticks missed meanwhile are dropped: the loop goes on at once,
and the timer is next due at the first multiple that is still to come.
-/

namespace SkippedTicks

section Timer

variable (period start : Nat)

/-- The number of the last multiple of the period by an instant. -/
def multiple (now : Nat) : Nat := (now - start) / period

/-- The next multiple of the period after a tick. -/
def dueAfter (tick : Nat) : Nat := start + (multiple period start tick + 1) * period

/-- When the rounds of a loop begin, given how long each one works. -/
def tickAt (work : Nat → Nat) : Nat → Nat
  | 0 => start
  | round + 1 => max (dueAfter period start (tickAt work round)) (tickAt work round + work round)

end Timer

section Rounds

variable {period start : Nat} {work : Nat → Nat}

theorem tickAt_succ (round : Nat) :
    tickAt period start work (round + 1) =
      max (dueAfter period start (tickAt period start work round))
        (tickAt period start work round + work round) :=
  rfl

theorem lt_dueAfter (positive : 0 < period) (tick : Nat) :
    tick < dueAfter period start tick := by
  have inPeriod := Nat.lt_div_mul_add positive (a := tick - start)
  simp only [dueAfter, multiple, Nat.add_mul, Nat.one_mul]
  omega

theorem dueAfter_le {tick : Nat} (begun : start ≤ tick) :
    dueAfter period start tick ≤ tick + period := by
  have passed := Nat.div_mul_le_self (tick - start) period
  simp only [dueAfter, multiple, Nat.add_mul, Nat.one_mul]
  omega

/-- The rounds do not overlap. -/
theorem tickAt_add_work_le (round : Nat) :
    tickAt period start work round + work round ≤ tickAt period start work (round + 1) :=
  Nat.le_max_right _ _

theorem start_le_tickAt (round : Nat) : start ≤ tickAt period start work round := by
  induction round with
  | zero => exact Nat.le_refl _
  | succ round ih =>
      have later : tickAt period start work round + work round ≤
          tickAt period start work (round + 1) := tickAt_add_work_le round
      omega

/-- A round begins at most one period after the last one, or when that is over. -/
theorem tickAt_succ_le (round : Nat) :
    tickAt period start work (round + 1) ≤
      tickAt period start work round + max period (work round) := by
  have due : dueAfter period start (tickAt period start work round) ≤
      tickAt period start work round + period := dueAfter_le (start_le_tickAt round)
  rw [tickAt_succ]
  omega

/-- Every round has a multiple of its own. -/
theorem multiple_tickAt_lt (positive : 0 < period) (round : Nat) :
    multiple period start (tickAt period start work round) <
      multiple period start (tickAt period start work (round + 1)) := by
  have due : dueAfter period start (tickAt period start work round) ≤
      tickAt period start work (round + 1) := Nat.le_max_left _ _
  apply (Nat.le_div_iff_mul_le positive).mpr
  rw [dueAfter] at due
  exact Nat.le_sub_of_add_le' due

theorem multiple_add_le (positive : 0 < period) (round later : Nat) :
    multiple period start (tickAt period start work round) + later ≤
      multiple period start (tickAt period start work (round + later)) := by
  induction later with
  | zero => exact Nat.le_refl _
  | succ later ih =>
      have next : multiple period start (tickAt period start work (round + later)) <
          multiple period start (tickAt period start work (round + later + 1)) :=
        multiple_tickAt_lt positive (round + later)
      rw [← Nat.add_assoc round]
      omega

/-- Missed ticks are not made up for: in any time there are no more rounds than
periods, and one. -/
theorem tickAt_add_lt (positive : 0 < period) (round later : Nat) :
    tickAt period start work round + later * period <
      tickAt period start work (round + later + 1) := by
  have own : tickAt period start work round <
      dueAfter period start (tickAt period start work round) := lt_dueAfter positive _
  have due : dueAfter period start (tickAt period start work (round + later)) ≤
      tickAt period start work (round + later + 1) := Nat.le_max_left _ _
  have skipped : (multiple period start (tickAt period start work round) + later) * period ≤
      multiple period start (tickAt period start work (round + later)) * period :=
    Nat.mul_le_mul_right period (multiple_add_le positive round later)
  simp only [dueAfter, Nat.add_mul, Nat.one_mul] at own due skipped
  omega

/-- While no round works longer than a period, no tick is missed. -/
theorem tickAt_eq (positive : 0 < period) {round : Nat}
    (short : ∀ earlier, earlier < round → work earlier ≤ period) :
    tickAt period start work round = start + round * period := by
  induction round with
  | zero => simp [tickAt]
  | succ round ih =>
      have before := ih fun earlier order => short earlier (Nat.lt_succ_of_lt order)
      have own := short round (Nat.lt_succ_self round)
      have due : dueAfter period start (start + round * period) =
          start + (round + 1) * period := by
        rw [dueAfter, multiple, Nat.add_sub_cancel_left, Nat.mul_div_cancel _ positive]
      rw [tickAt_succ, before, due, Nat.add_mul, Nat.one_mul]
      omega

end Rounds

end SkippedTicks
