import Mathlib.Data.Option.Basic

/-!
# A biased select over two futures

A loop waits for two futures that it polls by reference.  Each select polls its
enabled branches in order whenever one of them can make progress, and takes the
value of the first one that is ready.  Polling a future whose value was taken
already aborts the task, and so does a select with all its branches disabled.
-/

/-- When a future completes and with what, and whether its value was taken. -/
structure SelectLeg (Value : Type*) where
  completion : Option (Nat × Value)
  taken : Bool

/-- How a select over two branches ends. -/
inductive SelectResult (Value : Type*) where
  | first (time : Nat) (value : Value)
  | second (time : Nat) (value : Value)
  | pending
  | polledAfterCompletion
  | allDisabled

/-- The earlier of two completions, the first one if both come at once. -/
def SelectResult.earlier {Value : Type*} :
    (first second : Option (Nat × Value)) → SelectResult Value
  | none, none => .pending
  | some (time, value), none => .first time value
  | none, some (time, value) => .second time value
  | some (firstTime, firstValue), some (secondTime, secondValue) =>
      if firstTime ≤ secondTime then .first firstTime firstValue
      else .second secondTime secondValue

namespace SelectLeg

variable {Value : Type*}

/-- A future that is still to be polled. -/
def fresh (completion : Option (Nat × Value)) : SelectLeg Value where
  completion := completion
  taken := false

/-- When a branch is ready for a select that begins now. -/
def ready (leg : SelectLeg Value) (enabled : Bool) (now : Nat) : Option (Nat × Value) :=
  if enabled then leg.completion.map fun done => (max now done.1, done.2) else none

end SelectLeg

section Select

variable {Value : Type*}

def biasedSelect (now : Nat) (first : SelectLeg Value) (firstEnabled : Bool)
    (second : SelectLeg Value) (secondEnabled : Bool) : SelectResult Value :=
  let firstReady := first.ready firstEnabled now
  let secondReady := second.ready secondEnabled now
  if !firstEnabled && !secondEnabled then .allDisabled
  else if firstEnabled && first.taken then .polledAfterCompletion
  else if secondEnabled && second.taken && !firstReady.any (fun done => done.1 ≤ now) then
    .polledAfterCompletion
  else .earlier firstReady secondReady

variable {now : Nat} {first second : Option (Nat × Value)}

theorem ready_fresh (later : ∀ done, first = some done → now ≤ done.1) :
    (SelectLeg.fresh first).ready true now = first := by
  cases first with
  | none => rfl
  | some done =>
      have order := later done rfl
      simp [SelectLeg.ready, SelectLeg.fresh, Nat.max_eq_right order]

theorem biasedSelect_fresh (firstLater : ∀ done, first = some done → now ≤ done.1)
    (secondLater : ∀ done, second = some done → now ≤ done.1) :
    biasedSelect now (.fresh first) true (.fresh second) true = .earlier first second := by
  simp only [biasedSelect, ready_fresh firstLater, ready_fresh secondLater]
  rfl

theorem biasedSelect_fresh_first {time : Nat} {value : Value} (later : now ≤ time)
    (earliest : ∀ done, second = some done → time ≤ done.1) :
    biasedSelect now (.fresh (some (time, value))) true (.fresh second) true =
      .first time value := by
  rw [biasedSelect_fresh (by simpa using later)
    fun done finished => Nat.le_trans later (earliest done finished)]
  cases second with
  | none => rfl
  | some done => exact if_pos (earliest done rfl)

theorem biasedSelect_fresh_second {time : Nat} {value : Value} (later : now ≤ time)
    (earliest : ∀ done, first = some done → time < done.1) :
    biasedSelect now (.fresh first) true (.fresh (some (time, value))) true =
      .second time value := by
  rw [biasedSelect_fresh
    (fun done finished => Nat.le_trans later (Nat.le_of_lt (earliest done finished)))
    (by simpa using later)]
  cases first with
  | none => rfl
  | some done => exact if_neg (Nat.not_le.mpr (earliest done rfl))

theorem biasedSelect_second_only (leg : SelectLeg Value)
    (secondLater : ∀ done, second = some done → now ≤ done.1) :
    biasedSelect now leg false (.fresh second) true = .earlier none second := by
  simp only [biasedSelect, ready_fresh secondLater]
  rfl

theorem biasedSelect_first_only (leg : SelectLeg Value)
    (firstLater : ∀ done, first = some done → now ≤ done.1) :
    biasedSelect now (.fresh first) true leg false = .earlier first none := by
  simp only [biasedSelect, ready_fresh firstLater]
  rfl

end Select
