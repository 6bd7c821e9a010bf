import Mathlib.Data.List.Induction
import Mathlib.Data.Option.Basic

/-!
# Runs of a partial step function

A transition system is given by a step function that returns `none` for an
action that is not enabled.  This file collects what is needed to carry a
property from one step to whole runs: guards that every step of a run meets,
properties of every state a run visits, and the rules that derive the latter
from the former.
-/

namespace PartialRuns

variable {State Action : Type*} (step : State → Action → Option State)

def run (start : State) : List Action → Option State
  | [] => some start
  | action :: rest => (step start action).bind fun next => run next rest

/-- The run takes this action in this state. -/
def Performed (start : State) (actions : List Action) (state : State) (action : Action) :
    Prop :=
  ∃ earlier later, actions = earlier ++ action :: later ∧ run step start earlier = some state

/-- Every step of the run is taken in a state that meets the guard. -/
def Along (guard : State → Action → Prop) : State → List Action → Prop
  | _, [] => True
  | state, action :: rest =>
      ∀ next, step state action = some next → guard state action ∧ Along guard next rest

/-- Every state the run visits, the first one included, has the property. -/
def Throughout (property : State → Prop) : State → List Action → Prop
  | state, [] => property state
  | state, action :: rest =>
      property state ∧ ∀ next, step state action = some next → Throughout property next rest

variable {step} {start finish : State} {action : Action} {actions : List Action}

@[simp]
theorem run_nil : run step start [] = some start :=
  rfl

theorem run_cons :
    run step start (action :: actions) = some finish ↔
      ∃ next, step start action = some next ∧ run step next actions = some finish := by
  simp [run, Option.bind_eq_some_iff]

theorem run_singleton :
    run step start [action] = step start action := by
  simp [run]

theorem run_append {earlier later : List Action} :
    run step start (earlier ++ later) = some finish ↔
      ∃ middle, run step start earlier = some middle ∧ run step middle later = some finish := by
  induction earlier generalizing start with
  | nil => simp
  | cons action rest ih =>
      simp only [List.cons_append, run_cons, ih]
      constructor
      · rintro ⟨next, enabled, middle, reached, reaches⟩
        exact ⟨middle, ⟨next, enabled, reached⟩, reaches⟩
      · rintro ⟨middle, ⟨next, enabled, reached⟩, reaches⟩
        exact ⟨next, enabled, middle, reached, reaches⟩

section Performed

variable {state : State} {earlier later : List Action}

theorem performed_concat (reached : run step start earlier = some state) (action : Action) :
    Performed step start (earlier ++ [action]) state action :=
  ⟨earlier, [], rfl, reached⟩

/-- What a run has performed, every longer run has. -/
theorem Performed.append (performed : Performed step start earlier state action)
    (later : List Action) : Performed step start (earlier ++ later) state action := by
  obtain ⟨before, after, rfl, reached⟩ := performed
  exact ⟨before, after ++ later, by simp, reached⟩

theorem Performed.mem (performed : Performed step start actions state action) :
    action ∈ actions := by
  obtain ⟨before, after, rfl, -⟩ := performed
  simp

/-- The action was enabled where it was taken, and the run went on from there. -/
theorem Performed.enabled (performed : Performed step start actions state action)
    (reaches : run step start actions = some finish) :
    ∃ next rest, step state action = some next ∧ run step next rest = some finish := by
  obtain ⟨before, after, rfl, reached⟩ := performed
  obtain ⟨middle, reachedMiddle, onward⟩ := run_append.mp reaches
  obtain rfl := Option.some.inj (reached.symm.trans reachedMiddle)
  obtain ⟨next, enabled, onward⟩ := run_cons.mp onward
  exact ⟨next, after, enabled, onward⟩

/-- What only the first part of a run contains was performed there. -/
theorem Performed.of_append (performed : Performed step start (earlier ++ later) state action)
    (absent : action ∉ later) : Performed step start earlier state action := by
  obtain ⟨before, after, split, reached⟩ := performed
  rcases List.append_eq_append_iff.mp split with ⟨gap, rfl, tail⟩ | ⟨gap, rfl, tail⟩
  · exact absurd (by simp [tail]) absent
  · cases gap with
    | nil =>
        rw [List.nil_append] at tail
        exact absurd (tail ▸ List.mem_cons_self) absent
    | cons head gap =>
        obtain ⟨rfl, -⟩ := List.cons.inj tail
        exact ⟨before, gap, rfl, reached⟩

end Performed

theorem Throughout.head {property : State → Prop}
    (holds : Throughout step property start actions) : property start := by
  cases actions with
  | nil => exact holds
  | cons action rest => exact holds.1

theorem throughout_singleton {property : State → Prop}
    (enabled : step start action = some finish) (before : property start)
    (after : property finish) : Throughout step property start [action] := by
  refine ⟨before, fun next again => ?_⟩
  obtain rfl := Option.some.inj (enabled.symm.trans again)
  exact after

theorem along_cons_iff {guard : State → Action → Prop} {next : State}
    (enabled : step start action = some next) :
    Along step guard start (action :: actions) ↔
      guard start action ∧ Along step guard next actions := by
  constructor
  · intro guarded
    exact guarded next enabled
  · intro guarded other again
    obtain rfl := Option.some.inj (enabled.symm.trans again)
    exact guarded

theorem along_cons_of_none {guard : State → Action → Prop} (refused : step start action = none) :
    Along step guard start (action :: actions) := by
  intro next enabled
  cases refused.symm.trans enabled

theorem Along.append {guard : State → Action → Prop} {middle : State}
    {earlier later : List Action} (before : Along step guard start earlier)
    (reached : run step start earlier = some middle) (after : Along step guard middle later) :
    Along step guard start (earlier ++ later) := by
  induction earlier generalizing start with
  | nil =>
      obtain rfl := Option.some.inj reached
      exact after
  | cons action rest ih =>
      obtain ⟨next, enabled, onward⟩ := run_cons.mp reached
      obtain ⟨guarded, before⟩ := (along_cons_iff enabled).mp before
      exact (along_cons_iff enabled).mpr ⟨guarded, ih before onward⟩

/-- The first steps of a guarded run are guarded. -/
theorem Along.of_append {guard : State → Action → Prop} {earlier later : List Action}
    (along : Along step guard start (earlier ++ later)) : Along step guard start earlier := by
  induction earlier generalizing start with
  | nil => trivial
  | cons action rest ih =>
      intro next enabled
      obtain ⟨guarded, onward⟩ := along next enabled
      exact ⟨guarded, ih onward⟩

instance decidableAlong (step : State → Action → Option State) (guard : State → Action → Prop)
    [∀ state action, Decidable (guard state action)] :
    ∀ start actions, Decidable (Along step guard start actions)
  | _, [] => isTrue trivial
  | start, action :: rest =>
      match enabled : step start action with
      | none => isTrue (along_cons_of_none enabled)
      | some next =>
          have := decidableAlong step guard next rest
          decidable_of_iff _ (along_cons_iff enabled).symm

/-- **Invariant rule.**  A property that every step preserves holds at the end
of every run that starts with it. -/
theorem invariant_of_step (invariant : State → Prop)
    (kept : ∀ state action next, invariant state → step state action = some next →
      invariant next)
    (initially : invariant start) (reaches : run step start actions = some finish) :
    invariant finish := by
  induction actions generalizing start with
  | nil =>
      obtain rfl := Option.some.inj reaches
      exact initially
  | cons action rest ih =>
      obtain ⟨next, enabled, reaches⟩ := run_cons.mp reaches
      exact ih (kept start action next initially enabled) reaches

/-- The same where only some actions preserve the property. -/
theorem invariant_of_actions (invariant : State → Prop) (allowed : Action → Prop)
    (kept : ∀ state action next, invariant state → step state action = some next →
      allowed action → invariant next)
    (initially : invariant start) (actionsAllowed : ∀ action ∈ actions, allowed action)
    (reaches : run step start actions = some finish) : invariant finish := by
  induction actions generalizing start with
  | nil =>
      obtain rfl := Option.some.inj reaches
      exact initially
  | cons action rest ih =>
      obtain ⟨next, enabled, reaches⟩ := run_cons.mp reaches
      obtain ⟨allowedHere, allowedLater⟩ := List.forall_mem_cons.mp actionsAllowed
      exact ih (kept start action next initially enabled allowedHere) allowedLater reaches

/-- **Guarded runs.**  A property that every guarded step preserves holds at the
end of every run along which all steps are guarded. -/
theorem invariant_of_along (invariant : State → Prop) {guard : State → Action → Prop}
    (kept : ∀ state action next, invariant state → step state action = some next →
      guard state action → invariant next)
    (initially : invariant start) (guarded : Along step guard start actions)
    (reaches : run step start actions = some finish) : invariant finish := by
  induction actions generalizing start with
  | nil =>
      obtain rfl := Option.some.inj reaches
      exact initially
  | cons action rest ih =>
      obtain ⟨next, enabled, reaches⟩ := run_cons.mp reaches
      obtain ⟨guardedHere, guardedLater⟩ := guarded next enabled
      exact ih (kept start action next initially enabled guardedHere) guardedLater reaches

/-- **History rule.**  A relation between the actions performed so far and the
state reached, which every further step extends, holds of every run. -/
theorem history_of_step (relation : List Action → State → Prop)
    (extended : ∀ earlier state action next, run step start earlier = some state →
      relation earlier state → step state action = some next →
      relation (earlier ++ [action]) next)
    (initially : relation [] start) (reaches : run step start actions = some finish) :
    relation actions finish := by
  induction actions using List.reverseRecOn generalizing finish with
  | nil =>
      obtain rfl := Option.some.inj reaches
      exact initially
  | append_singleton earlier action ih =>
      obtain ⟨state, reached, last⟩ := run_append.mp reaches
      rw [run_singleton] at last
      exact extended earlier state action finish reached (ih reached) last

/-- **Exact guards.**  When an invariant gives the property, a guarded step
preserves the invariant, and an unguarded step loses the property, a run has
the property throughout exactly when all its steps are guarded. -/
theorem throughout_iff_along (invariant : State → Prop) {property : State → Prop}
    {guard : State → Action → Prop}
    (gives : ∀ state, invariant state → property state)
    (kept : ∀ state action next, invariant state → step state action = some next →
      guard state action → invariant next)
    (needed : ∀ state action next, invariant state → step state action = some next →
      property next → guard state action)
    (initially : invariant start) :
    Throughout step property start actions ↔ Along step guard start actions := by
  induction actions generalizing start with
  | nil => exact ⟨fun _ => trivial, fun _ => gives start initially⟩
  | cons action rest ih =>
      constructor
      · rintro ⟨-, holds⟩ next enabled
        have holdsNext := holds next enabled
        have guarded := needed start action next initially enabled holdsNext.head
        exact ⟨guarded, (ih (kept start action next initially enabled guarded)).mp holdsNext⟩
      · intro guarded
        refine ⟨gives start initially, fun next enabled => ?_⟩
        obtain ⟨guardedHere, guardedLater⟩ := guarded next enabled
        exact (ih (kept start action next initially enabled guardedHere)).mpr guardedLater

section Simulation

variable {AbstractState AbstractAction : Type*}
  {abstractStep : AbstractState → AbstractAction → Option AbstractState}

/-- The abstract actions that the steps of a run stand for. -/
def committed (step : State → Action → Option State)
    (commits : State → Action → List AbstractAction) : State → List Action → List AbstractAction
  | _, [] => []
  | state, action :: rest =>
      commits state action ++
        (step state action).elim [] fun next => committed step commits next rest

/-- **Simulation rule.**  When every guarded step stands for abstract actions
that lead from what its state stands for to what the next one does, a guarded
run stands for an abstract run. -/
theorem simulation_of_step (abstraction : State → AbstractState)
    (commits : State → Action → List AbstractAction) (invariant : State → Prop)
    {guard : State → Action → Prop}
    (kept : ∀ state action next, invariant state → step state action = some next →
      invariant next)
    (simulates : ∀ state action next, invariant state → step state action = some next →
      guard state action →
        run abstractStep (abstraction state) (commits state action) = some (abstraction next))
    (guarded : Along step guard start actions) (initially : invariant start)
    (reaches : run step start actions = some finish) :
    run abstractStep (abstraction start) (committed step commits start actions) =
      some (abstraction finish) := by
  induction actions generalizing start with
  | nil =>
      obtain rfl := Option.some.inj reaches
      rfl
  | cons action rest ih =>
      obtain ⟨next, enabled, reaches⟩ := run_cons.mp reaches
      obtain ⟨guardedHere, guardedLater⟩ := guarded next enabled
      rw [committed, enabled]
      refine run_append.mpr ⟨abstraction next,
        simulates start action next initially enabled guardedHere, ?_⟩
      exact ih guardedLater (kept start action next initially enabled) reaches

end Simulation

end PartialRuns
