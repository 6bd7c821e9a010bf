import Mathlib.Data.List.Sort

/-!
# Timed courses of asynchronous computations

An asynchronous computation is described by the course it takes when it is
started at some instant and polled whenever it can make progress: the effects
it has, in the order of time, and the instant and the value it finishes with,
unless it waits forever.  A caller that drops the computation keeps the effects
it had until then.  Courses carry the facts about time that every proof about
them needs.
-/

/-- The order of what happened by its instant. -/
def NotLater {Effect : Type*} (first second : Nat × Effect) : Prop :=
  first.1 ≤ second.1

instance {Effect : Type*} : DecidableRel (@NotLater Effect) :=
  fun first second => inferInstanceAs (Decidable (first.1 ≤ second.1))

instance {Effect : Type*} : Std.Total (@NotLater Effect) :=
  ⟨fun first second => Nat.le_total first.1 second.1⟩

instance {Effect : Type*} : IsTrans (Nat × Effect) NotLater :=
  ⟨fun _ _ _ firstOrder secondOrder => Nat.le_trans firstOrder secondOrder⟩

/-- What a computation started at `start` does. -/
structure Course (Effect Value : Type*) (start : Nat) where
  effects : List (Nat × Effect)
  finish : Option (Nat × Value)
  started : ∀ effect ∈ effects, start ≤ effect.1
  ordered : effects.Pairwise NotLater
  ended : ∀ time value, finish = some (time, value) →
    start ≤ time ∧ ∀ effect ∈ effects, effect.1 ≤ time

/-- An asynchronous computation, ready to be started at any instant. -/
def Timed (Effect Value : Type*) := (start : Nat) → Course Effect Value start

namespace Course

variable {Effect Value Result : Type*} {start time : Nat} {value : Value}

/-- Finish at once. -/
def instantly (value : Value) : Course Effect Value start where
  effects := []
  finish := some (start, value)
  started := by simp
  ordered := List.Pairwise.nil
  ended := by
    rintro time _ finished
    obtain ⟨rfl, -⟩ := Prod.mk.inj (Option.some.inj finished)
    simp

/-- A computation that waits forever never gets to its continuation. -/
def unending (course : Course Effect Value start) : Course Effect Result start where
  effects := course.effects
  finish := none
  started := course.started
  ordered := course.ordered
  ended := by
    intro _ _ finished
    cases finished

/-- Continue where a finished computation ended. -/
def andThen (course : Course Effect Value start)
    (finished : course.finish = some (time, value)) (rest : Course Effect Result time) :
    Course Effect Result start where
  effects := course.effects ++ rest.effects
  finish := rest.finish
  started := by
    intro effect member
    rcases List.mem_append.mp member with early | late
    · exact course.started effect early
    · exact Nat.le_trans (course.ended time value finished).1 (rest.started effect late)
  ordered := by
    refine List.pairwise_append.mpr ⟨course.ordered, rest.ordered, ?_⟩
    intro early earlyMember late lateMember
    exact Nat.le_trans ((course.ended time value finished).2 early earlyMember)
      (rest.started late lateMember)
  ended := by
    intro finishTime result restFinished
    have order := (course.ended time value finished).1
    have restEnded := rest.ended finishTime result restFinished
    refine ⟨Nat.le_trans order restEnded.1, ?_⟩
    intro effect member
    rcases List.mem_append.mp member with early | late
    · exact Nat.le_trans ((course.ended time value finished).2 effect early) restEnded.1
    · exact restEnded.2 effect late

/-- The effects up to an instant, that instant included. -/
def upTo (course : Course Effect Value start) (deadline : Nat) : List (Nat × Effect) :=
  course.effects.filter fun effect => decide (effect.1 ≤ deadline)

/-- The effects strictly before an instant. -/
def before (course : Course Effect Value start) (deadline : Nat) : List (Nat × Effect) :=
  course.effects.filter fun effect => decide (effect.1 < deadline)

/-- The value of a computation that has finished at an instant. -/
def finishedBy (course : Course Effect Value start) (deadline : Nat) :
    Option (Nat × Value) :=
  course.finish.filter fun finished => decide (finished.1 ≤ deadline)

@[simp]
theorem effects_instantly :
    (instantly value : Course Effect Value start).effects = [] :=
  rfl

@[simp]
theorem finish_instantly :
    (instantly value : Course Effect Value start).finish = some (start, value) :=
  rfl

theorem finishedBy_eq_some_iff {course : Course Effect Value start} {deadline : Nat} :
    course.finishedBy deadline = some (time, value) ↔
      course.finish = some (time, value) ∧ time ≤ deadline := by
  simp [finishedBy, Option.filter_eq_some_iff]

theorem finishedBy_eq_none_iff {course : Course Effect Value start} {deadline : Nat} :
    course.finishedBy deadline = none ↔
      ∀ time value, course.finish = some (time, value) → deadline < time := by
  simp [finishedBy, Option.filter_eq_none_iff]

end Course

namespace Timed

variable {Effect Value Result : Type}

def pure (value : Value) : Timed Effect Value :=
  fun _ => .instantly value

def bind (first : Timed Effect Value) (next : Value → Timed Effect Result) :
    Timed Effect Result := fun start =>
  match finished : (first start).finish with
  | none => (first start).unending
  | some (time, value) => (first start).andThen finished (next value time)

instance : Monad (Timed Effect) where
  pure := pure
  bind := bind

def emit (effect : Effect) : Timed Effect Unit := fun start =>
  { effects := [(start, effect)]
    finish := some (start, ())
    started := by simp
    ordered := List.pairwise_singleton _ _
    ended := by
      rintro time _ finished
      obtain ⟨rfl, -⟩ := Prod.mk.inj (Option.some.inj finished)
      simp }

/-- Wait for an answer that comes after some time, or never. -/
def respond (answer : Option (Nat × Value)) : Timed Effect Value := fun start =>
  { effects := []
    finish := answer.map fun completion => (start + completion.1, completion.2)
    started := by simp
    ordered := List.Pairwise.nil
    ended := by
      intro time _ finished
      obtain ⟨completion, -, same⟩ := Option.map_eq_some_iff.mp finished
      obtain ⟨rfl, -⟩ := Prod.mk.inj same
      simp }

def sleep (duration : Nat) : Timed Effect Unit :=
  respond (some (duration, ()))

def clock : Timed Effect Nat :=
  fun start => .instantly start

/-- Also return the effects the computation had. -/
def logged (body : Timed Effect Value) :
    Timed Effect (Value × List (Nat × Effect)) := fun start =>
  { effects := (body start).effects
    finish := (body start).finish.map fun finished =>
      (finished.1, finished.2, (body start).effects)
    started := (body start).started
    ordered := (body start).ordered
    ended := by
      intro time _ finished
      obtain ⟨⟨_, value⟩, bodyFinished, same⟩ := Option.map_eq_some_iff.mp finished
      obtain ⟨rfl, -⟩ := Prod.mk.inj same
      exact (body start).ended _ value bodyFinished }

/-- Drop the computation when it has not finished within the limit.  At the
limit itself the computation is polled before the timer. -/
def timeout (limit : Nat) (body : Timed Effect Value) : Timed Effect (Option Value) :=
  fun start =>
    match finished : (body start).finishedBy (start + limit) with
    | some (time, value) =>
        { effects := (body start).effects
          finish := some (time, some value)
          started := (body start).started
          ordered := (body start).ordered
          ended := by
            rintro _ _ same
            obtain ⟨rfl, -⟩ := Prod.mk.inj (Option.some.inj same)
            exact (body start).ended _ value (Course.finishedBy_eq_some_iff.mp finished).1 }
    | none =>
        { effects := (body start).upTo (start + limit)
          finish := some (start + limit, none)
          started := fun effect member =>
            (body start).started effect (List.mem_of_mem_filter member)
          ordered := (body start).ordered.filter _
          ended := by
            rintro _ _ same
            obtain ⟨rfl, -⟩ := Prod.mk.inj (Option.some.inj same)
            refine ⟨Nat.le_add_right _ _, fun effect member => ?_⟩
            simpa using (List.mem_filter.mp member).2 }

section Rules

variable {first body : Timed Effect Value} {next : Value → Timed Effect Result}
  {start time limit : Nat} {value : Value}

theorem bind_of_finish (finished : (first start).finish = some (time, value)) :
    (first >>= next) start = (first start).andThen finished (next value time) := by
  change bind first next start = _
  unfold bind
  split
  · rename_i never
    rw [never] at finished
    cases finished
  · rename_i otherTime otherValue otherFinished
    obtain ⟨rfl, rfl⟩ := Prod.mk.inj (Option.some.inj (otherFinished.symm.trans finished))
    rfl

theorem bind_of_never (never : (first start).finish = none) :
    (first >>= next) start = (first start).unending := by
  change bind first next start = _
  unfold bind
  split
  · rfl
  · rename_i finished
    rw [never] at finished
    cases finished

theorem effects_bind (finished : (first start).finish = some (time, value)) :
    ((first >>= next) start).effects =
      (first start).effects ++ (next value time).effects := by
  rw [bind_of_finish finished]
  rfl

theorem finish_bind (finished : (first start).finish = some (time, value)) :
    ((first >>= next) start).finish = (next value time).finish := by
  rw [bind_of_finish finished]
  rfl

theorem effects_bind_of_never (never : (first start).finish = none) :
    ((first >>= next) start).effects = (first start).effects := by
  rw [bind_of_never never]
  rfl

theorem finish_bind_of_never (never : (first start).finish = none) :
    ((first >>= next) start).finish = none := by
  rw [bind_of_never never]
  rfl

@[simp]
theorem effects_bind_pure (compute : Value → Result) :
    ((first >>= fun value => Pure.pure (compute value)) start).effects =
      (first start).effects := by
  cases finished : (first start).finish with
  | none => rw [effects_bind_of_never finished]
  | some result =>
      rw [effects_bind finished]
      exact List.append_nil _

@[simp]
theorem finish_bind_pure (compute : Value → Result) :
    ((first >>= fun value => Pure.pure (compute value)) start).finish =
      (first start).finish.map fun finished => (finished.1, compute finished.2) := by
  cases finished : (first start).finish with
  | none => rw [finish_bind_of_never finished, Option.map_none]
  | some result =>
      rw [finish_bind finished]
      rfl

@[simp]
theorem pure_apply : (Pure.pure value : Timed Effect Value) start = .instantly value :=
  rfl

@[simp]
theorem pure_bind_apply {next : Value → Timed Effect Result} :
    ((Pure.pure value : Timed Effect Value) >>= next) start = next value start :=
  rfl

@[simp]
theorem clock_bind {next : Nat → Timed Effect Result} :
    ((clock : Timed Effect Nat) >>= next) start = next start start :=
  rfl

@[simp]
theorem effects_emit_bind (effect : Effect) (next : Unit → Timed Effect Result) :
    ((emit effect >>= next) start).effects =
      (start, effect) :: (next () start).effects :=
  rfl

@[simp]
theorem finish_emit_bind (effect : Effect) (next : Unit → Timed Effect Result) :
    ((emit effect >>= next) start).finish = (next () start).finish :=
  rfl

@[simp]
theorem effects_sleep_bind (duration : Nat) (next : Unit → Timed Effect Result) :
    ((sleep duration >>= next) start).effects = (next () (start + duration)).effects :=
  rfl

@[simp]
theorem finish_sleep_bind (duration : Nat) (next : Unit → Timed Effect Result) :
    ((sleep duration >>= next) start).finish = (next () (start + duration)).finish :=
  rfl

@[simp]
theorem effects_respond (answer : Option (Nat × Value)) :
    ((respond answer : Timed Effect Value) start).effects = [] :=
  rfl

@[simp]
theorem finish_respond (answer : Option (Nat × Value)) :
    ((respond answer : Timed Effect Value) start).finish =
      answer.map fun completion => (start + completion.1, completion.2) :=
  rfl

theorem effects_timeout (finished : (body start).finish = some (time, value))
    (inTime : time ≤ start + limit) :
    (timeout limit body start).effects = (body start).effects := by
  unfold timeout
  split
  · rfl
  · rename_i late
    have := Course.finishedBy_eq_none_iff.mp late time value finished
    omega

theorem finish_timeout (finished : (body start).finish = some (time, value))
    (inTime : time ≤ start + limit) :
    (timeout limit body start).finish = some (time, some value) := by
  have inTimeEq := Course.finishedBy_eq_some_iff.mpr ⟨finished, inTime⟩
  unfold timeout
  split
  · rename_i otherTime otherValue otherFinished
    obtain ⟨rfl, rfl⟩ := Prod.mk.inj (Option.some.inj (otherFinished.symm.trans inTimeEq))
    rfl
  · rename_i late
    rw [late] at inTimeEq
    cases inTimeEq

theorem effects_timeout_of_late (late : (body start).finishedBy (start + limit) = none) :
    (timeout limit body start).effects = (body start).upTo (start + limit) := by
  unfold timeout
  split
  · rename_i finished
    rw [late] at finished
    cases finished
  · rfl

theorem finish_timeout_of_late (late : (body start).finishedBy (start + limit) = none) :
    (timeout limit body start).finish = some (start + limit, none) := by
  unfold timeout
  split
  · rename_i finished
    rw [late] at finished
    cases finished
  · rfl

/-- A computation that finishes is in time or cut off at the limit. -/
theorem finish_timeout_of_finish (finished : (body start).finish = some (time, value)) :
    (timeout limit body start).finish =
      if time ≤ start + limit then some (time, some value) else some (start + limit, none) := by
  by_cases inTime : time ≤ start + limit
  · rw [if_pos inTime, finish_timeout finished inTime]
  · have late : (body start).finishedBy (start + limit) = none := by
      apply Course.finishedBy_eq_none_iff.mpr
      intro otherTime other again
      cases finished.symm.trans again
      exact Nat.not_le.mp inTime
    rw [if_neg inTime, finish_timeout_of_late late]

/-- What a sequence does is done by its first part or by what follows it. -/
theorem mem_effects_bind {effect : Nat × Effect}
    (member : effect ∈ ((first >>= next) start).effects) :
    effect ∈ (first start).effects ∨
      ∃ time value, (first start).finish = some (time, value) ∧
        effect ∈ (next value time).effects := by
  cases finished : (first start).finish with
  | none =>
      rw [effects_bind_of_never finished] at member
      exact Or.inl member
  | some result =>
      rw [effects_bind finished] at member
      exact (List.mem_append.mp member).imp id fun later => ⟨_, _, rfl, later⟩

theorem effects_timeout_sublist :
    (timeout limit body start).effects.Sublist (body start).effects := by
  cases ended : (body start).finishedBy (start + limit) with
  | none =>
      rw [effects_timeout_of_late ended]
      exact List.filter_sublist
  | some finished =>
      obtain ⟨finished, inTime⟩ := Course.finishedBy_eq_some_iff.mp ended
      rw [effects_timeout finished inTime]

/-- Under a timeout nothing new is done, and nothing after the limit. -/
theorem mem_effects_timeout {effect : Nat × Effect}
    (member : effect ∈ (timeout limit body start).effects) :
    effect ∈ (body start).effects ∧ effect.1 ≤ start + limit := by
  cases ended : (body start).finishedBy (start + limit) with
  | none =>
      rw [effects_timeout_of_late ended, Course.upTo, List.mem_filter] at member
      exact ⟨member.1, of_decide_eq_true member.2⟩
  | some finished =>
      obtain ⟨finished, inTime⟩ := Course.finishedBy_eq_some_iff.mp ended
      rw [effects_timeout finished inTime] at member
      exact ⟨member, Nat.le_trans (((body start).ended _ _ finished).2 effect member) inTime⟩

end Rules

end Timed

section Interleaving

variable {Effect Kind : Type*}

/-- The effects of two computations that run side by side.  At equal instants
the first one goes first. -/
def interleave (first second : List (Nat × Effect)) : List (Nat × Effect) :=
  first.foldr (List.orderedInsert NotLater) second

/-- The effects of one kind, with their instants. -/
def selected (select : Effect → Option Kind) (effects : List (Nat × Effect)) :
    List (Nat × Kind) :=
  effects.filterMap fun effect => (select effect.2).map fun kind => (effect.1, kind)

@[simp]
theorem interleave_nil (second : List (Nat × Effect)) : interleave [] second = second :=
  rfl

@[simp]
theorem interleave_cons (effect : Nat × Effect) (first second : List (Nat × Effect)) :
    interleave (effect :: first) second =
      (interleave first second).orderedInsert NotLater effect :=
  rfl

@[simp]
theorem mem_interleave {effect : Nat × Effect} {first second : List (Nat × Effect)} :
    effect ∈ interleave first second ↔ effect ∈ first ∨ effect ∈ second := by
  induction first with
  | nil => simp
  | cons head rest ih =>
      rw [interleave_cons, List.mem_orderedInsert, ih, List.mem_cons, or_assoc]

theorem interleave_perm (first second : List (Nat × Effect)) :
    (interleave first second).Perm (first ++ second) := by
  induction first with
  | nil => exact List.Perm.refl _
  | cons head rest ih => exact (List.perm_orderedInsert _ head _).trans (ih.cons head)

theorem interleave_ordered {first second : List (Nat × Effect)}
    (ordered : second.Pairwise NotLater) :
    (interleave first second).Pairwise NotLater := by
  induction first with
  | nil => exact ordered
  | cons head rest ih => exact List.Pairwise.orderedInsert head _ ih

theorem orderedInsert_between {effect : Nat × Effect} {before after : List (Nat × Effect)}
    (earlier : ∀ other ∈ before, other.1 < effect.1)
    (later : ∀ other ∈ after, effect.1 ≤ other.1) :
    (before ++ after).orderedInsert NotLater effect = before ++ effect :: after := by
  induction before with
  | nil =>
      cases after with
      | nil => rfl
      | cons head rest =>
          exact List.orderedInsert_cons_of_le _ _ (later head List.mem_cons_self)
  | cons head rest ih =>
      have notYet : ¬ NotLater effect head :=
        Nat.not_le.mpr (earlier head List.mem_cons_self)
      have inRest := ih fun other member => earlier other (List.mem_cons_of_mem _ member)
      rw [List.cons_append, List.orderedInsert_of_not_le _ _ notYet, inRest, List.cons_append]

/-- The first computation's first effect stays the first one if nothing comes
earlier. -/
theorem interleave_cons_of_first {effect : Nat × Effect} {first second : List (Nat × Effect)}
    (order : ∀ other ∈ interleave first second, effect.1 ≤ other.1) :
    interleave (effect :: first) second = effect :: interleave first second := by
  rw [interleave_cons]
  cases merged : interleave first second with
  | nil => rfl
  | cons other others =>
      rw [merged] at order
      exact List.orderedInsert_cons_of_le _ _ (order other List.mem_cons_self)

@[simp]
theorem selected_nil (select : Effect → Option Kind) : selected select [] = [] :=
  rfl

@[simp]
theorem selected_append (select : Effect → Option Kind)
    (first second : List (Nat × Effect)) :
    selected select (first ++ second) = selected select first ++ selected select second :=
  List.filterMap_append

theorem selected_cons (select : Effect → Option Kind) (effect : Nat × Effect)
    (rest : List (Nat × Effect)) :
    selected select (effect :: rest) =
      ((select effect.2).map fun kind => (effect.1, kind)).toList ++
        selected select rest := by
  cases chosen : select effect.2 <;> simp [selected, chosen]

theorem mem_selected {select : Effect → Option Kind} {effects : List (Nat × Effect)}
    {time : Nat} {kind : Kind} :
    (time, kind) ∈ selected select effects ↔
      ∃ effect, (time, effect) ∈ effects ∧ select effect = some kind := by
  simp only [selected, List.mem_filterMap, Option.map_eq_some_iff, Prod.mk.injEq]
  constructor
  · rintro ⟨⟨_, effect⟩, member, _, chosen, rfl, rfl⟩
    exact ⟨effect, member, chosen⟩
  · rintro ⟨effect, member, chosen⟩
    exact ⟨(time, effect), member, kind, chosen, rfl, rfl⟩

theorem selected_filter (select : Effect → Option Kind) (early : Nat → Bool)
    (effects : List (Nat × Effect)) :
    selected select (effects.filter fun effect => early effect.1) =
      (selected select effects).filter fun effect => early effect.1 := by
  induction effects with
  | nil => rfl
  | cons head rest ih =>
      rw [selected_cons]
      cases kept : early head.1 <;> cases chosen : select head.2 <;>
        simp [kept, chosen, selected_cons, ih]

theorem selected_orderedInsert_of_none {select : Effect → Option Kind} {effect : Nat × Effect}
    (skipped : select effect.2 = none) (effects : List (Nat × Effect)) :
    selected select (effects.orderedInsert NotLater effect) = selected select effects := by
  induction effects with
  | nil => simp [selected, skipped]
  | cons head rest ih =>
      rw [List.orderedInsert_cons]
      split_ifs
      · rw [selected_cons, skipped]
        rfl
      · rw [selected_cons, ih, ← selected_cons]

theorem selected_orderedInsert_of_some {select : Effect → Option Kind} {effect : Nat × Effect}
    {kind : Kind} (chosen : select effect.2 = some kind) {effects : List (Nat × Effect)}
    (ordered : effects.Pairwise NotLater) :
    selected select (effects.orderedInsert NotLater effect) =
      interleave [(effect.1, kind)] (selected select effects) := by
  induction effects with
  | nil => simp [selected, chosen]
  | cons head rest ih =>
      obtain ⟨headFirst, restOrdered⟩ := List.pairwise_cons.mp ordered
      rw [List.orderedInsert_cons]
      split_ifs with order
      · have first : ∀ other ∈ interleave [] (selected select (head :: rest)),
            effect.1 ≤ other.1 := by
          rintro ⟨time, otherKind⟩ member
          obtain ⟨other, otherMember, -⟩ := mem_selected.mp member
          rcases List.mem_cons.mp otherMember with same | inRest
          · rw [← same] at order
            exact order
          · exact Nat.le_trans order (headFirst _ inRest)
        rw [selected_cons, chosen, interleave_cons_of_first first]
        rfl
      · rw [selected_cons, ih restOrdered, selected_cons select head]
        cases headChosen : select head.2 with
        | none => rfl
        | some headKind =>
            have late : ¬ NotLater (effect.1, kind) (head.1, headKind) := order
            simp [late]

theorem selected_interleave (select : Effect → Option Kind)
    {first second : List (Nat × Effect)} (ordered : second.Pairwise NotLater) :
    selected select (interleave first second) =
      interleave (selected select first) (selected select second) := by
  induction first with
  | nil => rfl
  | cons head rest ih =>
      rw [interleave_cons, selected_cons select head rest]
      cases chosen : select head.2 with
      | none =>
          rw [selected_orderedInsert_of_none chosen, ih]
          rfl
      | some kind =>
          rw [selected_orderedInsert_of_some chosen (interleave_ordered ordered), ih]
          rfl

end Interleaving

section Windows

variable {Effect : Type*} {chosen : Effect → Bool} {width bound : Nat}

/-- How many of the chosen effects fall into a window that begins at `start`. -/
def countInWindow (chosen : Effect → Bool) (width start : Nat)
    (effects : List (Nat × Effect)) : Nat :=
  effects.countP fun effect =>
    chosen effect.2 && decide (start ≤ effect.1 ∧ effect.1 < start + width)

theorem countInWindow_le (start : Nat) (effects : List (Nat × Effect)) :
    countInWindow chosen width start effects ≤ effects.countP fun effect => chosen effect.2 := by
  apply List.countP_mono_left
  intro effect _ counted
  exact (Bool.and_eq_true_iff.mp counted).1

/-- If the chosen effects of different batches are a window apart, no window
holds those of two batches. -/
theorem countInWindow_flatten_le {batches : List (List (Nat × Effect))}
    (few : ∀ batch ∈ batches, (batch.countP fun effect => chosen effect.2) ≤ bound)
    (apart : batches.Pairwise fun earlier later =>
      ∀ first ∈ earlier, ∀ second ∈ later, chosen first.2 = true → chosen second.2 = true →
        first.1 + width ≤ second.1) (start : Nat) :
    countInWindow chosen width start batches.flatten ≤ bound := by
  induction batches with
  | nil => exact Nat.zero_le bound
  | cons batch later ih =>
      obtain ⟨ofBatch, ofLater⟩ := List.pairwise_cons.mp apart
      have rest := ih (fun other member => few other (List.mem_cons_of_mem _ member)) ofLater
      rw [List.flatten_cons, countInWindow, List.countP_append]
      by_cases counted : countInWindow chosen width start batch = 0
      · have none : countInWindow chosen width start later.flatten ≤ bound := rest
        simp only [countInWindow] at counted none
        omega
      · -- an effect of this batch keeps all later ones out of the window
        obtain ⟨first, member, passes⟩ := List.countP_pos_iff.mp (Nat.pos_of_ne_zero counted)
        simp only [Bool.and_eq_true, decide_eq_true_eq] at passes
        have none : countInWindow chosen width start later.flatten = 0 := by
          apply List.countP_eq_zero.mpr
          intro second secondMember
          obtain ⟨other, ofOther, inOther⟩ := List.mem_flatten.mp secondMember
          have distance := ofBatch other ofOther first member second inOther passes.1
          simp only [Bool.and_eq_true, decide_eq_true_eq, not_and]
          intro isChosen begun
          have late := distance isChosen
          omega
        have own : countInWindow chosen width start batch ≤ bound :=
          Nat.le_trans (countInWindow_le start batch) (few batch List.mem_cons_self)
        simp only [countInWindow] at none own
        omega

end Windows
