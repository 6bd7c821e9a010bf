import Mathlib.Logic.Function.Basic

/-!
# A shared cell with load-then-store writers

One value is shared by several tasks.  A task may replace it by an atomic
read-modify-write, or by a load and a later store, between which other tasks
run.  The cell remembers what every task that is between the two has loaded,
and the rules below say when a property of the shared value survives each kind
of access.
-/

/-- The shared value, and the value loaded by each task that has not stored
yet. -/
structure LoadStoreCell (Value Task : Type*) where
  current : Value
  loaded : Task → Option Value

namespace LoadStoreCell

variable {Value Task : Type*}

def new (value : Value) : LoadStoreCell Value Task where
  current := value
  loaded := fun _ => none

/-- A task loads the shared value and keeps it. -/
def load [DecidableEq Task] (cell : LoadStoreCell Value Task) (task : Task) :
    LoadStoreCell Value Task where
  current := cell.current
  loaded := Function.update cell.loaded task (some cell.current)

/-- A task stores what it computed from the value it had loaded. -/
def store [DecidableEq Task] (cell : LoadStoreCell Value Task) (task : Task)
    (compute : Value → Value) : Option (LoadStoreCell Value Task) :=
  (cell.loaded task).map fun base =>
    { current := compute base
      loaded := Function.update cell.loaded task none }

def modify (cell : LoadStoreCell Value Task) (compute : Value → Value) :
    LoadStoreCell Value Task where
  current := compute cell.current
  loaded := cell.loaded

/-- The shared value has a property, and so has, task by task, every value that
is still to be stored from. -/
structure Settled (cell : LoadStoreCell Value Task) (property : Value → Prop)
    (storable : Task → Value → Prop) : Prop where
  current : property cell.current
  loaded : ∀ task base, cell.loaded task = some base → storable task base

section Modify

variable {cell : LoadStoreCell Value Task} {compute : Value → Value}
  {property : Value → Prop} {storable : Task → Value → Prop}

@[simp]
theorem modify_current : (cell.modify compute).current = compute cell.current :=
  rfl

@[simp]
theorem modify_loaded : (cell.modify compute).loaded = cell.loaded :=
  rfl

theorem Settled.modify (settled : cell.Settled property storable)
    (keeps : property cell.current → property (compute cell.current)) :
    (cell.modify compute).Settled property storable where
  current := keeps settled.current
  loaded := settled.loaded

end Modify

section LoadStore

variable [DecidableEq Task] {cell next : LoadStoreCell Value Task} {task other : Task}
  {compute : Value → Value} {property : Value → Prop} {storable : Task → Value → Prop}

@[simp]
theorem load_current : (cell.load task).current = cell.current :=
  rfl

theorem load_loaded_self : (cell.load task).loaded task = some cell.current := by
  simp [load]

theorem load_loaded_of_ne (ne : other ≠ task) :
    (cell.load task).loaded other = cell.loaded other := by
  simp [load, ne]

/-- What a store does, in terms of the value the task had loaded. -/
theorem store_eq_some_iff :
    cell.store task compute = some next ↔
      ∃ base, cell.loaded task = some base ∧ next.current = compute base ∧
        next.loaded = Function.update cell.loaded task none := by
  simp only [store, Option.map_eq_some_iff]
  constructor
  · rintro ⟨base, loaded, rfl⟩
    exact ⟨base, loaded, rfl, rfl⟩
  · rintro ⟨base, loaded, current, rest⟩
    refine ⟨base, loaded, ?_⟩
    cases next
    simp only at current rest
    rw [current, rest]

theorem exists_store_of_loaded {base : Value} (loaded : cell.loaded task = some base) :
    ∃ stored, cell.store task compute = some stored ∧ stored.current = compute base := by
  rw [store, loaded]
  exact ⟨_, rfl, rfl⟩

theorem Settled.load (settled : cell.Settled property storable)
    (fresh : property cell.current → storable task cell.current) :
    (cell.load task).Settled property storable where
  current := settled.current
  loaded := by
    intro other base loaded
    by_cases same : other = task
    · subst other
      rw [load_loaded_self] at loaded
      obtain rfl := Option.some.inj loaded
      exact fresh settled.current
    · rw [load_loaded_of_ne same] at loaded
      exact settled.loaded other base loaded

theorem Settled.store (settled : cell.Settled property storable)
    (stores : cell.store task compute = some next)
    (keeps : ∀ base, cell.loaded task = some base → storable task base →
      property (compute base)) :
    next.Settled property storable := by
  obtain ⟨base, loaded, current, rest⟩ := store_eq_some_iff.mp stores
  constructor
  · rw [current]
    exact keeps base loaded (settled.loaded task base loaded)
  · intro other otherBase otherLoaded
    rw [rest] at otherLoaded
    by_cases same : other = task
    · subst other
      simp at otherLoaded
    · rw [Function.update_of_ne same] at otherLoaded
      exact settled.loaded other otherBase otherLoaded

end LoadStore

end LoadStoreCell
