import BgeRouter.Library.PartialRuns
import BgeRouter.SerialisedUpdates

/-!
# Concurrent trips

Any number of `trip` calls run at the same time.  A call reads the clock, loads
the snapshot for its fast path, and then performs one atomic `rcu` whose
closure reads the clock again.  Time may pass, and other calls may run, between
any two of these steps.
-/

namespace BgeRouter

open PartialRuns

/-- The arguments of a `trip` call. -/
structure TripRequest where
  addr : SocketAddr
  duration : Duration

/-- How far a call has come; it keeps its reading of the clock. -/
inductive CallProgress where
  | waiting
  | started (now : Instant)
  | passed (now : Instant)
  | returned
deriving DecidableEq

structure TripsState (Call : Type) where
  clock : Instant
  snapshot : PoolSnapshot
  progress : Call → CallProgress

/-- One step of one of the calls, or the passing of time. -/
inductive CallAction (Call : Type) where
  | tick (elapsed : Duration)
  | readClock (call : Call)
  | fastPath (call : Call)
  | rcu (call : Call)

section Calls

variable {Call : Type} [DecidableEq Call] (request : Call → TripRequest)

/-- The call has come to `progress`. -/
def TripsState.advance (state : TripsState Call) (call : Call) (progress : CallProgress) :
    TripsState Call :=
  { state with progress := Function.update state.progress call progress }

def callStep (state : TripsState Call) : CallAction Call → Option (TripsState Call)
  | .tick elapsed => some { state with clock := state.clock + elapsed }
  | .readClock call =>
      match state.progress call with
      | .waiting =>
          if (request call).duration = 0 then some (state.advance call .returned)
          else some (state.advance call (.started state.clock))
      | _ => none
  | .fastPath call =>
      match state.progress call with
      | .started now =>
          if alreadyCooled state.snapshot (request call).addr now then
            some (state.advance call .returned)
          else some (state.advance call (.passed now))
      | _ => none
  | .rcu call =>
      match state.progress call with
      | .passed now =>
          some { state.advance call .returned with
            snapshot := tripRcu state.snapshot (request call).addr
              (now + (request call).duration) state.clock }
      | _ => none

/-- What a step can do to one entry: nothing, or the `rcu` of a call on its
address gives it the window of that call, if it had no open one. -/
inductive EntryStep (state : TripsState Call) :
    CallAction Call → UpstreamInfo → UpstreamInfo → Prop where
  | kept {action upstream} : EntryStep state action upstream upstream
  | tripped {call start upstream} (passed : state.progress call = .passed start)
      (same : upstream.addr = (request call).addr)
      (idle : ∀ deadline, upstream.cooldownUntil = some deadline → deadline ≤ state.clock) :
      EntryStep state (.rcu call) upstream
        { upstream with cooldownUntil := some (start + (request call).duration) }

/-- What a step may do to the pools.  The entries of a pool stay in their places,
and an `rcu` that comes before the end of its window leaves its address in
cooldown. -/
structure LawfulStep (state : TripsState Call) (action : CallAction Call)
    (next : TripsState Call) : Prop where
  entries : ∀ poolType, List.Forall₂ (EntryStep request state action)
    (state.snapshot.pool poolType) (next.snapshot.pool poolType)
  cooled : ∀ call start, action = .rcu call → state.progress call = .passed start →
    0 < (request call).duration → state.clock < start + (request call).duration →
    ∀ poolType, ∀ upstream ∈ next.snapshot.pool poolType,
      upstream.addr = (request call).addr → upstream.isInCooldown next.clock = true

/-- The clock showed `now` when the run came to the start of the call. -/
def StartedAt (start : TripsState Call) (actions : List (CallAction Call)) (call : Call)
    (now : Instant) : Prop :=
  ∃ earlier later state, actions = earlier ++ .readClock call :: later ∧
    run (callStep request) start earlier = some state ∧ state.clock = now

/-- An entry whose window is open at the later state has not changed since. -/
def KeepsOpenWindows (state later : TripsState Call) : Prop :=
  ∀ (poolType : PoolType) (position : ℕ) (upstream : UpstreamInfo) (deadline : Instant),
    (state.snapshot.pool poolType)[position]? = some upstream →
    upstream.cooldownUntil = some deadline → later.clock < deadline →
    (later.snapshot.pool poolType)[position]? = some upstream

end Calls

section Steps

variable {Call : Type} [DecidableEq Call] {request : Call → TripRequest}
  {state next : TripsState Call} {action : CallAction Call}

/-- What a step can do to the clock and the snapshot. -/
inductive CallEffect (request : Call → TripRequest) (state next : TripsState Call) :
    CallAction Call → Prop where
  | quiet {action : CallAction Call} (later : state.clock ≤ next.clock)
      (snapshot : next.snapshot = state.snapshot) (notRcu : ∀ call, action ≠ .rcu call) :
      CallEffect request state next action
  | rcu (call : Call) (start : Instant) (passed : state.progress call = .passed start)
      (clock : next.clock = state.clock)
      (snapshot : next.snapshot = tripRcu state.snapshot (request call).addr
        (start + (request call).duration) state.clock) :
      CallEffect request state next (.rcu call)

theorem callStep_effect (enabled : callStep request state action = some next) :
    CallEffect request state next action := by
  cases action with
  | tick elapsed =>
      obtain rfl := Option.some.inj enabled
      exact .quiet (Nat.le_add_right _ _) rfl nofun
  | readClock call =>
      simp only [callStep] at enabled
      split at enabled
      · split_ifs at enabled
        · obtain rfl := Option.some.inj enabled
          exact .quiet (Nat.le_refl _) rfl nofun
        · obtain rfl := Option.some.inj enabled
          exact .quiet (Nat.le_refl _) rfl nofun
      · cases enabled
  | fastPath call =>
      simp only [callStep] at enabled
      split at enabled
      · split_ifs at enabled
        · obtain rfl := Option.some.inj enabled
          exact .quiet (Nat.le_refl _) rfl nofun
        · obtain rfl := Option.some.inj enabled
          exact .quiet (Nat.le_refl _) rfl nofun
      · cases enabled
  | rcu call =>
      simp only [callStep] at enabled
      split at enabled
      · rename_i start passed
        obtain rfl := Option.some.inj enabled
        exact .rcu call start passed rfl rfl
      · cases enabled

/-- The reading of the clock that a call keeps. -/
def CallProgress.reading : CallProgress → Option Instant
  | .started now => some now
  | .passed now => some now
  | _ => none

/-- Where one call advances, the others keep their readings. -/
theorem reading_advance {actor call : Call} {progress : CallProgress} {now : Instant}
    (reading : ((state.advance actor progress).progress call).reading = some now) :
    (state.progress call).reading = some now ∨
      (call = actor ∧ progress.reading = some now) := by
  by_cases same : call = actor
  · subst same
    simp only [TripsState.advance, Function.update_self] at reading
    exact Or.inr ⟨rfl, reading⟩
  · simp only [TripsState.advance, Function.update_of_ne same] at reading
    exact Or.inl reading

/-- A call that has returned keeps no reading. -/
theorem reading_advance_returned {actor call : Call} {now : Instant}
    (reading : ((state.advance actor .returned).progress call).reading = some now) :
    (state.progress call).reading = some now := by
  rcases reading_advance reading with kept | ⟨-, impossible⟩
  · exact kept
  · cases impossible

/-- A call gets its reading in the step that reads the clock, and keeps it. -/
theorem callStep_reading (enabled : callStep request state action = some next) {call : Call}
    {now : Instant} (reading : (next.progress call).reading = some now) :
    (state.progress call).reading = some now ∨
      (action = .readClock call ∧ state.clock = now) := by
  cases action with
  | tick elapsed =>
      obtain rfl := Option.some.inj enabled
      exact Or.inl reading
  | readClock actor =>
      simp only [callStep] at enabled
      split at enabled
      · split_ifs at enabled
        · obtain rfl := Option.some.inj enabled
          exact Or.inl (reading_advance_returned reading)
        · obtain rfl := Option.some.inj enabled
          rcases reading_advance reading with kept | ⟨rfl, same⟩
          · exact Or.inl kept
          · exact Or.inr ⟨rfl, Option.some.inj same⟩
      · cases enabled
  | fastPath actor =>
      simp only [callStep] at enabled
      split at enabled
      · rename_i start started
        split_ifs at enabled
        · obtain rfl := Option.some.inj enabled
          exact Or.inl (reading_advance_returned reading)
        · obtain rfl := Option.some.inj enabled
          left
          rcases reading_advance reading with kept | ⟨rfl, same⟩
          · exact kept
          · rw [started]
            exact same
      · cases enabled
  | rcu actor =>
      simp only [callStep] at enabled
      split at enabled
      · obtain rfl := Option.some.inj enabled
        exact Or.inl (reading_advance_returned reading)
      · cases enabled

theorem clock_le_of_callStep (enabled : callStep request state action = some next) :
    state.clock ≤ next.clock := by
  cases callStep_effect enabled with
  | quiet later => exact later
  | rcu call start passed clock => exact Nat.le_of_eq clock.symm

theorem distinctPools_callStep (distinct : state.snapshot.DistinctPools)
    (enabled : callStep request state action = some next) :
    next.snapshot.DistinctPools := by
  intro poolType
  cases callStep_effect enabled with
  | quiet later snapshot => exact snapshot ▸ distinct poolType
  | rcu call start passed clock snapshot =>
      rw [snapshot, tripRcu_pool, addresses_tripPool]
      exact distinct poolType

/-- An `rcu` treats every entry by itself. -/
theorem tripRcu_pool_eq_map {snapshot : PoolSnapshot} (distinct : snapshot.DistinctPools)
    (addr : SocketAddr) (deadline now : Instant) (poolType : PoolType) :
    (tripRcu snapshot addr deadline now).pool poolType =
      (snapshot.pool poolType).map (tripEntry addr deadline now) := by
  rw [tripRcu_pool, tripPool_eq_map_tripEntry (distinct poolType)]

omit [DecidableEq Call] in
theorem entryStep_tripEntry {call : Call} {start : Instant}
    (passed : state.progress call = .passed start) (upstream : UpstreamInfo) :
    EntryStep request state (.rcu call) upstream
      (tripEntry (request call).addr (start + (request call).duration) state.clock
        upstream) := by
  cases cooling : upstream.isInCooldown state.clock with
  | true =>
      rw [tripEntry_of_cooling cooling]
      exact .kept
  | false =>
      by_cases same : upstream.addr = (request call).addr
      · rw [tripEntry_of_idle cooling, setWindow, if_pos same]
        apply EntryStep.tripped passed same
        intro deadline window
        by_contra ahead
        have running := isInCooldown_iff.mpr ⟨deadline, window, Nat.not_le.mp ahead⟩
        rw [cooling] at running
        cases running
      · rw [tripEntry_of_ne same]
        exact .kept

theorem isInCooldown_tripEntry {addr : SocketAddr} {deadline now : Instant}
    {upstream : UpstreamInfo} (ahead : now < deadline) (same : upstream.addr = addr) :
    (tripEntry addr deadline now upstream).isInCooldown now = true := by
  cases cooling : upstream.isInCooldown now with
  | true => rw [tripEntry_of_cooling cooling, cooling]
  | false =>
      rw [tripEntry_of_idle cooling, setWindow, if_pos same]
      exact isInCooldown_iff.mpr ⟨deadline, rfl, ahead⟩

theorem lawful_of_callStep (distinct : state.snapshot.DistinctPools)
    (enabled : callStep request state action = some next) :
    LawfulStep request state action next := by
  cases callStep_effect enabled with
  | quiet later snapshot notRcu =>
      constructor
      · intro poolType
        rw [snapshot]
        exact List.forall₂_same.mpr fun _ _ => .kept
      · intro call _ isRcu
        exact absurd isRcu (notRcu call)
  | rcu call start passed clock snapshot =>
      constructor
      · intro poolType
        rw [snapshot, tripRcu_pool_eq_map distinct, List.forall₂_map_right_iff]
        exact List.forall₂_same.mpr fun upstream _ => entryStep_tripEntry passed upstream
      · intro other otherStart isRcu otherPassed _ ahead poolType upstream member same
        obtain rfl : call = other := by
          injection isRcu
        obtain rfl : start = otherStart := by
          injection passed.symm.trans otherPassed
        rw [snapshot, tripRcu_pool_eq_map distinct] at member
        obtain ⟨old, -, rfl⟩ := List.mem_map.mp member
        rw [addr_tripEntry] at same
        rw [clock]
        exact isInCooldown_tripEntry ahead same

theorem keepsOpenWindows_callStep (distinct : state.snapshot.DistinctPools)
    (enabled : callStep request state action = some next) : KeepsOpenWindows state next := by
  intro poolType position upstream deadline found window ahead
  cases callStep_effect enabled with
  | quiet later snapshot => rw [snapshot, found]
  | rcu call start passed clock snapshot =>
      rw [snapshot, tripRcu_pool_eq_map distinct, List.getElem?_map, found, Option.map_some]
      have running := isInCooldown_iff.mpr ⟨deadline, window, clock ▸ ahead⟩
      rw [tripEntry_of_cooling running]

end Steps

section Runs

variable {Call : Type} [DecidableEq Call] {request : Call → TripRequest}
  {start state later : TripsState Call} {actions : List (CallAction Call)}

theorem distinctPools_calls (distinct : start.snapshot.DistinctPools)
    (reaches : run (callStep request) start actions = some state) :
    state.snapshot.DistinctPools :=
  invariant_of_step (fun visited => visited.snapshot.DistinctPools)
    (fun _ _ _ distinct enabled => distinctPools_callStep distinct enabled) distinct reaches

theorem startedAt_of_reading (waiting : ∀ call, start.progress call = .waiting)
    (reaches : run (callStep request) start actions = some state) :
    ∀ call now, (state.progress call).reading = some now →
      StartedAt request start actions call now := by
  refine history_of_step (fun actions state => ∀ call now,
    (state.progress call).reading = some now → StartedAt request start actions call now)
    ?_ ?_ reaches
  · intro earlier visited action next reached started enabled call now reading
    rcases callStep_reading enabled reading with kept | ⟨rfl, shown⟩
    · obtain ⟨before, after, middle, rfl, reachedMiddle, shown⟩ := started call now kept
      exact ⟨before, after ++ [action], middle, by simp, reachedMiddle, shown⟩
    · exact ⟨earlier, [], visited, rfl, reached, shown⟩
  · intro call now reading
    rw [waiting] at reading
    cases reading

theorem keepsOpenWindows_calls (distinct : state.snapshot.DistinctPools)
    (reaches : run (callStep request) state actions = some later) :
    KeepsOpenWindows state later := by
  refine (invariant_of_step
    (fun visited => visited.snapshot.DistinctPools ∧ KeepsOpenWindows state visited)
    ?_ ⟨distinct, fun _ _ _ _ found _ _ => found⟩ reaches).2
  rintro visited action next ⟨visitedDistinct, kept⟩ enabled
  refine ⟨distinctPools_callStep visitedDistinct enabled, ?_⟩
  intro poolType position upstream deadline found window ahead
  have before := Nat.lt_of_le_of_lt (clock_le_of_callStep enabled) ahead
  exact keepsOpenWindows_callStep visitedDistinct enabled poolType position upstream deadline
    (kept poolType position upstream deadline found window before) window ahead

end Runs

/-- What holds in every state that concurrent calls reach. -/
structure LawfulTrips {Call : Type} [DecidableEq Call] (request : Call → TripRequest)
    (start : TripsState Call) (actions : List (CallAction Call)) (state : TripsState Call) :
    Prop where
  startedAt : ∀ call now, state.progress call = .passed now →
    StartedAt request start actions call now
  step : ∀ action next, callStep request state action = some next →
    LawfulStep request state action next
  windows : ∀ further later, run (callStep request) state further = some later →
    KeepsOpenWindows state later

/-- **Concurrent trips neither move an open window nor lose one another.** -/
theorem concurrentTrips_lawful {Call : Type} [DecidableEq Call]
    (request : Call → TripRequest) (start : TripsState Call)
    (waiting : ∀ call, start.progress call = .waiting)
    (distinct : start.snapshot.DistinctPools) (actions : List (CallAction Call))
    (state : TripsState Call) (reaches : run (callStep request) start actions = some state) :
    LawfulTrips request start actions state where
  startedAt := fun call now passed =>
    startedAt_of_reading waiting reaches call now (by rw [passed]; rfl)
  step := fun _ _ enabled => lawful_of_callStep (distinctPools_calls distinct reaches) enabled
  windows := fun _ _ further =>
    keepsOpenWindows_calls (distinctPools_calls distinct reaches) further

/-- Two calls on one healthy upstream that both pass the fast path. -/
theorem concurrentTrips_lawful_twins :
    ∃ state, run (callStep fun first : Bool => ⟨.sampleGpu, if first then 30 else 60⟩)
        ⟨0, onlyGpu, fun _ => .waiting⟩
        [.readClock true, .tick 1, .readClock false, .fastPath false, .fastPath true,
          .rcu true, .tick 2] = some state ∧
      LawfulTrips (fun first : Bool => ⟨.sampleGpu, if first then 30 else 60⟩)
        ⟨0, onlyGpu, fun _ => .waiting⟩
        [.readClock true, .tick 1, .readClock false, .fastPath false, .fastPath true,
          .rcu true, .tick 2] state := by
  refine ⟨_, rfl, concurrentTrips_lawful _ _ (fun _ => rfl) ?_ _ _ rfl⟩
  intro poolType
  cases poolType <;> decide

end BgeRouter
