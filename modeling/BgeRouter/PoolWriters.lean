import BgeRouter.Library.LoadStoreCell
import BgeRouter.Library.PartialRuns
import BgeRouter.CircuitBreaker
import BgeRouter.Discovery
import BgeRouter.HealthPolling
import Mathlib.Data.List.Perm.Subperm

/-!
# Writers of the shared pool

The snapshot is shared by three kinds of writer on a multi-threaded runtime.
The discovery task ends every refresh with a load, a merge and a store, the
health task ends every poll with a load, an update and a store, and any number
of `trip` calls read the clock, test a loaded snapshot and then perform one
atomic `rcu`.  This file is the transition system of all their interleavings
under a monotone clock.
-/

namespace BgeRouter

open PartialRuns

/-- The two tasks that replace the snapshot by a load and a later store. -/
inductive BackgroundTask where
  | discovery
  | health
deriving DecidableEq

/-- A `trip` call on its way: it has read the clock, or it has also passed the
fast path and is about to enter `rcu`. -/
inductive TripCall where
  | started (addr : SocketAddr) (duration : Duration) (now : Instant)
  | passed (addr : SocketAddr) (deadline : Instant)
deriving DecidableEq

structure RouterState where
  clock : Instant
  pool : LoadStoreCell PoolSnapshot BackgroundTask
  /-- the DNS answers of the refresh whose final load is done -/
  gpuResult : ResolveResult
  cpuResult : ResolveResult
  /-- the addresses captured by the poll under way -/
  polled : Option (List SocketAddr)
  /-- the results of the poll whose final load is done -/
  pollResults : List PollResult
  trips : List TripCall
  /-- history: the last list stored from a successful answer, for each pool -/
  gpuResolved : List SocketAddr
  cpuResolved : List SocketAddr

namespace RouterState

/-- The snapshot a reader sees. -/
def snapshot (state : RouterState) : PoolSnapshot := state.pool.current

def resolvedSet (state : RouterState) : PoolType → List SocketAddr
  | .gpu => state.gpuResolved
  | .cpu => state.cpuResolved

/-- The answer for one pool of the refresh that is about to store. -/
def answer (state : RouterState) (poolType : PoolType) : ResolveResult :=
  resultFor state.gpuResult state.cpuResult poolType

def initial : RouterState where
  clock := 0
  pool := .new (.default 0)
  gpuResult := .failed
  cpuResult := .failed
  polled := none
  pollResults := []
  trips := []
  gpuResolved := []
  cpuResolved := []

end RouterState

/-- One step of one of the parties. -/
inductive WriterAction where
  | tick (elapsed : Duration)
  | refreshLoad (gpuResult cpuResult : ResolveResult)
  | refreshStore
  | pollStart
  | pollLoad (results : List PollResult)
  | pollStore
  | tripStart (addr : SocketAddr) (duration : Duration)
  | tripFastPath (call : Nat)
  | tripRcu (call : Nat)

/-- The effect of an action, or `none` where the party is not at that point. -/
def writerStep (state : RouterState) : WriterAction → Option RouterState
  | .tick elapsed => some { state with clock := state.clock + elapsed }
  | .refreshLoad gpuResult cpuResult =>
      if (state.pool.loaded .discovery).isNone then
        some { state with
          pool := state.pool.load .discovery
          gpuResult := gpuResult
          cpuResult := cpuResult }
      else none
  | .refreshStore =>
      (state.pool.store .discovery fun base =>
          merge base state.gpuResult state.cpuResult state.clock).map fun pool =>
        { state with
          pool := pool
          gpuResolved := state.gpuResult.resolvedSet state.gpuResolved
          cpuResolved := state.cpuResult.resolvedSet state.cpuResolved }
  | .pollStart =>
      if state.polled.isSome then none
      else if addresses state.snapshot.entries = [] then some state
      else some { state with polled := some (addresses state.snapshot.entries) }
  | .pollLoad results =>
      match state.polled with
      | none => none
      | some addrs =>
          -- a poll task that panicked yields no result
          if (state.pool.loaded .health).isNone ∧
              (results.map PollResult.addr).Subperm addrs then
            some { state with
              pool := state.pool.load .health
              pollResults := results }
          else none
  | .pollStore =>
      (state.pool.store .health fun base =>
          applyUpdates base state.pollResults state.clock).map fun pool =>
        { state with
          pool := pool
          polled := none }
  | .tripStart addr duration =>
      if duration = 0 then some state
      else some { state with
        trips := state.trips ++ [.started addr duration state.clock] }
  | .tripFastPath call =>
      match state.trips[call]? with
      | some (.started addr duration now) =>
          if alreadyCooled state.snapshot addr now then
            some { state with trips := state.trips.eraseIdx call }
          else
            some { state with trips := state.trips.set call (.passed addr (now + duration)) }
      | _ => none
  | .tripRcu call =>
      match state.trips[call]? with
      | some (.passed addr deadline) =>
          some { state with
            pool := state.pool.modify fun snapshot =>
              tripRcu snapshot addr deadline state.clock
            trips := state.trips.eraseIdx call }
      | _ => none

/-- From startup: discovery finds one GPU task, and a poll that heard from it
is between its final load and its store. -/
def pollInFlight : List WriterAction :=
  [.refreshLoad (.resolved [.sampleGpu]) .failed, .refreshStore, .pollStart,
    .pollLoad [⟨.sampleGpu, .ok, 0, 1⟩]]

/-- What a step can do to the clock, the shared snapshot and the history. -/
inductive WriterEffect (state next : RouterState) : WriterAction → Prop where
  | quiet {action : WriterAction} (later : state.clock ≤ next.clock)
      (pool : next.pool = state.pool)
      (answers : next.answer = state.answer)
      (history : next.resolvedSet = state.resolvedSet) : WriterEffect state next action
  | refreshLoad (gpuResult cpuResult : ResolveResult)
      (idle : state.pool.loaded .discovery = none)
      (clock : next.clock = state.clock)
      (pool : next.pool = state.pool.load .discovery)
      (history : next.resolvedSet = state.resolvedSet) :
      WriterEffect state next (.refreshLoad gpuResult cpuResult)
  | refreshStore (clock : next.clock = state.clock)
      (pool : state.pool.store .discovery (fun base =>
        merge base state.gpuResult state.cpuResult state.clock) = some next.pool)
      (answers : next.answer = state.answer)
      (history : ∀ poolType, next.resolvedSet poolType =
        (state.answer poolType).resolvedSet (state.resolvedSet poolType)) :
      WriterEffect state next .refreshStore
  | pollLoad (results : List PollResult)
      (clock : next.clock = state.clock)
      (pool : next.pool = state.pool.load .health)
      (answers : next.answer = state.answer)
      (history : next.resolvedSet = state.resolvedSet) :
      WriterEffect state next (.pollLoad results)
  | pollStore (clock : next.clock = state.clock)
      (pool : state.pool.store .health (fun base =>
        applyUpdates base state.pollResults state.clock) = some next.pool)
      (answers : next.answer = state.answer)
      (history : next.resolvedSet = state.resolvedSet) :
      WriterEffect state next .pollStore
  | tripRcu (call : Nat) (addr : SocketAddr) (deadline : Instant)
      (pending : state.trips[call]? = some (.passed addr deadline))
      (clock : next.clock = state.clock)
      (pool : next.pool = state.pool.modify fun snapshot =>
        tripRcu snapshot addr deadline state.clock)
      (answers : next.answer = state.answer)
      (history : next.resolvedSet = state.resolvedSet) :
      WriterEffect state next (.tripRcu call)

/-- Every invariant of the shared pool is derived from this case list. -/
theorem writerStep_effect {state next : RouterState} {action : WriterAction}
    (enabled : writerStep state action = some next) :
    WriterEffect state next action := by
  cases action with
  | tick elapsed =>
      obtain rfl := Option.some.inj enabled
      exact .quiet (Nat.le_add_right _ _) rfl rfl rfl
  | refreshLoad gpuResult cpuResult =>
      simp only [writerStep] at enabled
      split_ifs at enabled with idle
      obtain rfl := Option.some.inj enabled
      exact .refreshLoad gpuResult cpuResult (Option.isNone_iff_eq_none.mp idle) rfl rfl rfl
  | refreshStore =>
      simp only [writerStep, Option.map_eq_some_iff] at enabled
      obtain ⟨pool, stored, rfl⟩ := enabled
      exact .refreshStore rfl stored rfl fun poolType => by cases poolType <;> rfl
  | pollStart =>
      simp only [writerStep] at enabled
      split_ifs at enabled with busy empty
      · obtain rfl := Option.some.inj enabled
        exact .quiet (Nat.le_refl _) rfl rfl rfl
      · obtain rfl := Option.some.inj enabled
        exact .quiet (Nat.le_refl _) rfl rfl rfl
  | pollLoad results =>
      simp only [writerStep] at enabled
      split at enabled
      · simp at enabled
      · split_ifs at enabled
        obtain rfl := Option.some.inj enabled
        exact .pollLoad results rfl rfl rfl rfl
  | pollStore =>
      simp only [writerStep, Option.map_eq_some_iff] at enabled
      obtain ⟨pool, stored, rfl⟩ := enabled
      exact .pollStore rfl stored rfl rfl
  | tripStart addr duration =>
      simp only [writerStep] at enabled
      split_ifs at enabled with zero
      · obtain rfl := Option.some.inj enabled
        exact .quiet (Nat.le_refl _) rfl rfl rfl
      · obtain rfl := Option.some.inj enabled
        exact .quiet (Nat.le_refl _) rfl rfl rfl
  | tripFastPath call =>
      simp only [writerStep] at enabled
      split at enabled
      · split_ifs at enabled with cooled
        · obtain rfl := Option.some.inj enabled
          exact .quiet (Nat.le_refl _) rfl rfl rfl
        · obtain rfl := Option.some.inj enabled
          exact .quiet (Nat.le_refl _) rfl rfl rfl
      · simp at enabled
  | tripRcu call =>
      simp only [writerStep] at enabled
      split at enabled
      · rename_i addr deadline pending
        obtain rfl := Option.some.inj enabled
        exact .tripRcu call addr deadline pending rfl rfl rfl rfl
      · simp at enabled

theorem refreshStore_of_loaded {state : RouterState} {base : PoolSnapshot}
    (loaded : state.pool.loaded .discovery = some base) :
    ∃ next, writerStep state .refreshStore = some next ∧ next.clock = state.clock ∧
      ∀ poolType,
        next.snapshot.pool poolType =
          mergePool (base.pool poolType) (state.answer poolType) poolType state.clock ∧
        next.resolvedSet poolType =
          (state.answer poolType).resolvedSet (state.resolvedSet poolType) := by
  obtain ⟨stored, stores, current⟩ : ∃ stored, state.pool.store .discovery (fun base =>
      merge base state.gpuResult state.cpuResult state.clock) = some stored ∧
        stored.current = merge base state.gpuResult state.cpuResult state.clock :=
    LoadStoreCell.exists_store_of_loaded loaded
  rw [writerStep, stores]
  refine ⟨_, rfl, rfl, fun poolType => ⟨?_, ?_⟩⟩
  · rw [RouterState.snapshot, current, merge_pool]
    rfl
  · cases poolType <;> rfl

theorem pollStore_of_loaded {state : RouterState} {base : PoolSnapshot}
    (loaded : state.pool.loaded .health = some base) :
    ∃ next, writerStep state .pollStore = some next ∧ next.clock = state.clock ∧
      next.snapshot = applyUpdates base state.pollResults state.clock ∧
      next.resolvedSet = state.resolvedSet := by
  obtain ⟨stored, stores, current⟩ : ∃ stored, state.pool.store .health (fun base =>
      applyUpdates base state.pollResults state.clock) = some stored ∧
        stored.current = applyUpdates base state.pollResults state.clock :=
    LoadStoreCell.exists_store_of_loaded loaded
  rw [writerStep, stores]
  exact ⟨_, rfl, rfl, current, rfl⟩

theorem clock_le_of_step {state next : RouterState} {action : WriterAction}
    (enabled : writerStep state action = some next) : state.clock ≤ next.clock := by
  cases writerStep_effect enabled with
  | quiet later => exact later
  | refreshLoad _ _ _ clock => exact Nat.le_of_eq clock.symm
  | refreshStore clock => exact Nat.le_of_eq clock.symm
  | pollLoad _ clock => exact Nat.le_of_eq clock.symm
  | pollStore clock => exact Nat.le_of_eq clock.symm
  | tripRcu _ _ _ _ clock => exact Nat.le_of_eq clock.symm

theorem clock_le_of_run {state finish : RouterState} {actions : List WriterAction}
    (reaches : run writerStep state actions = some finish) :
    state.clock ≤ finish.clock :=
  invariant_of_step (fun later => state.clock ≤ later.clock)
    (fun _ _ _ order enabled => Nat.le_trans order (clock_le_of_step enabled))
    (Nat.le_refl _) reaches

end BgeRouter
