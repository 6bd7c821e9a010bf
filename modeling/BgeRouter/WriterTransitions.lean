import BgeRouter.PoolWriters

/-!
# The writers' steps, case by case

The complete case list of `writerStep`, with the guard of every case and the
state it leads to.  Results about more than the shared cell, such as the calls
and the poll under way, are read off this list.
-/

namespace BgeRouter

open PartialRuns

/-- One constructor for each way a step can go. -/
inductive WriterTransition (state : RouterState) : WriterAction → RouterState → Prop where
  | tick (elapsed : Duration) :
      WriterTransition state (.tick elapsed) { state with clock := state.clock + elapsed }
  | refreshLoad (gpuResult cpuResult : ResolveResult)
      (idle : state.pool.loaded .discovery = none) :
      WriterTransition state (.refreshLoad gpuResult cpuResult) { state with
        pool := state.pool.load .discovery
        gpuResult := gpuResult
        cpuResult := cpuResult }
  | refreshStore {pool : LoadStoreCell PoolSnapshot BackgroundTask}
      (stores : state.pool.store .discovery (fun base =>
        merge base state.gpuResult state.cpuResult state.clock) = some pool) :
      WriterTransition state .refreshStore { state with
        pool := pool
        gpuResolved := state.gpuResult.resolvedSet state.gpuResolved
        cpuResolved := state.cpuResult.resolvedSet state.cpuResolved }
  | pollSkip (idle : state.polled = none) (empty : addresses state.snapshot.entries = []) :
      WriterTransition state .pollStart state
  | pollStart (idle : state.polled = none)
      (listed : addresses state.snapshot.entries ≠ []) :
      WriterTransition state .pollStart
        { state with polled := some (addresses state.snapshot.entries) }
  | pollLoad {addrs : List SocketAddr} {results : List PollResult}
      (polled : state.polled = some addrs) (idle : state.pool.loaded .health = none)
      (heard : (results.map PollResult.addr).Subperm addrs) :
      WriterTransition state (.pollLoad results) { state with
        pool := state.pool.load .health
        pollResults := results }
  | pollStore {pool : LoadStoreCell PoolSnapshot BackgroundTask}
      (stores : state.pool.store .health (fun base =>
        applyUpdates base state.pollResults state.clock) = some pool) :
      WriterTransition state .pollStore { state with
        pool := pool
        polled := none }
  | tripSkip (addr : SocketAddr) :
      WriterTransition state (.tripStart addr 0) state
  | tripStart (addr : SocketAddr) {duration : Duration} (positive : 0 < duration) :
      WriterTransition state (.tripStart addr duration) { state with
        trips := state.trips ++ [.started addr duration state.clock] }
  | tripReturn {call : Nat} {addr : SocketAddr} {duration : Duration} {now : Instant}
      (started : state.trips[call]? = some (.started addr duration now))
      (cooled : alreadyCooled state.snapshot addr now = true) :
      WriterTransition state (.tripFastPath call)
        { state with trips := state.trips.eraseIdx call }
  | tripPass {call : Nat} {addr : SocketAddr} {duration : Duration} {now : Instant}
      (started : state.trips[call]? = some (.started addr duration now))
      (idle : alreadyCooled state.snapshot addr now = false) :
      WriterTransition state (.tripFastPath call)
        { state with trips := state.trips.set call (.passed addr (now + duration)) }
  | tripRcu {call : Nat} {addr : SocketAddr} {deadline : Instant}
      (passed : state.trips[call]? = some (.passed addr deadline)) :
      WriterTransition state (.tripRcu call) { state with
        pool := state.pool.modify fun snapshot => tripRcu snapshot addr deadline state.clock
        trips := state.trips.eraseIdx call }

section Steps

variable {state next : RouterState} {action : WriterAction}

theorem writerStep_transition (enabled : writerStep state action = some next) :
    WriterTransition state action next := by
  cases action with
  | tick elapsed =>
      obtain rfl := Option.some.inj enabled
      exact .tick elapsed
  | refreshLoad gpuResult cpuResult =>
      simp only [writerStep] at enabled
      split_ifs at enabled with idle
      obtain rfl := Option.some.inj enabled
      exact .refreshLoad gpuResult cpuResult (Option.isNone_iff_eq_none.mp idle)
  | refreshStore =>
      obtain ⟨pool, stores, rfl⟩ := Option.map_eq_some_iff.mp enabled
      exact .refreshStore stores
  | pollStart =>
      simp only [writerStep] at enabled
      split_ifs at enabled with busy empty
      · obtain rfl := Option.some.inj enabled
        exact .pollSkip (Option.not_isSome_iff_eq_none.mp busy) empty
      · obtain rfl := Option.some.inj enabled
        exact .pollStart (Option.not_isSome_iff_eq_none.mp busy) empty
  | pollLoad results =>
      simp only [writerStep] at enabled
      split at enabled
      · cases enabled
      · rename_i addrs polled
        split_ifs at enabled with guarded
        obtain rfl := Option.some.inj enabled
        exact .pollLoad polled (Option.isNone_iff_eq_none.mp guarded.1) guarded.2
  | pollStore =>
      obtain ⟨pool, stores, rfl⟩ := Option.map_eq_some_iff.mp enabled
      exact .pollStore stores
  | tripStart addr duration =>
      simp only [writerStep] at enabled
      split_ifs at enabled with zero
      · obtain rfl := Option.some.inj enabled
        subst zero
        exact .tripSkip addr
      · obtain rfl := Option.some.inj enabled
        exact .tripStart addr (Nat.pos_of_ne_zero zero)
  | tripFastPath call =>
      simp only [writerStep] at enabled
      split at enabled
      · rename_i addr duration now started
        split_ifs at enabled with cooled
        · obtain rfl := Option.some.inj enabled
          exact .tripReturn started cooled
        · obtain rfl := Option.some.inj enabled
          exact .tripPass started (Bool.eq_false_of_not_eq_true cooled)
      · cases enabled
  | tripRcu call =>
      simp only [writerStep] at enabled
      split at enabled
      · rename_i addr deadline passed
        obtain rfl := Option.some.inj enabled
        exact .tripRcu passed
      · cases enabled

/-- **Writers' rule.**  A property of snapshots that every way of computing a
new one preserves is kept by the shared snapshot and by those still to be
stored from. -/
theorem settled_of_step {property : PoolSnapshot → Prop}
    (settled : state.pool.Settled property fun _ => property)
    (enabled : writerStep state action = some next)
    (merges : action = .refreshStore → ∀ base, property base →
      property (merge base state.gpuResult state.cpuResult state.clock))
    (updates : action = .pollStore → ∀ base, property base →
      property (applyUpdates base state.pollResults state.clock))
    (trips : ∀ addr deadline, .passed addr deadline ∈ state.trips → ∀ base, property base →
      property (tripRcu base addr deadline state.clock)) :
    next.pool.Settled property fun _ => property := by
  cases writerStep_transition enabled with
  | refreshLoad => exact settled.load id
  | pollLoad => exact settled.load id
  | refreshStore stores => exact settled.store stores fun base _ holds => merges rfl base holds
  | pollStore stores => exact settled.store stores fun base _ holds => updates rfl base holds
  | tripRcu passed =>
      dsimp only
      refine settled.modify fun holds => ?_
      exact trips _ _ (List.mem_of_getElem? passed) _ holds
  | _ => exact settled

/-- A poll's results are those of its final load. -/
theorem pollResults_of_step (enabled : writerStep state action = some next) :
    next.pollResults = state.pollResults ∨ action = .pollLoad next.pollResults := by
  cases writerStep_transition enabled with
  | pollLoad => exact Or.inr rfl
  | _ => exact Or.inl rfl

/-- The answers of a refresh are those of its final load. -/
theorem answer_of_step (enabled : writerStep state action = some next) :
    next.answer = state.answer ∨
      ∃ gpuResult cpuResult, action = .refreshLoad gpuResult cpuResult ∧
        next.answer = resultFor gpuResult cpuResult := by
  cases writerStep_transition enabled with
  | refreshLoad gpuResult cpuResult => exact Or.inr ⟨gpuResult, cpuResult, rfl, rfl⟩
  | _ => exact Or.inl rfl

/-- How a call came to be on its way. -/
inductive TripOrigin (state : RouterState) : WriterAction → TripCall → Prop where
  | kept {action : WriterAction} {call : TripCall} (pending : call ∈ state.trips) :
      TripOrigin state action call
  | started (addr : SocketAddr) {duration : Duration} (positive : 0 < duration) :
      TripOrigin state (.tripStart addr duration) (.started addr duration state.clock)
  | passed {position : Nat} {addr : SocketAddr} {duration : Duration} {now : Instant}
      (pending : .started addr duration now ∈ state.trips) :
      TripOrigin state (.tripFastPath position) (.passed addr (now + duration))

theorem tripOrigin_of_step (enabled : writerStep state action = some next) {call : TripCall}
    (member : call ∈ next.trips) : TripOrigin state action call := by
  cases writerStep_transition enabled with
  | tripStart addr positive =>
      rcases List.mem_append.mp member with pending | isNew
      · exact .kept pending
      · obtain rfl := List.mem_singleton.mp isNew
        exact .started addr positive
  | tripReturn => exact .kept (List.mem_of_mem_eraseIdx member)
  | tripRcu => exact .kept (List.mem_of_mem_eraseIdx member)
  | tripPass started =>
      rcases List.mem_or_eq_of_mem_set member with pending | rfl
      · exact .kept pending
      · exact .passed (List.mem_of_getElem? started)
  | _ => exact .kept member

end Steps

end BgeRouter
