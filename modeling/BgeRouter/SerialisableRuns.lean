import BgeRouter.PoolHistory
import BgeRouter.WriterTransitions

/-!
# When an interleaving is as good as atomic updates

The writers of the pool take several steps for every update.  A run in which no
writer is disturbed between them, because every store finds the pools as its
load has left them and every `rcu` finds its address still idle, does what
atomic updates do, each performed at the instant of its last step.  What is
known of atomic updates then holds of the run.
-/

namespace BgeRouter

open PartialRuns

/-- What the steps of an interleaved run amount to so far. -/
def RouterState.serial (state : RouterState) : SerialState where
  clock := state.clock
  snapshot := state.snapshot
  polls := state.polled.toList

/-- The atomic update that a step completes, if it is the last one of an
update. -/
def serialUpdates (state : RouterState) : WriterAction → List SerialAction
  | .tick elapsed => [.tick elapsed]
  | .refreshLoad _ _ => []
  | .refreshStore => [.refresh state.gpuResult state.cpuResult]
  | .pollStart => [.pollStart]
  | .pollLoad _ => []
  | .pollStore => [.pollEnd 0 state.pollResults]
  | .tripStart _ _ => []
  | .tripFastPath _ => []
  | .tripRcu call =>
      match state.trips[call]? with
      | some (.passed addr deadline) => [.trip addr (deadline - state.clock)]
      | _ => []

/-- The pools are as the task has loaded them. -/
def StoresOnCurrent (state : RouterState) (task : BackgroundTask) : Prop :=
  ∀ base, state.pool.loaded task = some base →
    ∀ poolType, base.pool poolType = state.snapshot.pool poolType

theorem storesOnCurrent_iff {state : RouterState} {task : BackgroundTask}
    {base : PoolSnapshot} (loaded : state.pool.loaded task = some base) :
    StoresOnCurrent state task ↔
      base.gpu = state.snapshot.gpu ∧ base.cpu = state.snapshot.cpu := by
  constructor
  · intro current
    exact ⟨current base loaded .gpu, current base loaded .cpu⟩
  · rintro ⟨gpu, cpu⟩ other again poolType
    obtain rfl := Option.some.inj (loaded.symm.trans again)
    cases poolType
    · exact gpu
    · exact cpu

/-- The writer that takes this step has not been disturbed since its first
step.  A trip is undisturbed when it still finds its address idle and its
window ahead, or has nothing to change. -/
def Undisturbed (state : RouterState) : WriterAction → Prop
  | .refreshStore => StoresOnCurrent state .discovery
  | .pollStore => StoresOnCurrent state .health
  | .tripRcu call => ∀ addr deadline, state.trips[call]? = some (.passed addr deadline) →
      (IdleAddress state.snapshot addr state.clock ∧ state.clock < deadline) ∨
        tripRcu state.snapshot addr deadline state.clock = state.snapshot
  | _ => True

theorem undisturbed_tripRcu_iff {state : RouterState} {call : Nat} {addr : SocketAddr}
    {deadline : Instant} (found : state.trips[call]? = some (.passed addr deadline)) :
    Undisturbed state (.tripRcu call) ↔
      (IdleAddress state.snapshot addr state.clock ∧ state.clock < deadline) ∨
        tripRcu state.snapshot addr deadline state.clock = state.snapshot := by
  constructor
  · intro undisturbed
    exact undisturbed addr deadline found
  · intro whole other otherDeadline passed
    obtain ⟨rfl, rfl⟩ := TripCall.passed.inj (Option.some.inj (found.symm.trans passed))
    exact whole

instance (state : RouterState) (task : BackgroundTask) :
    Decidable (StoresOnCurrent state task) :=
  match loaded : state.pool.loaded task with
  | none => isTrue fun _ again => nomatch loaded.symm.trans again
  | some base =>
      decidable_of_iff (base.gpu = state.snapshot.gpu ∧ base.cpu = state.snapshot.cpu)
        (storesOnCurrent_iff loaded).symm

instance (state : RouterState) (action : WriterAction) : Decidable (Undisturbed state action) :=
  match action with
  | .refreshStore => inferInstanceAs (Decidable (StoresOnCurrent state .discovery))
  | .pollStore => inferInstanceAs (Decidable (StoresOnCurrent state .health))
  | .tripRcu call =>
      match found : state.trips[call]? with
      | some (.passed addr deadline) =>
          decidable_of_iff ((IdleAddress state.snapshot addr state.clock ∧
            state.clock < deadline) ∨
              tripRcu state.snapshot addr deadline state.clock = state.snapshot)
            (undisturbed_tripRcu_iff found).symm
      | some (.started _ _ _) => isTrue fun _ _ passed => nomatch found.symm.trans passed
      | none => isTrue fun _ _ passed => nomatch found.symm.trans passed
  | .tick _ | .refreshLoad _ _ | .pollStart | .pollLoad _ | .tripStart _ _
  | .tripFastPath _ => isTrue trivial

/-- A poll that is about to store has heard from upstreams it had asked. -/
def PollUnderWay (state : RouterState) : Prop :=
  ∀ base, state.pool.loaded .health = some base →
    ∃ addrs, state.polled = some addrs ∧
      (state.pollResults.map PollResult.addr).Subperm addrs

section Steps

variable {state next : RouterState} {action : WriterAction}

theorem PollUnderWay.step (polling : PollUnderWay state)
    (enabled : writerStep state action = some next) : PollUnderWay next := by
  intro base loaded
  cases writerStep_transition enabled with
  | refreshLoad gpuResult cpuResult idle =>
      rw [LoadStoreCell.load_loaded_of_ne (by decide)] at loaded
      exact polling base loaded
  | refreshStore stores =>
      obtain ⟨own, ownLoaded, current, rest⟩ := LoadStoreCell.store_eq_some_iff.mp stores
      rw [rest, Function.update_of_ne (by decide)] at loaded
      exact polling base loaded
  | pollStart idle listed =>
      obtain ⟨addrs, polled, -⟩ := polling base loaded
      rw [idle] at polled
      cases polled
  | pollLoad polled idle heard => exact ⟨_, polled, heard⟩
  | pollStore stores =>
      obtain ⟨own, ownLoaded, current, rest⟩ := LoadStoreCell.store_eq_some_iff.mp stores
      rw [rest, Function.update_self] at loaded
      cases loaded
  | _ => exact polling base loaded

theorem merge_congr {first second : PoolSnapshot} {gpuResult cpuResult : ResolveResult}
    {now : Instant} (pools : ∀ poolType, first.pool poolType = second.pool poolType) :
    merge first gpuResult cpuResult now = merge second gpuResult cpuResult now := by
  apply PoolSnapshot.eq_of_pools
  · intro poolType
    rw [merge_pool, merge_pool, pools]
  · rfl

theorem applyUpdates_congr {first second : PoolSnapshot} {results : List PollResult}
    {now : Instant} (pools : ∀ poolType, first.pool poolType = second.pool poolType) :
    applyUpdates first results now = applyUpdates second results now := by
  apply PoolSnapshot.eq_of_pools
  · intro poolType
    rw [applyUpdates_pool, applyUpdates_pool, pools]
  · rfl

/-- An undisturbed `rcu` does what a whole trip would do now. -/
theorem trip_eq_tripRcu {snapshot : PoolSnapshot} {addr : SocketAddr}
    {deadline now : Instant}
    (undisturbed : (IdleAddress snapshot addr now ∧ now < deadline) ∨
      tripRcu snapshot addr deadline now = snapshot) :
    trip snapshot addr (deadline - now) now = tripRcu snapshot addr deadline now := by
  by_cases ahead : now < deadline
  · have remaining : now + (deadline - now) = deadline := Nat.add_sub_cancel' (Nat.le_of_lt ahead)
    cases cooled : alreadyCooled snapshot addr now with
    | false =>
        rw [trip_of_not_alreadyCooled (Nat.sub_pos_of_lt ahead) cooled, remaining]
    | true =>
        rcases undisturbed with ⟨idle, -⟩ | unchanged
        · rw [alreadyCooled_eq_false_iff.mpr idle] at cooled
          cases cooled
        · rw [trip_of_alreadyCooled cooled, unchanged]
  · rcases undisturbed with ⟨-, stillAhead⟩ | unchanged
    · exact absurd stillAhead ahead
    · rw [trip, if_pos (Nat.sub_eq_zero_of_le (Nat.not_lt.mp ahead)), unchanged]

/-- An undisturbed step completes its update, or does nothing to the pool. -/
theorem serialUpdates_run (polling : PollUnderWay state)
    (enabled : writerStep state action = some next) (undisturbed : Undisturbed state action) :
    run serialStep state.serial (serialUpdates state action) = some next.serial := by
  cases writerStep_transition enabled with
  | tick elapsed => rfl
  | refreshLoad => rfl
  | refreshStore stores =>
      obtain ⟨base, loaded, current, -⟩ := LoadStoreCell.store_eq_some_iff.mp stores
      rw [merge_congr (undisturbed base loaded)] at current
      simp only [serialUpdates, run_singleton, serialStep, RouterState.serial,
        RouterState.snapshot, current]
  | pollSkip idle empty =>
      simp only [serialUpdates, run_singleton, serialStep]
      exact if_pos empty
  | pollStart idle listed =>
      simp only [serialUpdates, run_singleton, serialStep]
      refine (if_neg listed).trans ?_
      simp only [RouterState.serial, RouterState.snapshot, idle]
      rfl
  | pollLoad => rfl
  | pollStore stores =>
      obtain ⟨base, loaded, current, -⟩ := LoadStoreCell.store_eq_some_iff.mp stores
      obtain ⟨addrs, polled, heard⟩ := polling base loaded
      rw [applyUpdates_congr (undisturbed base loaded)] at current
      simp only [serialUpdates, run_singleton, serialStep, RouterState.serial,
        RouterState.snapshot, polled, current, Option.toList_some, List.getElem?_cons_zero,
        if_pos heard]
      rfl
  | tripSkip | tripStart | tripReturn | tripPass => rfl
  | tripRcu passed =>
      have whole := trip_eq_tripRcu (undisturbed _ _ passed)
      simp only [serialUpdates, passed, run_singleton, serialStep, RouterState.serial, whole]
      rfl

end Steps

/-- **Undisturbed runs are serialisable.**  The updates they complete, taken as
atomic ones in the order of completion, lead to the same clock, snapshot and
poll, and the entries tell the history of these updates. -/
theorem serialisable_of_undisturbed {actions : List WriterAction} {state : RouterState}
    (undisturbed : Along writerStep Undisturbed .initial actions)
    (reaches : run writerStep .initial actions = some state) :
    run serialStep .initial (committed writerStep serialUpdates .initial actions) =
        some state.serial ∧
      TellsHistory (committed writerStep serialUpdates .initial actions) state.serial := by
  have simulated : run serialStep RouterState.initial.serial
      (committed writerStep serialUpdates .initial actions) = some state.serial :=
    simulation_of_step RouterState.serial serialUpdates PollUnderWay
      (fun _ _ _ polling enabled => polling.step enabled)
      (fun _ _ _ polling enabled guarded => serialUpdates_run polling enabled guarded)
      undisturbed nofun reaches
  exact ⟨simulated, tellsHistory_of_run simulated⟩

/-- A trip runs while a poll waits for its upstreams, and the poll is stored
after it. -/
def tripDuringPoll : List WriterAction :=
  [.refreshLoad (.resolved [.sampleGpu]) .failed, .refreshStore, .pollStart,
    .tripStart .sampleGpu 30, .tripFastPath 0, .tick 5, .tripRcu 0,
    .pollLoad [⟨.sampleGpu, .ok, 0, 1⟩], .pollStore]

theorem serialisable_tripDuringPoll :
    ∃ state, run writerStep .initial tripDuringPoll = some state ∧
      run serialStep .initial
          (committed writerStep serialUpdates .initial tripDuringPoll) = some state.serial ∧
      TellsHistory (committed writerStep serialUpdates .initial tripDuringPoll)
        state.serial := by
  have undisturbed : Along writerStep Undisturbed .initial tripDuringPoll := by
    decide +kernel
  exact ⟨_, rfl, serialisable_of_undisturbed undisturbed rfl⟩

end BgeRouter
