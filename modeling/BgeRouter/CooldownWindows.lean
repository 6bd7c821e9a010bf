import BgeRouter.PoolWriters

/-!
# Cooldown windows under concurrent writers

Once a trip has set the end of a window, nothing recomputes it.  The window
survives every interleaving if and only if, at the moment the trip sets it, no
background task is about to store a snapshot that lacks it.  Later loads see
the window, and every later update keeps it.
-/

namespace BgeRouter

open PartialRuns

/-- A trip's `rcu` leaves the entry of `addr` in cooldown until `deadline`, the
end that this call computed. -/
structure TripSets (state next : RouterState) (poolType : PoolType)
    (addr : SocketAddr) (deadline : Instant) : Prop where
  call : ∃ call, state.trips[call]? = some (.passed addr deadline) ∧
    writerStep state (.tripRcu call) = some next
  window : cooldownOf (next.snapshot.pool poolType) addr = some deadline

/-- In every later state before the deadline, the entry still has this window
if its address stayed in the resolved set of the pool. -/
def KeepsWindow (state : RouterState) (poolType : PoolType) (addr : SocketAddr)
    (deadline : Instant) : Prop :=
  ∀ actions later, run writerStep state actions = some later →
    Throughout writerStep (fun visited => addr ∈ visited.resolvedSet poolType)
      state actions →
    later.clock < deadline →
    cooldownOf (later.snapshot.pool poolType) addr = some deadline

/-- Storing from this snapshot keeps the window, or drops the address. -/
def SafeBase (answer : ResolveResult) (poolType : PoolType) (addr : SocketAddr)
    (deadline : Instant) : BackgroundTask → PoolSnapshot → Prop
  | .discovery, base =>
      (∃ addrs, answer = .resolved addrs ∧ addr ∉ addrs) ∨
        cooldownOf (base.pool poolType) addr = some deadline
  | .health, base => cooldownOf (base.pool poolType) addr = some deadline

/-- Unless the window is over already or the address is not in the resolved
set, no background task is between its final load and its store with a
snapshot that lacks the window. -/
def NoStaleWriter (state : RouterState) (poolType : PoolType) (addr : SocketAddr)
    (deadline : Instant) : Prop :=
  state.clock < deadline → addr ∈ state.resolvedSet poolType →
    ∀ task base, state.pool.loaded task = some base →
      SafeBase (state.answer poolType) poolType addr deadline task base

/-- The window is set, and every snapshot still to be stored from is safe. -/
def WindowSettled (state : RouterState) (poolType : PoolType) (addr : SocketAddr)
    (deadline : Instant) : Prop :=
  state.pool.Settled
    (fun snapshot => cooldownOf (snapshot.pool poolType) addr = some deadline)
    (SafeBase (state.answer poolType) poolType addr deadline)

section Steps

variable {state next : RouterState} {action : WriterAction} {poolType : PoolType}
  {addr : SocketAddr} {deadline now : Instant}

/-- A merge from a safe snapshot keeps the window, unless its answer drops the
address. -/
theorem cooldownOf_mergePool_of_safe {existing : List UpstreamInfo}
    {answer : ResolveResult} (window : cooldownOf existing addr = some deadline)
    (listed : ∀ addrs, answer = .resolved addrs → addr ∈ addrs) :
    cooldownOf (mergePool existing answer poolType now) addr = some deadline := by
  cases answer with
  | failed => exact window
  | resolved addrs =>
      rw [cooldownOf_mergePool_resolved, if_pos (listed addrs rfl), window]

theorem WindowSettled.step (settled : WindowSettled state poolType addr deadline)
    (enabled : writerStep state action = some next)
    (running : next.clock < deadline)
    (listed : addr ∈ next.resolvedSet poolType) :
    WindowSettled next poolType addr deadline := by
  cases writerStep_effect enabled with
  | quiet later pool answers history =>
      simpa only [WindowSettled, pool, answers] using settled
  | refreshLoad gpuResult cpuResult idle clock pool history =>
      constructor
      · rw [pool]
        exact settled.current
      · intro task base loaded
        rw [pool] at loaded
        cases task with
        | discovery =>
            rw [LoadStoreCell.load_loaded_self] at loaded
            obtain rfl := Option.some.inj loaded
            exact Or.inr settled.current
        | health =>
            rw [LoadStoreCell.load_loaded_of_ne (by decide)] at loaded
            exact settled.loaded .health base loaded
  | refreshStore clock pool answers history =>
      simp only [WindowSettled, answers]
      apply settled.store pool
      intro base loaded safe
      rw [history] at listed
      rw [merge_pool]
      rcases safe with ⟨addrs, answer, dropped⟩ | window
      · rw [answer] at listed
        exact absurd listed dropped
      · apply cooldownOf_mergePool_of_safe window
        intro addrs answer
        rw [show state.answer poolType = .resolved addrs from answer] at listed
        exact listed
  | pollLoad results clock pool answers history =>
      simp only [WindowSettled, pool, answers]
      exact settled.load fun window => window
  | pollStore clock pool answers history =>
      simp only [WindowSettled, answers]
      apply settled.store pool
      intro base loaded safe
      rw [applyUpdates_pool, cooldownOf_updatePool]
      exact safe
  | tripRcu call tripped end_ pending clock pool answers history =>
      simp only [WindowSettled, pool, answers]
      apply settled.modify
      intro window
      rw [tripRcu_pool]
      by_cases same : addr = tripped
      · subst same
        rw [cooldownOf_tripPool_of_open ⟨deadline, window, clock ▸ running⟩, window]
      · rw [cooldownOf_tripPool_of_ne same, window]

end Steps

section Runs

variable {state later : RouterState} {actions : List WriterAction}
  {poolType : PoolType} {addr : SocketAddr} {deadline : Instant}

theorem WindowSettled.run (settled : WindowSettled state poolType addr deadline)
    (reaches : run writerStep state actions = some later)
    (listed : Throughout writerStep
      (fun visited => addr ∈ visited.resolvedSet poolType) state actions)
    (running : later.clock < deadline) :
    WindowSettled later poolType addr deadline := by
  induction actions generalizing state with
  | nil =>
      obtain rfl := Option.some.inj reaches
      exact settled
  | cons action rest ih =>
      obtain ⟨next, enabled, reaches⟩ := run_cons.mp reaches
      have listedNext := listed.2 next enabled
      have runningNext : next.clock < deadline :=
        Nat.lt_of_le_of_lt (clock_le_of_run reaches) running
      exact ih (settled.step enabled runningNext listedNext.head) reaches listedNext

/-- A window that is kept survives the next step. -/
theorem KeepsWindow.of_step {action : WriterAction} {next : RouterState}
    (keeps : KeepsWindow state poolType addr deadline)
    (enabled : writerStep state action = some next) (listed : addr ∈ state.resolvedSet poolType)
    (listedNext : addr ∈ next.resolvedSet poolType) (running : next.clock < deadline) :
    cooldownOf (next.snapshot.pool poolType) addr = some deadline :=
  keeps [action] next (run_singleton.trans enabled)
    (throughout_singleton enabled listed listedNext) running

/-- A snapshot about to be stored that lacks the window is stored next, in the
worst case. -/
theorem safeBase_of_keepsWindow (keeps : KeepsWindow state poolType addr deadline)
    (running : state.clock < deadline) (listed : addr ∈ state.resolvedSet poolType)
    {task : BackgroundTask} {base : PoolSnapshot}
    (loaded : state.pool.loaded task = some base) :
    SafeBase (state.answer poolType) poolType addr deadline task base := by
  cases task with
  | discovery =>
      obtain ⟨next, enabled, clock, stored⟩ := refreshStore_of_loaded loaded
      obtain ⟨pool, history⟩ := stored poolType
      rw [← clock] at running
      cases answer : state.answer poolType with
      | failed =>
          rw [answer] at pool history
          have window := keeps.of_step enabled listed (history ▸ listed) running
          rw [pool] at window
          exact Or.inr window
      | resolved addrs =>
          by_cases listedAgain : addr ∈ addrs
          · rw [answer] at pool history
            have window := keeps.of_step enabled listed (history ▸ listedAgain) running
            rw [pool, cooldownOf_mergePool_resolved, if_pos listedAgain] at window
            exact Or.inr window
          · exact Or.inl ⟨addrs, rfl, listedAgain⟩
  | health =>
      obtain ⟨next, enabled, clock, stored, history⟩ := pollStore_of_loaded loaded
      rw [← clock] at running
      have window := keeps.of_step enabled listed (history ▸ listed) running
      rw [stored, applyUpdates_pool, cooldownOf_updatePool] at window
      exact window

end Runs

/-- **Exact condition for a window to survive.**  In every state, a window that
a trip sets is kept on every continuation exactly when no background task holds
a stale snapshot at the instant of the `rcu`. -/
theorem keepsWindow_iff_noStaleWriter {state next : RouterState} {poolType : PoolType}
    {addr : SocketAddr} {deadline : Instant}
    (sets : TripSets state next poolType addr deadline) :
    KeepsWindow next poolType addr deadline ↔
      NoStaleWriter state poolType addr deadline := by
  obtain ⟨call, pending, enabled⟩ := sets.call
  obtain ⟨clock, loaded, answers, history⟩ : next.clock = state.clock ∧
      next.pool.loaded = state.pool.loaded ∧ next.answer = state.answer ∧
      next.resolvedSet = state.resolvedSet := by
    simp only [writerStep, pending] at enabled
    obtain rfl := Option.some.inj enabled
    exact ⟨rfl, rfl, rfl, rfl⟩
  constructor
  · intro keeps running listed task base taskLoaded
    rw [← answers]
    apply safeBase_of_keepsWindow keeps (clock ▸ running) (history ▸ listed)
    rw [loaded, taskLoaded]
  · intro noStale actions later reaches listed running
    have runningNow : state.clock < deadline :=
      Nat.lt_of_le_of_lt (clock ▸ clock_le_of_run reaches) running
    have settled : WindowSettled next poolType addr deadline := by
      refine ⟨sets.window, ?_⟩
      intro task base taskLoaded
      rw [answers]
      exact noStale runningNow (history ▸ listed.head) task base (loaded ▸ taskLoaded)
    exact (settled.run reaches listed running).current

/-- A window set while no task is about to store is kept. -/
theorem keepsWindow_of_idle_tasks :
    ∃ state next,
      run writerStep .initial (pollInFlight ++ [.pollStore,
        .tripStart .sampleGpu (Duration.fromSecs 30), .tripFastPath 0]) = some state ∧
      TripSets state next .gpu .sampleGpu (Duration.fromSecs 30) ∧
      KeepsWindow next .gpu .sampleGpu (Duration.fromSecs 30) := by
  obtain ⟨state, next, reaches, sets, idle⟩ :
      ∃ state next,
        run writerStep .initial (pollInFlight ++ [.pollStore,
          .tripStart .sampleGpu (Duration.fromSecs 30), .tripFastPath 0]) = some state ∧
        TripSets state next .gpu .sampleGpu (Duration.fromSecs 30) ∧
        ∀ task, state.pool.loaded task = none :=
    ⟨_, _, rfl, ⟨⟨0, rfl, rfl⟩, rfl⟩, fun task => by cases task <;> rfl⟩
  refine ⟨state, next, reaches, sets, (keepsWindow_iff_noStaleWriter sets).mpr ?_⟩
  intro _ _ task base loaded
  rw [idle] at loaded
  cases loaded

/-- A trip between the final load and the store of a poll is forgotten. -/
theorem pollStore_loses_window :
    ¬ ∀ (before : List WriterAction) (state next : RouterState) (poolType : PoolType)
        (addr : SocketAddr) (deadline : Instant),
      run writerStep .initial before = some state →
      TripSets state next poolType addr deadline →
      KeepsWindow next poolType addr deadline := by
  intro keeps
  obtain ⟨state, next, later, reaches, sets, stores, listed, running, lost⟩ :
      ∃ state next later,
        run writerStep .initial (pollInFlight ++
          [.tripStart .sampleGpu (Duration.fromSecs 30), .tripFastPath 0]) = some state ∧
        TripSets state next .gpu .sampleGpu (Duration.fromSecs 30) ∧
        writerStep next .pollStore = some later ∧
        (SocketAddr.sampleGpu ∈ next.resolvedSet .gpu ∧
          SocketAddr.sampleGpu ∈ later.resolvedSet .gpu) ∧
        later.clock < Duration.fromSecs 30 ∧
        cooldownOf (later.snapshot.pool .gpu) .sampleGpu = none :=
    ⟨_, _, _, rfl, ⟨⟨0, rfl, rfl⟩, rfl⟩, rfl, by decide, by decide, by decide⟩
  have kept := keeps _ state next .gpu .sampleGpu _ reaches sets
  have window := kept.of_step stores listed.1 listed.2 running
  rw [lost] at window
  cases window

end BgeRouter
