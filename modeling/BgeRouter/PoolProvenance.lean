import BgeRouter.PoolHistory
import BgeRouter.WriterTransitions

/-!
# Where the snapshot comes from

The shared snapshot has three kinds of writer, and two of them store what they
computed from an outdated load.  Entries may therefore return, and reports and
windows may be lost, but nothing is ever made up: whatever interleaving led to
a snapshot, each field of each of its entries was written by one step of the
run, from a DNS answer, a poll result or a `trip` call for that very address.
-/

namespace BgeRouter

open PartialRuns

/-- Some refresh of the run resolved the pool's name to the address. -/
def ResolvedIn (actions : List WriterAction) (poolType : PoolType) (addr : SocketAddr) :
    Prop :=
  ∃ gpuResult cpuResult addrs, .refreshLoad gpuResult cpuResult ∈ actions ∧
    resultFor gpuResult cpuResult poolType = .resolved addrs ∧ addr ∈ addrs

/-- A poll of the run had this result for the address, and was stored at the
instant `seen`. -/
def ReportedIn (actions : List WriterAction) (addr : SocketAddr) (report : HealthReport)
    (seen : Instant) : Prop :=
  ∃ state, Performed writerStep .initial actions state .pollStore ∧ state.clock = seen ∧
    .pollLoad state.pollResults ∈ actions ∧
    ∃ result ∈ state.pollResults, result.addr = addr ∧ result.report = report

/-- A refresh of the run was stored at the instant `seen`. -/
def RefreshedIn (actions : List WriterAction) (seen : Instant) : Prop :=
  ∃ state, Performed writerStep .initial actions state .refreshStore ∧ state.clock = seen

/-- A `trip` call of the run for the address read the clock as `start`. -/
def TripStartedIn (actions : List WriterAction) (addr : SocketAddr) (duration : Duration)
    (start : Instant) : Prop :=
  ∃ state, Performed writerStep .initial actions state (.tripStart addr duration) ∧
    state.clock = start

/-- Every field of the entry was written by a step of the run. -/
structure EntryProvenance (actions : List WriterAction) (poolType : PoolType)
    (upstream : UpstreamInfo) : Prop where
  named : upstream.poolType = poolType
  resolved : ResolvedIn actions poolType upstream.addr
  /-- discovery enters it as unknown, and only a poll result changes that -/
  seen : upstream.report = .unreported ∧ RefreshedIn actions upstream.lastSeen ∨
    ReportedIn actions upstream.addr upstream.report upstream.lastSeen
  window : ∀ deadline, upstream.cooldownUntil = some deadline →
    ∃ duration start, TripStartedIn actions upstream.addr duration start ∧
      0 < duration ∧ deadline = start + duration

/-- Every entry of the snapshot was written by the run. -/
def SnapshotProvenance (actions : List WriterAction) (snapshot : PoolSnapshot) : Prop :=
  ∀ poolType, ∀ upstream ∈ snapshot.pool poolType,
    EntryProvenance actions poolType upstream

/-- Where a `trip` call on its way comes from. -/
def TripCall.Provenance (actions : List WriterAction) : TripCall → Prop
  | .started addr duration now => TripStartedIn actions addr duration now ∧ 0 < duration
  | .passed addr deadline =>
      ∃ duration start, TripStartedIn actions addr duration start ∧ 0 < duration ∧
        deadline = start + duration

/-- The same of everything that is still to be stored. -/
structure RunProvenance (actions : List WriterAction) (state : RouterState) : Prop where
  pool : state.pool.Settled (SnapshotProvenance actions) fun _ => SnapshotProvenance actions
  answers : ∀ poolType addrs, state.answer poolType = .resolved addrs →
    ∀ addr ∈ addrs, ResolvedIn actions poolType addr
  results : state.pollResults = [] ∨ .pollLoad state.pollResults ∈ actions
  trips : ∀ call ∈ state.trips, call.Provenance actions

section Monotone

variable {actions : List WriterAction} {poolType : PoolType} {addr : SocketAddr}

theorem ResolvedIn.append (resolved : ResolvedIn actions poolType addr)
    (later : List WriterAction) : ResolvedIn (actions ++ later) poolType addr := by
  obtain ⟨gpuResult, cpuResult, addrs, loaded, answer, listed⟩ := resolved
  exact ⟨gpuResult, cpuResult, addrs, List.mem_append_left _ loaded, answer, listed⟩

theorem ReportedIn.append {report : HealthReport} {seen : Instant}
    (reported : ReportedIn actions addr report seen) (later : List WriterAction) :
    ReportedIn (actions ++ later) addr report seen := by
  obtain ⟨state, performed, clock, loaded, found⟩ := reported
  exact ⟨state, performed.append later, clock, List.mem_append_left _ loaded, found⟩

theorem RefreshedIn.append {seen : Instant} (refreshed : RefreshedIn actions seen)
    (later : List WriterAction) : RefreshedIn (actions ++ later) seen := by
  obtain ⟨state, performed, clock⟩ := refreshed
  exact ⟨state, performed.append later, clock⟩

theorem TripStartedIn.append {duration : Duration} {start : Instant}
    (started : TripStartedIn actions addr duration start) (later : List WriterAction) :
    TripStartedIn (actions ++ later) addr duration start := by
  obtain ⟨state, performed, clock⟩ := started
  exact ⟨state, performed.append later, clock⟩

theorem EntryProvenance.append {upstream : UpstreamInfo}
    (entry : EntryProvenance actions poolType upstream) (later : List WriterAction) :
    EntryProvenance (actions ++ later) poolType upstream where
  named := entry.named
  resolved := entry.resolved.append later
  seen := entry.seen.imp (fun fresh => ⟨fresh.1, fresh.2.append later⟩)
    fun reported => reported.append later
  window := by
    intro deadline window
    obtain ⟨duration, start, started, rest⟩ := entry.window deadline window
    exact ⟨duration, start, started.append later, rest⟩

theorem SnapshotProvenance.append {snapshot : PoolSnapshot}
    (provenance : SnapshotProvenance actions snapshot) (later : List WriterAction) :
    SnapshotProvenance (actions ++ later) snapshot :=
  fun poolType upstream member => (provenance poolType upstream member).append later

theorem TripCall.Provenance.append {call : TripCall} (provenance : call.Provenance actions)
    (later : List WriterAction) : call.Provenance (actions ++ later) := by
  cases call with
  | started addr duration now => exact ⟨provenance.1.append later, provenance.2⟩
  | passed addr deadline =>
      obtain ⟨duration, start, started, rest⟩ := provenance
      exact ⟨duration, start, started.append later, rest⟩

theorem RunProvenance.append {state : RouterState} (provenance : RunProvenance actions state)
    (later : List WriterAction) : RunProvenance (actions ++ later) state where
  pool := ⟨provenance.pool.current.append later, fun task base loaded =>
    (provenance.pool.loaded task base loaded).append later⟩
  answers := fun poolType addrs answer addr listed =>
    (provenance.answers poolType addrs answer addr listed).append later
  results := provenance.results.imp id fun loaded => List.mem_append_left _ loaded
  trips := fun call member => (provenance.trips call member).append later

end Monotone

section Updates

variable {actions : List WriterAction} {snapshot : PoolSnapshot} {now : Instant}

theorem provenance_merge {gpuResult cpuResult : ResolveResult}
    (provenance : SnapshotProvenance actions snapshot)
    (answers : ∀ poolType addrs, resultFor gpuResult cpuResult poolType = .resolved addrs →
      ∀ addr ∈ addrs, ResolvedIn actions poolType addr)
    (refreshed : RefreshedIn actions now) :
    SnapshotProvenance actions (merge snapshot gpuResult cpuResult now) := by
  intro poolType upstream member
  rw [merge_pool] at member
  cases answer : resultFor gpuResult cpuResult poolType with
  | failed =>
      rw [answer] at member
      exact provenance poolType upstream member
  | resolved addrs =>
      rw [answer] at member
      obtain ⟨addr, listed, rfl⟩ := List.mem_map.mp member
      cases found : (snapshot.pool poolType).find? fun upstream =>
          decide (upstream.addr = addr) with
      | some earlier => exact provenance poolType earlier (List.mem_of_find?_eq_some found)
      | none =>
          exact {
            named := rfl
            resolved := answers poolType addrs answer addr listed
            seen := Or.inl ⟨rfl, refreshed⟩
            window := nofun }

theorem provenance_applyUpdates {results : List PollResult}
    (provenance : SnapshotProvenance actions snapshot)
    (reported : ∀ result ∈ results, ReportedIn actions result.addr result.report now) :
    SnapshotProvenance actions (applyUpdates snapshot results now) := by
  intro poolType upstream member
  rw [applyUpdates_pool, updatePool_eq_map] at member
  obtain ⟨earlier, earlierMember, rfl⟩ := List.mem_map.mp member
  have before := provenance poolType earlier earlierMember
  cases found : results.find? fun result => decide (result.addr = earlier.addr) with
  | none =>
      rw [updateEntry, found]
      exact before
  | some result =>
      have sameAddr : result.addr = earlier.addr := KeyedLists.key_of_find? found
      have heard := reported result (List.mem_of_find?_eq_some found)
      rw [sameAddr] at heard
      rw [updateEntry, found]
      exact {
        named := before.named
        resolved := before.resolved
        seen := Or.inr heard
        window := before.window }

/-- Of the windows of a pool, a trip writes those of its address only. -/
theorem origin_of_mem_tripPool {addr : SocketAddr} {deadline : Instant}
    {pool : List UpstreamInfo} {upstream : UpstreamInfo}
    (member : upstream ∈ (tripPool addr deadline now pool).1) :
    upstream ∈ pool ∨ ∃ earlier ∈ pool, earlier.addr = addr ∧
      upstream = { earlier with cooldownUntil := some deadline } := by
  induction pool with
  | nil => exact Or.inl member
  | cons head rest ih =>
      by_cases same : head.addr = addr
      · cases cooling : head.isInCooldown now with
        | true =>
            rw [tripPool_cons_of_cooling same cooling] at member
            exact Or.inl member
        | false =>
            rw [tripPool_cons_of_idle same cooling] at member
            rcases List.mem_cons.mp member with rfl | inRest
            · exact Or.inr ⟨head, List.mem_cons_self, same, rfl⟩
            · exact Or.inl (List.mem_cons_of_mem _ inRest)
      · rw [tripPool_cons_of_ne same] at member
        rcases List.mem_cons.mp member with rfl | inRest
        · exact Or.inl List.mem_cons_self
        · rcases ih inRest with kept | ⟨earlier, listed, tripped⟩
          · exact Or.inl (List.mem_cons_of_mem _ kept)
          · exact Or.inr ⟨earlier, List.mem_cons_of_mem _ listed, tripped⟩

theorem provenance_tripRcu {addr : SocketAddr} {deadline : Instant}
    (provenance : SnapshotProvenance actions snapshot)
    (called : (TripCall.passed addr deadline).Provenance actions) :
    SnapshotProvenance actions (tripRcu snapshot addr deadline now) := by
  intro poolType upstream member
  rw [tripRcu_pool] at member
  rcases origin_of_mem_tripPool member with kept | ⟨earlier, listed, rfl, rfl⟩
  · exact provenance poolType upstream kept
  · have before := provenance poolType earlier listed
    obtain ⟨duration, start, started, positive, ends⟩ := called
    refine ⟨before.named, before.resolved, before.seen, fun window same => ?_⟩
    obtain rfl := Option.some.inj same
    exact ⟨duration, start, started, positive, ends⟩

end Updates

section Runs

variable {actions : List WriterAction} {state next : RouterState} {action : WriterAction}

theorem initial_runProvenance : RunProvenance [] .initial where
  pool := by
    constructor
    · intro poolType upstream member
      cases poolType <;> cases member
    · intro task base loaded
      cases loaded
  answers := by
    intro poolType addrs answer
    cases poolType <;> cases answer
  results := Or.inl rfl
  trips := nofun

/-- The calls on their way keep their provenance. -/
theorem tripProvenance_of_step (reached : run writerStep .initial actions = some state)
    (before : ∀ call ∈ state.trips, call.Provenance actions)
    (enabled : writerStep state action = some next) :
    ∀ call ∈ next.trips, call.Provenance (actions ++ [action]) := by
  intro call member
  cases tripOrigin_of_step enabled member with
  | kept pending => exact (before call pending).append [action]
  | started addr positive =>
      exact ⟨⟨state, performed_concat reached _, rfl⟩, positive⟩
  | passed pending =>
      obtain ⟨started, positive⟩ := (before _ pending).append [_]
      exact ⟨_, _, started, positive, rfl⟩

theorem answersResolved_of_step
    (before : ∀ poolType addrs, state.answer poolType = .resolved addrs →
      ∀ addr ∈ addrs, ResolvedIn actions poolType addr)
    (enabled : writerStep state action = some next) :
    ∀ poolType addrs, next.answer poolType = .resolved addrs →
      ∀ addr ∈ addrs, ResolvedIn (actions ++ [action]) poolType addr := by
  intro poolType addrs answer addr listed
  rcases answer_of_step enabled with same | ⟨gpuResult, cpuResult, rfl, loaded⟩
  · rw [same] at answer
    exact (before poolType addrs answer addr listed).append [action]
  · rw [loaded] at answer
    exact ⟨gpuResult, cpuResult, addrs, by simp, answer, listed⟩

theorem RunProvenance.step (reached : run writerStep .initial actions = some state)
    (provenance : RunProvenance actions state)
    (enabled : writerStep state action = some next) :
    RunProvenance (actions ++ [action]) next where
  pool := by
    refine settled_of_step (provenance.append [action]).pool enabled ?_ ?_ ?_
    · rintro rfl base before
      exact provenance_merge before (provenance.append _).answers
        ⟨state, performed_concat reached _, rfl⟩
    · rintro rfl base before
      refine provenance_applyUpdates before fun result member => ?_
      refine ⟨state, performed_concat reached _, rfl, ?_, result, member, rfl, rfl⟩
      rcases provenance.results with none | heard
      · rw [none] at member
        cases member
      · exact List.mem_append_left _ heard
    · intro addr deadline pending base before
      exact provenance_tripRcu before ((provenance.append _).trips _ pending)
  answers := answersResolved_of_step provenance.answers enabled
  results := by
    rcases pollResults_of_step enabled with same | rfl
    · rw [same]
      exact provenance.results.imp id fun heard => List.mem_append_left _ heard
    · exact Or.inr (by simp)
  trips := tripProvenance_of_step reached provenance.trips enabled

theorem runProvenance_of_run (reaches : run writerStep .initial actions = some state) :
    RunProvenance actions state :=
  history_of_step RunProvenance
    (fun _ _ _ _ reached provenance enabled => provenance.step reached enabled)
    initial_runProvenance reaches

/-- What a run performed was performed no later than its end. -/
theorem clock_le_of_performed {visited : RouterState}
    (performed : Performed writerStep .initial actions visited action)
    (reaches : run writerStep .initial actions = some state) :
    visited.clock ≤ state.clock := by
  obtain ⟨after, rest, enabled, onward⟩ := performed.enabled reaches
  exact Nat.le_trans (clock_le_of_step enabled) (clock_le_of_run onward)

theorem ReportedIn.seen_le {addr : SocketAddr} {report : HealthReport} {seen : Instant}
    (reported : ReportedIn actions addr report seen)
    (reaches : run writerStep .initial actions = some state) : seen ≤ state.clock := by
  obtain ⟨visited, performed, rfl, -⟩ := reported
  exact clock_le_of_performed performed reaches

theorem RefreshedIn.seen_le {seen : Instant} (refreshed : RefreshedIn actions seen)
    (reaches : run writerStep .initial actions = some state) : seen ≤ state.clock := by
  obtain ⟨visited, performed, rfl⟩ := refreshed
  exact clock_le_of_performed performed reaches

theorem TripStartedIn.start_le {addr : SocketAddr} {duration : Duration} {start : Instant}
    (started : TripStartedIn actions addr duration start)
    (reaches : run writerStep .initial actions = some state) : start ≤ state.clock := by
  obtain ⟨visited, performed, rfl⟩ := started
  exact clock_le_of_performed performed reaches

theorem EntryProvenance.lastSeen_le {poolType : PoolType} {upstream : UpstreamInfo}
    (entry : EntryProvenance actions poolType upstream)
    (reaches : run writerStep .initial actions = some state) :
    upstream.lastSeen ≤ state.clock := by
  rcases entry.seen with ⟨-, refreshed⟩ | reported
  · exact refreshed.seen_le reaches
  · exact reported.seen_le reaches

/-- What is selected was resolved under the name of its pool, and some poll of
it reported that it accepts requests. -/
structure SelectionProvenance (actions : List WriterAction) (now : Instant)
    (chosen : SocketAddr × PoolType) : Prop where
  resolved : ResolvedIn actions chosen.2 chosen.1
  reported : ∃ report seen, ReportedIn actions chosen.1 report seen ∧ seen ≤ now ∧
    report.Accepting

theorem selectionProvenance_of_selectedAt
    (reaches : run writerStep .initial actions = some state) {now : Instant}
    {chosen : SocketAddr × PoolType} (selected : SelectedAt state.snapshot now chosen) :
    SelectionProvenance actions state.clock chosen := by
  obtain ⟨upstream, member, sameAddr, routable⟩ := picksRoutable_of_selectedAt selected
  have entry := (runProvenance_of_run reaches).pool.current chosen.2 upstream member
  constructor
  · rw [← sameAddr]
    exact entry.resolved
  · rcases entry.seen with ⟨unreported, -⟩ | reported
    · have accepting := routable.accepting
      rw [unreported] at accepting
      exact absurd accepting HealthReport.not_accepting_unreported
    · rw [← sameAddr]
      exact ⟨_, _, reported, reported.seen_le reaches, routable.accepting⟩

/-- **Nothing in the snapshot is made up.**  This holds of every interleaving,
also of those that lose updates, and of the snapshots that background tasks
have loaded and not stored yet. -/
theorem writerRun_provenance {actions : List WriterAction} {state : RouterState}
    (reaches : run writerStep .initial actions = some state) :
    SnapshotProvenance actions state.snapshot ∧
      (∀ task base, state.pool.loaded task = some base → SnapshotProvenance actions base) ∧
      (∀ poolType, ∀ upstream ∈ state.snapshot.pool poolType,
        upstream.lastSeen ≤ state.clock) ∧
      ∀ now chosen, SelectedAt state.snapshot now chosen →
        SelectionProvenance actions state.clock chosen := by
  have provenance := (runProvenance_of_run reaches).pool
  refine ⟨provenance.current, provenance.loaded, ?_, ?_⟩
  · intro poolType upstream member
    exact (provenance.current poolType upstream member).lastSeen_le reaches
  · intro now chosen selected
    exact selectionProvenance_of_selectedAt reaches selected

/-- A trip and a poll that was in flight when the trip set its window. -/
theorem writerRun_provenance_pollInFlight :
    ∃ state, run writerStep .initial (pollInFlight ++
        [.tripStart .sampleGpu 30, .tripFastPath 0, .tick 1, .tripRcu 0, .pollStore]) =
          some state ∧
      state.snapshot.gpu = [⟨.sampleGpu, .gpu, .ok, 0, 1, 1, none⟩] ∧
      SnapshotProvenance (pollInFlight ++
        [.tripStart .sampleGpu 30, .tripFastPath 0, .tick 1, .tripRcu 0, .pollStore])
        state.snapshot :=
  ⟨_, rfl, by decide, (writerRun_provenance rfl).1⟩

end Runs

end BgeRouter
