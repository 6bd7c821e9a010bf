import BgeRouter.PoolProvenance
import BgeRouter.TimedLoops

/-!
# How long known windows last

Besides the shared snapshot, windows are known to tasks that have loaded a
snapshot and not stored it yet, and to `trip` calls on their way.  While no
trip starts, no interleaving of these makes a window that ends later than those
that are known.
-/

namespace BgeRouter

open PartialRuns

/-- Every window ends by then. -/
def EndsBy (deadline : Instant) (snapshot : PoolSnapshot) : Prop :=
  ∀ poolType, ∀ upstream ∈ snapshot.pool poolType,
    ∀ window, upstream.cooldownUntil = some window → window ≤ deadline

/-- The window that the call is going to set ends by then. -/
def TripCall.EndsBy (deadline : Instant) : TripCall → Prop
  | .started _ duration now => now + duration ≤ deadline
  | .passed _ window => window ≤ deadline

/-- So do all windows that are known anywhere. -/
structure WindowsEndBy (deadline : Instant) (state : RouterState) : Prop where
  pool : state.pool.Settled (EndsBy deadline) fun _ => EndsBy deadline
  trips : ∀ call ∈ state.trips, call.EndsBy deadline

section Updates

variable {deadline now : Instant} {snapshot : PoolSnapshot}

theorem endsBy_merge {gpuResult cpuResult : ResolveResult} (ends : EndsBy deadline snapshot) :
    EndsBy deadline (merge snapshot gpuResult cpuResult now) := by
  intro poolType upstream member window cooling
  rw [merge_pool] at member
  cases answer : resultFor gpuResult cpuResult poolType with
  | failed =>
      rw [answer] at member
      exact ends poolType upstream member window cooling
  | resolved addrs =>
      rw [answer] at member
      obtain ⟨addr, listed, rfl⟩ := List.mem_map.mp member
      cases found : (snapshot.pool poolType).find? fun upstream =>
          decide (upstream.addr = addr) with
      | none =>
          rw [found] at cooling
          cases cooling
      | some earlier =>
          rw [found] at cooling
          exact ends poolType earlier (List.mem_of_find?_eq_some found) window cooling

theorem endsBy_applyUpdates {results : List PollResult} (ends : EndsBy deadline snapshot) :
    EndsBy deadline (applyUpdates snapshot results now) := by
  intro poolType upstream member window cooling
  rw [applyUpdates_pool, updatePool_eq_map] at member
  obtain ⟨earlier, earlierMember, rfl⟩ := List.mem_map.mp member
  refine ends poolType earlier earlierMember window ?_
  rw [← cooling, updateEntry]
  cases results.find? fun result => decide (result.addr = earlier.addr) <;> rfl

theorem endsBy_tripRcu {addr : SocketAddr} {window : Instant} (ends : EndsBy deadline snapshot)
    (inTime : window ≤ deadline) : EndsBy deadline (tripRcu snapshot addr window now) := by
  intro poolType upstream member other cooling
  rw [tripRcu_pool] at member
  rcases origin_of_mem_tripPool member with kept | ⟨earlier, -, -, rfl⟩
  · exact ends poolType upstream kept other cooling
  · obtain rfl := Option.some.inj cooling
    exact inTime

end Updates

section Steps

variable {deadline : Instant} {state next : RouterState} {action : WriterAction}

/-- A trip that starts here ends its window by then. -/
def TripsEndBy (deadline : Instant) (state : RouterState) (action : WriterAction) : Prop :=
  ∀ addr duration, action = .tripStart addr duration → 0 < duration →
    state.clock + duration ≤ deadline

theorem WindowsEndBy.mono {later : Instant} (ends : WindowsEndBy deadline state)
    (order : deadline ≤ later) : WindowsEndBy later state where
  pool := ⟨fun poolType upstream member window cooling =>
      Nat.le_trans (ends.pool.current poolType upstream member window cooling) order,
    fun task base loaded poolType upstream member window cooling =>
      Nat.le_trans (ends.pool.loaded task base loaded poolType upstream member window cooling)
        order⟩
  trips := by
    intro call member
    have own := ends.trips call member
    cases call with
    | started => exact Nat.le_trans own order
    | passed => exact Nat.le_trans own order

theorem WindowsEndBy.step (ends : WindowsEndBy deadline state)
    (enabled : writerStep state action = some next)
    (trips : TripsEndBy deadline state action) : WindowsEndBy deadline next where
  pool := settled_of_step ends.pool enabled (fun _ _ own => endsBy_merge own)
    (fun _ _ own => endsBy_applyUpdates own)
    fun _ _ pending _ own => endsBy_tripRcu own (ends.trips _ pending)
  trips := by
    intro call member
    cases tripOrigin_of_step enabled member with
    | kept pending => exact ends.trips call pending
    | started addr positive => exact trips addr _ rfl positive
    | passed pending =>
        have started := ends.trips _ pending
        exact started

theorem windowsEndBy_initial : WindowsEndBy deadline .initial where
  pool := by
    constructor
    · intro poolType upstream member
      cases poolType <;> cases member
    · intro task base loaded
      cases loaded
  trips := nofun

/-- Out of reach of every known window nothing is cooling down. -/
theorem EndsBy.idle {snapshot : PoolSnapshot} (ends : EndsBy deadline snapshot) {now : Instant}
    (passed : deadline ≤ now) {upstream : UpstreamInfo} (member : upstream ∈ snapshot.entries) :
    upstream.isInCooldown now = false := by
  obtain ⟨poolType, listed⟩ := PoolSnapshot.mem_entries.mp member
  rw [← Bool.not_eq_true, isInCooldown_iff]
  rintro ⟨window, cooling, ahead⟩
  have inTime := ends poolType upstream listed window cooling
  exact Nat.lt_irrefl now (Nat.lt_of_lt_of_le ahead (Nat.le_trans inTime passed))

end Steps

section Loops

variable {config : Config} {interval : Interval} {lag limit deadline : Duration}
  {state next : LoopsState} {action : LoopsAction} {actions : List LoopsAction}

/-- A step of the loops that starts no longer trip. -/
def TripsWithin (limit : Duration) (action : LoopsAction) : Prop :=
  ∀ addr duration, action = .tripStart addr duration → 0 < duration → duration ≤ limit

theorem WindowsEndBy.loops_step (ends : WindowsEndBy deadline state.router)
    (enabled : loopsStep config interval lag state action = some next)
    (trips : ∀ addr duration, action = .tripStart addr duration → 0 < duration →
      state.clock + duration ≤ deadline) : WindowsEndBy deadline next.router := by
  cases loopsStep_transition enabled with
  | resolve => exact ends
  | trip isTrip writes steps =>
      refine ends.step steps ?_
      rintro addr duration rfl positive
      cases action with
      | tripStart =>
          obtain ⟨rfl, rfl⟩ := WriterAction.tripStart.inj (List.singleton_inj.mp writes)
          exact trips _ _ rfl positive
      | tripFastPath => cases List.singleton_inj.mp writes
      | tripRcu => cases List.singleton_inj.mp writes
      | _ => cases isTrip
  | tick _ _ steps => exact ends.step steps nofun
  | refreshLoad _ _ steps => exact ends.step steps nofun
  | refreshStore _ steps => exact ends.step steps nofun
  | pollStart _ _ _ _ steps => exact ends.step steps nofun
  | pollLoad _ _ steps => exact ends.step steps nofun
  | pollStore _ steps => exact ends.step steps nofun

theorem clock_le_of_loopsStep (enabled : loopsStep config interval lag state action = some next) :
    state.clock ≤ next.clock :=
  clock_le_of_run (loopsStep_writes enabled)

/-- No window is ever known that ends later than the longest trip from now on. -/
theorem windowsEndBy_of_run
    (bounded : ∀ action ∈ actions, TripsWithin limit action)
    (reaches : run (loopsStep config interval lag) .initial actions = some state) :
    WindowsEndBy (state.clock + limit) state.router := by
  refine invariant_of_actions (fun state => WindowsEndBy (state.clock + limit) state.router)
    (TripsWithin limit) ?_ windowsEndBy_initial bounded reaches
  intro state action next ends enabled within
  have order := Nat.add_le_add_right (clock_le_of_loopsStep enabled) limit
  refine (ends.loops_step enabled ?_).mono order
  intro addr duration same positive
  exact Nat.add_le_add_left (within addr duration same positive) _

/-- While no trip starts, the known windows are all there are. -/
theorem WindowsEndBy.run (ends : WindowsEndBy deadline state.router)
    (quiet : ∀ action ∈ actions, TripsWithin 0 action)
    (reaches : run (loopsStep config interval lag) state actions = some next) :
    WindowsEndBy deadline next.router := by
  refine invariant_of_actions (fun state => WindowsEndBy deadline state.router)
    (TripsWithin 0) ?_ ends quiet reaches
  intro state action next ends enabled none
  refine ends.loops_step enabled ?_
  intro addr duration same positive
  exact absurd (none addr duration same positive) (Nat.not_le_of_lt positive)

end Loops

end BgeRouter
