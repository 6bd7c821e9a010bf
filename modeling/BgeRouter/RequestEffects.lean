import BgeRouter.CircuitBreaker
import BgeRouter.RetryLoop
import BgeRouter.RoutingPolicy

/-!
# What a request does to the pool

While a request is served, the only changes that it makes to the snapshot are
its trips.  A request sees what its loads show: its own trips, and whatever
other tasks store in between.
-/

namespace BgeRouter

/-- The snapshot after these trips, each with its steps taken at one instant. -/
def applyTrips (snapshot : PoolSnapshot)
    (trips : List (Instant × SocketAddr × Duration)) : PoolSnapshot :=
  trips.foldl (fun current made => trip current made.2.1 made.2.2 made.1) snapshot

/-- The snapshot that a request leaves behind if nobody else writes. -/
def poolAfter (snapshot : PoolSnapshot) (effects : List (Instant × RouterEffect)) :
    PoolSnapshot :=
  applyTrips snapshot (selected tripOf effects)

/-- What the loads of a request show: the number of earlier loads and what the
request has done so far determine the snapshot. -/
abbrev PoolReads := Nat → List (Instant × RouterEffect) → PoolSnapshot

/-- The request is the only one that writes the pool. -/
def PoolReads.alone (snapshot : PoolSnapshot) : PoolReads :=
  fun _ effects => poolAfter snapshot effects

@[simp]
theorem applyTrips_nil (snapshot : PoolSnapshot) : applyTrips snapshot [] = snapshot :=
  rfl

@[simp]
theorem applyTrips_cons (snapshot : PoolSnapshot) (time : Instant) (addr : SocketAddr)
    (duration : Duration) (later : List (Instant × SocketAddr × Duration)) :
    applyTrips snapshot ((time, addr, duration) :: later) =
      applyTrips (trip snapshot addr duration time) later :=
  rfl

@[simp]
theorem poolAfter_nil (snapshot : PoolSnapshot) : poolAfter snapshot [] = snapshot :=
  rfl

theorem poolAfter_append (snapshot : PoolSnapshot)
    (first second : List (Instant × RouterEffect)) :
    poolAfter snapshot (first ++ second) = poolAfter (poolAfter snapshot first) second := by
  simp [poolAfter, applyTrips]

section Trips

variable {snapshot : PoolSnapshot} {trips : List (Instant × SocketAddr × Duration)}

theorem distinctAddresses_applyTrips (distinct : snapshot.DistinctAddresses) :
    (applyTrips snapshot trips).DistinctAddresses := by
  induction trips generalizing snapshot with
  | nil => exact distinct
  | cons made later ih => exact ih (distinctAddresses_trip distinct)

/-- What the trips make of an entry that they all find idle. -/
def setWindows (trips : List (Instant × SocketAddr × Duration)) (upstream : UpstreamInfo) :
    UpstreamInfo :=
  trips.foldl (fun current made => setWindow made.2.1 (made.1 + made.2.2) current) upstream

theorem setWindows_of_absent {upstream : UpstreamInfo}
    (absent : ∀ made ∈ trips, made.2.1 ≠ upstream.addr) :
    setWindows trips upstream = upstream := by
  induction trips with
  | nil => rfl
  | cons made later ih =>
      have headNe : upstream.addr ≠ made.2.1 := (absent made List.mem_cons_self).symm
      have rest := ih fun other member => absent other (List.mem_cons_of_mem _ member)
      rw [setWindows, List.foldl_cons, setWindow, if_neg headNe]
      exact rest

/-- Of trips of different addresses, an entry gets the window of the one that
is its own. -/
theorem setWindows_of_mem {upstream : UpstreamInfo} {time : Instant} {duration : Duration}
    (fresh : (trips.map fun made => made.2.1).Nodup)
    (member : (time, upstream.addr, duration) ∈ trips) :
    setWindows trips upstream =
      { upstream with cooldownUntil := some (time + duration) } := by
  induction trips with
  | nil => cases member
  | cons made later ih =>
      rw [List.map_cons, List.nodup_cons] at fresh
      rw [setWindows, List.foldl_cons]
      rcases List.mem_cons.mp member with rfl | inLater
      · rw [setWindow, if_pos rfl]
        refine setWindows_of_absent fun other otherMember same => ?_
        exact fresh.1 (List.mem_map.mpr ⟨other, otherMember, same⟩)
      · have headNe : upstream.addr ≠ made.2.1 := by
          intro same
          rw [← same] at fresh
          exact fresh.1 (List.mem_map.mpr ⟨_, inLater, rfl⟩)
        rw [setWindow, if_neg headNe]
        exact ih fresh.2 inLater

/-- Trips of different idle addresses rewrite the windows of their entries and
nothing else. -/
theorem applyTrips_pool (distinct : snapshot.DistinctAddresses)
    (fresh : (trips.map fun made => made.2.1).Nodup)
    (effective : ∀ made ∈ trips, 0 < made.2.2 ∧ IdleAddress snapshot made.2.1 made.1)
    (poolType : PoolType) :
    (applyTrips snapshot trips).pool poolType =
      (snapshot.pool poolType).map (setWindows trips) := by
  induction trips generalizing snapshot with
  | nil => exact (List.map_id _).symm
  | cons made later ih =>
      rw [List.map_cons, List.nodup_cons] at fresh
      obtain ⟨positive, idle⟩ := effective made List.mem_cons_self
      have laterEffective : ∀ other ∈ later, 0 < other.2.2 ∧
          IdleAddress (trip snapshot made.2.1 made.2.2 made.1) other.2.1 other.1 := by
        intro other member
        obtain ⟨otherPositive, otherIdle⟩ := effective other (List.mem_cons_of_mem _ member)
        have ne : other.2.1 ≠ made.2.1 :=
          fun same => fresh.1 (same ▸ List.mem_map_of_mem member)
        exact ⟨otherPositive, (idleAddress_trip_iff_of_ne ne).mpr otherIdle⟩
      have rest := ih (distinctAddresses_trip distinct) fresh.2 laterEffective
      rw [trip_pool_of_idle positive distinct idle, List.map_map] at rest
      exact rest

end Trips

section Selection

variable {snapshot : PoolSnapshot} {addr : SocketAddr} {poolType : PoolType}
  {now : Instant}

theorem PicksRoutable.listed (picked : PicksRoutable snapshot now (addr, poolType)) :
    addr ∈ addresses (snapshot.pool poolType) := by
  obtain ⟨upstream, member, same, -⟩ := picked
  exact mem_addresses.mpr ⟨upstream, member, same⟩

/-- With distinct addresses nothing of a selected address is in cooldown. -/
theorem PicksRoutable.idle (picked : PicksRoutable snapshot now (addr, poolType))
    (distinct : snapshot.DistinctAddresses) : IdleAddress snapshot addr now := by
  obtain ⟨upstream, member, same, routable⟩ := picked
  intro other otherMember otherSame
  obtain ⟨otherPool, otherMember⟩ := PoolSnapshot.mem_entries.mp otherMember
  obtain ⟨-, rfl⟩ := distinct.unique member otherMember (same.trans otherSame.symm)
  exact routable.not_inCooldown

/-- A window that reaches beyond an instant keeps its address from being
selected at that instant. -/
theorem not_picksRoutable_of_window (distinct : snapshot.DistinctAddresses)
    {deadline : Instant} {windowPool : PoolType}
    (window : cooldownOf (snapshot.pool windowPool) addr = some deadline)
    (ahead : now < deadline) : ¬ PicksRoutable snapshot now (addr, poolType) := by
  rintro ⟨upstream, member, rfl, routable⟩
  have listed : upstream.addr ∈ addresses (snapshot.pool windowPool) := by
    by_contra absent
    rw [cooldownOf_of_not_mem absent] at window
    cases window
  obtain ⟨cooled, cooledMember, same⟩ := mem_addresses.mp listed
  obtain ⟨rfl, rfl⟩ := distinct.unique cooledMember member same
  rw [cooldownOf_of_mem (distinct.pool _) member] at window
  have cooling := isInCooldown_iff.mpr ⟨deadline, window, ahead⟩
  rw [routable.not_inCooldown] at cooling
  exact Bool.noConfusion cooling

end Selection

end BgeRouter
