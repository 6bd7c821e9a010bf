import BgeRouter.UpstreamSnapshot

/-!
# Circuit breaker

`trip` takes an upstream out of routing for a while.  A call reads the clock,
skips when some entry of the address is cooling down already, and otherwise
replaces the snapshot in one read-modify-write that sets the end of the window
on the first entry of each pool.  The two halves are separate functions, since
other tasks may run between them.
-/

namespace BgeRouter

/-- Sets the window of the first entry for `addr`, unless that entry is
cooling down; the flag tells whether anything changed. -/
def tripPool (addr : SocketAddr) (deadline now : Instant) :
    List UpstreamInfo → List UpstreamInfo × Bool
  | [] => ([], false)
  | upstream :: rest =>
      if upstream.addr = addr then
        if upstream.isInCooldown now then (upstream :: rest, false)
        else ({ upstream with cooldownUntil := some deadline } :: rest, true)
      else
        let (restNext, changed) := tripPool addr deadline now rest
        (upstream :: restNext, changed)

/-- Gives the entries of an address a new window. -/
def setWindow (addr : SocketAddr) (deadline : Instant) (upstream : UpstreamInfo) :
    UpstreamInfo :=
  if upstream.addr = addr then { upstream with cooldownUntil := some deadline } else upstream

/-- Gives an entry of the address a new window unless it is cooling down. -/
def tripEntry (addr : SocketAddr) (deadline now : Instant) (upstream : UpstreamInfo) :
    UpstreamInfo :=
  if upstream.isInCooldown now then upstream else setWindow addr deadline upstream

/-- The fast-path test: some entry of either pool has the address and is
cooling down. -/
def alreadyCooled (snapshot : PoolSnapshot) (addr : SocketAddr) (now : Instant) : Bool :=
  snapshot.entries.any fun upstream =>
    decide (upstream.addr = addr) && upstream.isInCooldown now

def IdleAddress (snapshot : PoolSnapshot) (addr : SocketAddr) (now : Instant) : Prop :=
  ∀ upstream ∈ snapshot.entries, upstream.addr = addr → upstream.isInCooldown now = false

instance (snapshot : PoolSnapshot) (addr : SocketAddr) (now : Instant) :
    Decidable (IdleAddress snapshot addr now) :=
  inferInstanceAs (Decidable (∀ upstream ∈ snapshot.entries, _))

/-- The closure that `trip` hands to `rcu`, with its own reading of the clock. -/
def tripRcu (snapshot : PoolSnapshot) (addr : SocketAddr) (deadline now : Instant) :
    PoolSnapshot :=
  let (gpu, gpuChanged) := tripPool addr deadline now snapshot.gpu
  let (cpu, cpuChanged) := tripPool addr deadline now snapshot.cpu
  { gpu := gpu
    cpu := cpu
    updatedAt := if gpuChanged || cpuChanged then now else snapshot.updatedAt }

/-- A whole `trip` call with every step taken at the instant `now`. -/
def trip (snapshot : PoolSnapshot) (addr : SocketAddr) (duration : Duration)
    (now : Instant) : PoolSnapshot :=
  if duration = 0 then snapshot
  else if alreadyCooled snapshot addr now then snapshot
  else tripRcu snapshot addr (now + duration) now

section TripPool

variable {addr other : SocketAddr} {deadline now : Instant} {pool : List UpstreamInfo}

@[simp]
theorem tripPool_nil : tripPool addr deadline now [] = ([], false) :=
  rfl

theorem tripPool_cons_of_ne {upstream : UpstreamInfo} (ne : upstream.addr ≠ addr) :
    tripPool addr deadline now (upstream :: pool) =
      (upstream :: (tripPool addr deadline now pool).1,
        (tripPool addr deadline now pool).2) := by
  simp [tripPool, ne]

theorem tripPool_cons_of_cooling {upstream : UpstreamInfo} (same : upstream.addr = addr)
    (cooling : upstream.isInCooldown now = true) :
    tripPool addr deadline now (upstream :: pool) = (upstream :: pool, false) := by
  simp [tripPool, same, cooling]

theorem tripPool_cons_of_idle {upstream : UpstreamInfo} (same : upstream.addr = addr)
    (idle : upstream.isInCooldown now = false) :
    tripPool addr deadline now (upstream :: pool) =
      ({ upstream with cooldownUntil := some deadline } :: pool, true) := by
  simp [tripPool, same, idle]

@[simp]
theorem addresses_tripPool :
    addresses (tripPool addr deadline now pool).1 = addresses pool := by
  induction pool with
  | nil => rfl
  | cons upstream rest ih =>
      by_cases same : upstream.addr = addr
      · cases cooling : upstream.isInCooldown now with
        | true => rw [tripPool_cons_of_cooling same cooling]
        | false => rw [tripPool_cons_of_idle same cooling]; rfl
      · rw [tripPool_cons_of_ne same]
        simpa [addresses] using ih

/-- A trip of one address leaves every other address alone. -/
theorem cooldownOf_tripPool_of_ne (ne : other ≠ addr) :
    cooldownOf (tripPool addr deadline now pool).1 other = cooldownOf pool other := by
  induction pool with
  | nil => rfl
  | cons upstream rest ih =>
      by_cases same : upstream.addr = addr
      · have headNe : upstream.addr ≠ other := fun equal => ne (equal.symm.trans same)
        cases cooling : upstream.isInCooldown now with
        | true => rw [tripPool_cons_of_cooling same cooling]
        | false =>
            rw [tripPool_cons_of_idle same cooling, cooldownOf_cons, cooldownOf_cons,
              if_neg headNe, if_neg headNe]
      · rw [tripPool_cons_of_ne same, cooldownOf_cons, cooldownOf_cons, ih]

/-- A trip of one address neither changes nor adds entries of another. -/
theorem mem_tripPool_of_ne {upstream : UpstreamInfo} (ne : upstream.addr ≠ addr) :
    upstream ∈ (tripPool addr deadline now pool).1 ↔ upstream ∈ pool := by
  induction pool with
  | nil => rfl
  | cons head rest ih =>
      by_cases same : head.addr = addr
      · have headNe : upstream ≠ head := fun equal => ne (equal ▸ same)
        cases cooling : head.isInCooldown now with
        | true => rw [tripPool_cons_of_cooling same cooling]
        | false =>
            have updatedNe : upstream ≠ { head with cooldownUntil := some deadline } :=
              fun equal => ne (by rw [equal]; exact same)
            rw [tripPool_cons_of_idle same cooling, List.mem_cons, List.mem_cons]
            simp [headNe, updatedNe]
      · rw [tripPool_cons_of_ne same, List.mem_cons, List.mem_cons, ih]

/-- A trip changes nothing of an entry but its window. -/
theorem exists_of_mem_tripPool {upstream : UpstreamInfo}
    (member : upstream ∈ (tripPool addr deadline now pool).1) :
    ∃ earlier ∈ pool, ∃ window, upstream = { earlier with cooldownUntil := window } := by
  induction pool with
  | nil => simp at member
  | cons head rest ih =>
      have unchanged : ∀ other ∈ head :: rest, ∃ earlier ∈ head :: rest, ∃ window,
          other = { earlier with cooldownUntil := window } :=
        fun other listed => ⟨other, listed, other.cooldownUntil, rfl⟩
      by_cases same : head.addr = addr
      · cases cooling : head.isInCooldown now with
        | true =>
            rw [tripPool_cons_of_cooling same cooling] at member
            exact unchanged upstream member
        | false =>
            rw [tripPool_cons_of_idle same cooling] at member
            rcases List.mem_cons.mp member with rfl | inRest
            · exact ⟨head, List.mem_cons_self, some deadline, rfl⟩
            · exact unchanged upstream (List.mem_cons_of_mem _ inRest)
      · rw [tripPool_cons_of_ne same] at member
        rcases List.mem_cons.mp member with rfl | inRest
        · exact unchanged upstream List.mem_cons_self
        · obtain ⟨earlier, listed, changed⟩ := ih inRest
          exact ⟨earlier, List.mem_cons_of_mem _ listed, changed⟩

@[simp]
theorem addr_tripEntry (upstream : UpstreamInfo) :
    (tripEntry addr deadline now upstream).addr = upstream.addr := by
  rw [tripEntry, setWindow]
  split_ifs <;> rfl

theorem tripEntry_of_ne {upstream : UpstreamInfo} (ne : upstream.addr ≠ addr) :
    tripEntry addr deadline now upstream = upstream := by
  rw [tripEntry, setWindow, if_neg ne, ite_self]

theorem tripEntry_of_cooling {upstream : UpstreamInfo}
    (cooling : upstream.isInCooldown now = true) :
    tripEntry addr deadline now upstream = upstream :=
  if_pos cooling

theorem tripEntry_of_idle {upstream : UpstreamInfo}
    (idle : upstream.isInCooldown now = false) :
    tripEntry addr deadline now upstream = setWindow addr deadline upstream := by
  rw [tripEntry, idle]
  rfl

theorem tripPool_eq_map_tripEntry (distinct : (addresses pool).Nodup) :
    (tripPool addr deadline now pool).1 = pool.map (tripEntry addr deadline now) := by
  induction pool with
  | nil => rfl
  | cons head rest ih =>
      simp only [addresses, List.map_cons, List.nodup_cons] at distinct
      rw [List.map_cons]
      by_cases same : head.addr = addr
      · have untouched : rest.map (tripEntry addr deadline now) = rest := by
          refine (List.map_congr_left fun upstream member => ?_).trans (List.map_id rest)
          apply tripEntry_of_ne
          intro twin
          exact distinct.1 (same ▸ twin ▸ List.mem_map_of_mem member)
        rw [untouched]
        cases cooling : head.isInCooldown now with
        | true => rw [tripPool_cons_of_cooling same cooling, tripEntry_of_cooling cooling]
        | false =>
            rw [tripPool_cons_of_idle same cooling, tripEntry_of_idle cooling, setWindow,
              if_pos same]
      · rw [tripPool_cons_of_ne same, tripEntry_of_ne same, ih distinct.2]

theorem tripPool_eq_map (distinct : (addresses pool).Nodup)
    (idle : ∀ upstream ∈ pool, upstream.addr = addr → upstream.isInCooldown now = false) :
    (tripPool addr deadline now pool).1 = pool.map (setWindow addr deadline) := by
  rw [tripPool_eq_map_tripEntry distinct]
  apply List.map_congr_left
  intro upstream member
  by_cases same : upstream.addr = addr
  · exact tripEntry_of_idle (idle upstream member same)
  · rw [tripEntry_of_ne same, setWindow, if_neg same]

/-- An open window of the tripped address keeps its end. -/
theorem cooldownOf_tripPool_of_open
    (running : ∃ window, cooldownOf pool addr = some window ∧ now < window) :
    cooldownOf (tripPool addr deadline now pool).1 addr = cooldownOf pool addr := by
  induction pool with
  | nil => rfl
  | cons upstream rest ih =>
      obtain ⟨window, found, ahead⟩ := running
      rw [cooldownOf_cons] at found
      by_cases same : upstream.addr = addr
      · rw [if_pos same] at found
        have cooling : upstream.isInCooldown now = true :=
          isInCooldown_iff.mpr ⟨window, found, ahead⟩
        rw [tripPool_cons_of_cooling same cooling]
      · rw [if_neg same] at found
        rw [tripPool_cons_of_ne same, cooldownOf_cons, cooldownOf_cons, if_neg same,
          if_neg same, ih ⟨window, found, ahead⟩]

/-- When no entry of the address is cooling down, a trip brings all of them
into cooldown exactly when there is at most one. -/
theorem tripPool_cools_all_iff (ahead : now < deadline)
    (idle : ∀ upstream ∈ pool, upstream.addr = addr → upstream.isInCooldown now = false) :
    (∀ upstream ∈ (tripPool addr deadline now pool).1,
        upstream.addr = addr → upstream.isInCooldown now = true) ↔
      (addresses pool).count addr ≤ 1 := by
  induction pool with
  | nil => simp [addresses]
  | cons upstream rest ih =>
      have restIdle : ∀ upstream ∈ rest, upstream.addr = addr →
          upstream.isInCooldown now = false :=
        fun upstream member => idle upstream (List.mem_cons_of_mem _ member)
      by_cases same : upstream.addr = addr
      · rw [tripPool_cons_of_idle same (idle upstream List.mem_cons_self same)]
        have cooled : UpstreamInfo.isInCooldown
            { upstream with cooldownUntil := some deadline } now = true :=
          isInCooldown_iff.mpr ⟨deadline, rfl, ahead⟩
        have counted : (addresses (upstream :: rest)).count addr =
            (addresses rest).count addr + 1 := by
          simp [addresses, same]
        rw [counted]
        constructor
        · intro allCooled
          have absent : addr ∉ addresses rest := by
            intro member
            obtain ⟨twin, twinMember, twinAddr⟩ := mem_addresses.mp member
            have twinCooled := allCooled twin (List.mem_cons_of_mem _ twinMember) twinAddr
            rw [restIdle twin twinMember twinAddr] at twinCooled
            exact Bool.noConfusion twinCooled
          have restCount := List.count_eq_zero_of_not_mem absent
          omega
        · intro atMostOne twin twinMember twinAddr
          rcases List.mem_cons.mp twinMember with rfl | inRest
          · exact cooled
          · have present : 0 < (addresses rest).count addr :=
              List.count_pos_iff.mpr (mem_addresses.mpr ⟨twin, inRest, twinAddr⟩)
            omega
      · rw [tripPool_cons_of_ne same]
        have counted : (addresses (upstream :: rest)).count addr =
            (addresses rest).count addr := by
          simp [addresses, same]
        rw [counted, ← ih restIdle]
        constructor
        · intro allCooled twin member
          exact allCooled twin (List.mem_cons_of_mem _ member)
        · intro allCooled twin member twinAddr
          rcases List.mem_cons.mp member with rfl | inRest
          · exact absurd twinAddr same
          · exact allCooled twin inRest twinAddr

theorem cooldownOf_map_setWindow (listed : addr ∈ addresses pool) :
    cooldownOf (pool.map (setWindow addr deadline)) addr = some deadline := by
  induction pool with
  | nil => simp at listed
  | cons head rest ih =>
      rw [List.map_cons, cooldownOf_cons]
      by_cases same : head.addr = addr
      · simp [setWindow, same]
      · have inRest : addr ∈ addresses rest := by
          simpa [addresses, Ne.symm same] using listed
        rw [setWindow, if_neg same, if_neg same, ih inRest]

end TripPool

section Trip

variable {snapshot : PoolSnapshot} {addr : SocketAddr} {duration : Duration}
  {deadline now : Instant}

@[simp]
theorem tripRcu_pool (poolType : PoolType) :
    (tripRcu snapshot addr deadline now).pool poolType =
      (tripPool addr deadline now (snapshot.pool poolType)).1 := by
  cases poolType <;> rfl

theorem alreadyCooled_iff :
    alreadyCooled snapshot addr now = true ↔
      ∃ upstream ∈ snapshot.entries, upstream.addr = addr ∧
        upstream.isInCooldown now = true := by
  simp [alreadyCooled]

theorem alreadyCooled_eq_false_iff :
    alreadyCooled snapshot addr now = false ↔ IdleAddress snapshot addr now := by
  simp [alreadyCooled, IdleAddress]

theorem trip_of_alreadyCooled (cooled : alreadyCooled snapshot addr now = true) :
    trip snapshot addr duration now = snapshot := by
  simp [trip, cooled]

theorem trip_of_not_alreadyCooled (positive : 0 < duration)
    (idle : alreadyCooled snapshot addr now = false) :
    trip snapshot addr duration now = tripRcu snapshot addr (now + duration) now := by
  simp [trip, idle, Nat.pos_iff_ne_zero.mp positive]

@[simp]
theorem addresses_trip (poolType : PoolType) :
    addresses ((trip snapshot addr duration now).pool poolType) =
      addresses (snapshot.pool poolType) := by
  unfold trip
  split_ifs with zero cooled
  · rfl
  · rfl
  · rw [tripRcu_pool, addresses_tripPool]

theorem addresses_entries_trip :
    addresses (trip snapshot addr duration now).entries = addresses snapshot.entries := by
  rw [addresses_entries, addresses_entries, addresses_trip, addresses_trip]

theorem distinctAddresses_trip (distinct : snapshot.DistinctAddresses) :
    (trip snapshot addr duration now).DistinctAddresses := by
  rw [PoolSnapshot.DistinctAddresses, addresses_entries_trip]
  exact distinct

theorem mem_pool_trip_of_ne {upstream : UpstreamInfo} (ne : upstream.addr ≠ addr)
    (poolType : PoolType) :
    upstream ∈ (trip snapshot addr duration now).pool poolType ↔
      upstream ∈ snapshot.pool poolType := by
  unfold trip
  split_ifs with zero cooled
  · rfl
  · rfl
  · rw [tripRcu_pool, mem_tripPool_of_ne ne]

theorem exists_of_mem_pool_trip {upstream : UpstreamInfo} {poolType : PoolType}
    (member : upstream ∈ (trip snapshot addr duration now).pool poolType) :
    ∃ earlier ∈ snapshot.pool poolType, ∃ window,
      upstream = { earlier with cooldownUntil := window } := by
  unfold trip at member
  split_ifs at member with zero cooled
  · exact ⟨upstream, member, upstream.cooldownUntil, rfl⟩
  · exact ⟨upstream, member, upstream.cooldownUntil, rfl⟩
  · rw [tripRcu_pool] at member
    exact exists_of_mem_tripPool member

theorem cooldownOf_trip_of_ne {other : SocketAddr} (ne : other ≠ addr)
    (poolType : PoolType) :
    cooldownOf ((trip snapshot addr duration now).pool poolType) other =
      cooldownOf (snapshot.pool poolType) other := by
  unfold trip
  split_ifs with zero cooled
  · rfl
  · rfl
  · rw [tripRcu_pool, cooldownOf_tripPool_of_ne ne]

theorem IdleAddress.mono {later : Instant} (idle : IdleAddress snapshot addr now)
    (order : now ≤ later) : IdleAddress snapshot addr later := by
  intro upstream member same
  exact not_isInCooldown_of_le order (idle upstream member same)

theorem idleAddress_trip_iff_of_ne {other : SocketAddr} {later : Instant}
    (ne : other ≠ addr) :
    IdleAddress (trip snapshot addr duration now) other later ↔
      IdleAddress snapshot other later := by
  have sameEntries : ∀ upstream : UpstreamInfo, upstream.addr = other →
      (upstream ∈ (trip snapshot addr duration now).entries ↔
        upstream ∈ snapshot.entries) := by
    intro upstream same
    rw [PoolSnapshot.mem_entries, PoolSnapshot.mem_entries]
    exact exists_congr fun poolType => mem_pool_trip_of_ne (same.trans_ne ne) poolType
  constructor
  · intro idle upstream member same
    exact idle upstream ((sameEntries upstream same).mpr member) same
  · intro idle upstream member same
    exact idle upstream ((sameEntries upstream same).mp member) same

/-- Tripping an idle address of a pool with distinct addresses rewrites the
window of its entry and nothing else. -/
theorem trip_pool_of_idle (positive : 0 < duration)
    (distinct : snapshot.DistinctAddresses) (idle : IdleAddress snapshot addr now)
    (poolType : PoolType) :
    (trip snapshot addr duration now).pool poolType =
      (snapshot.pool poolType).map (setWindow addr (now + duration)) := by
  rw [trip_of_not_alreadyCooled positive (alreadyCooled_eq_false_iff.mpr idle), tripRcu_pool]
  apply tripPool_eq_map (distinct.pool poolType)
  intro upstream member
  exact idle upstream (PoolSnapshot.mem_entries.mpr ⟨poolType, member⟩)

theorem cooldownOf_trip_of_idle (positive : 0 < duration)
    (distinct : snapshot.DistinctAddresses) (idle : IdleAddress snapshot addr now)
    {poolType : PoolType} (listed : addr ∈ addresses (snapshot.pool poolType)) :
    cooldownOf ((trip snapshot addr duration now).pool poolType) addr =
      some (now + duration) := by
  rw [trip_pool_of_idle positive distinct idle]
  exact cooldownOf_map_setWindow listed

end Trip

end BgeRouter
