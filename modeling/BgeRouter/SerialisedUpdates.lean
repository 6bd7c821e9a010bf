import BgeRouter.CircuitBreaker
import BgeRouter.Discovery
import BgeRouter.HealthPolling

/-!
# Serialised updates

When the writers of the pool take turns, a trip commutes with a health update,
and with a refresh that does not bring its address into a pool.  A trip changes
the window of an entry and decides by windows alone, while the other two carry
every window along.
-/

namespace BgeRouter

/-- The addresses of each pool are pairwise distinct. -/
def PoolSnapshot.DistinctPools (snapshot : PoolSnapshot) : Prop :=
  ∀ poolType, (addresses (snapshot.pool poolType)).Nodup

/-- An answer that repeats no address and lists `addr` only if the pool does. -/
structure ResolveResult.Familiar (result : ResolveResult) (addr : SocketAddr)
    (existing : List UpstreamInfo) : Prop where
  distinct : ∀ addrs, result = .resolved addrs → addrs.Nodup
  notNew : ∀ addrs, result = .resolved addrs → addr ∈ addrs → addr ∈ addresses existing

def InOnePool (snapshot : PoolSnapshot) (addr : SocketAddr) : Prop :=
  addr ∉ addresses snapshot.gpu ∨ addr ∉ addresses snapshot.cpu

section Trip

variable {snapshot : PoolSnapshot} {addr : SocketAddr} {duration : Duration}
  {now : Instant}

/-- What a trip makes of an entry that no other pool repeats. -/
def tripWindow (addr : SocketAddr) (duration : Duration) (now : Instant)
    (upstream : UpstreamInfo) : UpstreamInfo :=
  if duration = 0 then upstream else tripEntry addr (now + duration) now upstream

@[simp]
theorem addr_tripWindow (upstream : UpstreamInfo) :
    (tripWindow addr duration now upstream).addr = upstream.addr := by
  rw [tripWindow]
  split_ifs
  · rfl
  · exact addr_tripEntry upstream

theorem tripWindow_of_ne {upstream : UpstreamInfo} (ne : upstream.addr ≠ addr) :
    tripWindow addr duration now upstream = upstream := by
  rw [tripWindow, tripEntry_of_ne ne, ite_self]

/-- The entries of an address listed in one pool only agree with its one entry. -/
theorem cooling_of_alreadyCooled (distinct : snapshot.DistinctPools)
    (single : InOnePool snapshot addr) (cooled : alreadyCooled snapshot addr now = true)
    {poolType : PoolType} {upstream : UpstreamInfo}
    (member : upstream ∈ snapshot.pool poolType) (same : upstream.addr = addr) :
    upstream.isInCooldown now = true := by
  obtain ⟨other, otherMember, otherSame, cooling⟩ := alreadyCooled_iff.mp cooled
  obtain ⟨otherPool, otherMember⟩ := PoolSnapshot.mem_entries.mp otherMember
  have listed := mem_addresses.mpr ⟨upstream, member, same⟩
  have otherListed := mem_addresses.mpr ⟨other, otherMember, otherSame⟩
  have samePool : poolType = otherPool := by
    cases poolType <;> cases otherPool
    · rfl
    · exact (single.elim (fun absent => absent listed) fun absent => absent otherListed).elim
    · exact (single.elim (fun absent => absent otherListed) fun absent => absent listed).elim
    · rfl
  subst samePool
  obtain rfl : upstream = other :=
    List.inj_on_of_nodup_map (distinct poolType) member otherMember (same.trans otherSame.symm)
  exact cooling

/-- A trip of an address listed in one pool only treats every entry by itself. -/
theorem trip_pool_eq_map (distinct : snapshot.DistinctPools)
    (single : InOnePool snapshot addr) (poolType : PoolType) :
    (trip snapshot addr duration now).pool poolType =
      (snapshot.pool poolType).map (tripWindow addr duration now) := by
  by_cases zero : duration = 0
  · have identity : tripWindow addr duration now = id := by
      funext upstream
      exact if_pos zero
    rw [identity, List.map_id, trip, if_pos zero]
  · cases cooled : alreadyCooled snapshot addr now with
    | true =>
        rw [trip_of_alreadyCooled cooled]
        symm
        refine (List.map_congr_left fun upstream member => ?_).trans (List.map_id _)
        by_cases same : upstream.addr = addr
        · rw [tripWindow, if_neg zero]
          exact tripEntry_of_cooling (cooling_of_alreadyCooled distinct single cooled member same)
        · exact tripWindow_of_ne same
    | false =>
        rw [trip_of_not_alreadyCooled (Nat.pos_of_ne_zero zero) cooled, tripRcu_pool,
          tripPool_eq_map_tripEntry (distinct poolType)]
        apply List.map_congr_left
        intro upstream _
        exact (if_neg zero).symm

theorem updatedAt_trip (stamped : snapshot.updatedAt = now) :
    (trip snapshot addr duration now).updatedAt = now := by
  unfold trip
  split_ifs
  · exact stamped
  · exact stamped
  · simp only [tripRcu, stamped, ite_self]

end Trip

section Updates

variable {snapshot : PoolSnapshot} {addr : SocketAddr} {duration : Duration}
  {deadline now : Instant} {results : List PollResult}

/-- What a health update makes of one entry. -/
def updateEntry (results : List PollResult) (now : Instant) (upstream : UpstreamInfo) :
    UpstreamInfo :=
  match results.find? fun result => decide (result.addr = upstream.addr) with
  | some result =>
      { upstream with
        status := result.status
        queueDepth := result.queueDepth
        liveWorkers := result.liveWorkers
        lastSeen := now }
  | none => upstream

theorem updatePool_eq_map (pool : List UpstreamInfo) :
    updatePool pool results now = pool.map (updateEntry results now) :=
  rfl

@[simp]
theorem addr_updateEntry (upstream : UpstreamInfo) :
    (updateEntry results now upstream).addr = upstream.addr := by
  rw [updateEntry]
  split <;> rfl

@[simp]
theorem cooldownUntil_updateEntry (upstream : UpstreamInfo) :
    (updateEntry results now upstream).cooldownUntil = upstream.cooldownUntil := by
  rw [updateEntry]
  split <;> rfl

@[simp]
theorem isInCooldown_updateEntry (upstream : UpstreamInfo) :
    (updateEntry results now upstream).isInCooldown now = upstream.isInCooldown now := by
  rw [UpstreamInfo.isInCooldown, cooldownUntil_updateEntry, UpstreamInfo.isInCooldown]

theorem setWindow_updateEntry (upstream : UpstreamInfo) :
    setWindow addr deadline (updateEntry results now upstream) =
      updateEntry results now (setWindow addr deadline upstream) := by
  by_cases same : upstream.addr = addr
  · rw [setWindow, if_pos (by rw [addr_updateEntry, same]), setWindow, if_pos same]
    cases found : results.find? fun result => decide (result.addr = upstream.addr) with
    | none => simp only [updateEntry, found]
    | some result => simp only [updateEntry, found]
  · rw [setWindow, if_neg (by rw [addr_updateEntry]; exact same), setWindow, if_neg same]

/-- The window and the report of an entry are changed independently. -/
theorem tripEntry_updateEntry (upstream : UpstreamInfo) :
    tripEntry addr deadline now (updateEntry results now upstream) =
      updateEntry results now (tripEntry addr deadline now upstream) := by
  rw [tripEntry, tripEntry, isInCooldown_updateEntry, setWindow_updateEntry,
    apply_ite (updateEntry results now)]

theorem entries_applyUpdates :
    (applyUpdates snapshot results now).entries =
      snapshot.entries.map (updateEntry results now) :=
  List.map_append.symm

theorem alreadyCooled_applyUpdates :
    alreadyCooled (applyUpdates snapshot results now) addr now =
      alreadyCooled snapshot addr now := by
  rw [alreadyCooled, entries_applyUpdates, List.any_map, alreadyCooled]
  congr 1
  funext upstream
  rw [Function.comp_apply, addr_updateEntry, isInCooldown_updateEntry]

theorem PoolSnapshot.eq_of_pools {first second : PoolSnapshot}
    (pools : ∀ poolType, first.pool poolType = second.pool poolType)
    (stamps : first.updatedAt = second.updatedAt) : first = second := by
  cases first
  cases second
  have gpus := pools .gpu
  have cpus := pools .cpu
  simp only [PoolSnapshot.pool_gpu, PoolSnapshot.pool_cpu] at gpus cpus stamps
  rw [gpus, cpus, stamps]

theorem trip_applyUpdates (distinct : snapshot.DistinctPools) :
    trip (applyUpdates snapshot results now) addr duration now =
      applyUpdates (trip snapshot addr duration now) results now := by
  apply PoolSnapshot.eq_of_pools
  · intro poolType
    rw [applyUpdates_pool]
    by_cases zero : duration = 0
    · rw [trip, if_pos zero, trip, if_pos zero, applyUpdates_pool]
    have positive := Nat.pos_of_ne_zero zero
    cases cooled : alreadyCooled snapshot addr now with
    | true =>
        rw [trip_of_alreadyCooled (alreadyCooled_applyUpdates.trans cooled),
          trip_of_alreadyCooled cooled, applyUpdates_pool]
    | false =>
        have updatedDistinct :
            (addresses (updatePool (snapshot.pool poolType) results now)).Nodup := by
          rw [addresses_updatePool]
          exact distinct poolType
        rw [trip_of_not_alreadyCooled positive (alreadyCooled_applyUpdates.trans cooled),
          trip_of_not_alreadyCooled positive cooled, tripRcu_pool, tripRcu_pool,
          applyUpdates_pool, tripPool_eq_map_tripEntry updatedDistinct,
          tripPool_eq_map_tripEntry (distinct poolType), updatePool_eq_map, updatePool_eq_map,
          List.map_map, List.map_map]
        apply List.map_congr_left
        intro upstream _
        exact tripEntry_updateEntry upstream
  · exact updatedAt_trip rfl

end Updates

section Merges

variable {snapshot : PoolSnapshot} {addr : SocketAddr} {duration : Duration}
  {now : Instant} {existing : List UpstreamInfo} {poolType : PoolType}
  {result gpuResult cpuResult : ResolveResult}

/-- A merge carries every window along, and a trip finds no new entry of its
address. -/
theorem mergePool_map_tripWindow (familiar : result.Familiar addr existing) :
    mergePool (existing.map (tripWindow addr duration now)) result poolType now =
      (mergePool existing result poolType now).map (tripWindow addr duration now) := by
  cases result with
  | failed => rfl
  | resolved addrs =>
      simp only [mergePool, List.map_map]
      apply List.map_congr_left
      intro listedAddr listed
      have sameLookup : (existing.map (tripWindow addr duration now)).find?
          (fun upstream => decide (upstream.addr = listedAddr)) =
          (existing.find? fun upstream => decide (upstream.addr = listedAddr)).map
            (tripWindow addr duration now) := by
        rw [List.find?_map]
        congr 1
        congr 1
        funext upstream
        rw [Function.comp_apply, addr_tripWindow]
      rw [sameLookup, Function.comp_apply]
      cases found : existing.find? fun upstream => decide (upstream.addr = listedAddr) with
      | some upstream => rfl
      | none =>
          symm
          apply tripWindow_of_ne
          intro tripped
          have isAddr : listedAddr = addr := tripped
          obtain ⟨upstream, member, same⟩ :=
            mem_addresses.mp (familiar.notNew addrs rfl (isAddr ▸ listed))
          exact KeyedLists.find?_eq_none_iff.mp found upstream member (same.trans isAddr.symm)

theorem ResolveResult.Familiar.nodup (familiar : result.Familiar addr existing)
    (distinct : (addresses existing).Nodup) :
    (addresses (mergePool existing result poolType now)).Nodup := by
  rw [addresses_mergePool]
  cases result with
  | failed => exact distinct
  | resolved addrs => exact familiar.distinct addrs rfl

theorem ResolveResult.Familiar.not_mem (familiar : result.Familiar addr existing)
    (absent : addr ∉ addresses existing) :
    addr ∉ addresses (mergePool existing result poolType now) := by
  rw [addresses_mergePool]
  cases result with
  | failed => exact absent
  | resolved addrs => exact fun listed => absent (familiar.notNew addrs rfl listed)

theorem trip_merge (distinct : snapshot.DistinctPools) (single : InOnePool snapshot addr)
    (familiar : ∀ poolType,
      (resultFor gpuResult cpuResult poolType).Familiar addr (snapshot.pool poolType)) :
    trip (merge snapshot gpuResult cpuResult now) addr duration now =
      merge (trip snapshot addr duration now) gpuResult cpuResult now := by
  have mergedDistinct : (merge snapshot gpuResult cpuResult now).DistinctPools := by
    intro poolType
    rw [merge_pool]
    exact (familiar poolType).nodup (distinct poolType)
  have mergedSingle : InOnePool (merge snapshot gpuResult cpuResult now) addr :=
    single.imp (familiar .gpu).not_mem (familiar .cpu).not_mem
  apply PoolSnapshot.eq_of_pools
  · intro poolType
    rw [trip_pool_eq_map mergedDistinct mergedSingle, merge_pool, merge_pool,
      trip_pool_eq_map distinct single, mergePool_map_tripWindow (familiar poolType)]
  · exact updatedAt_trip rfl

end Merges

/-- A fleet of one healthy GPU upstream. -/
def onlyGpu : PoolSnapshot where
  gpu := [⟨.sampleGpu, .gpu, .ok, 0, 1, 0, none⟩]
  cpu := []
  updatedAt := 0

/-- **Serialised updates commute with the breaker.**  All clock readings are
taken at one instant. -/
theorem trip_commutes_with_updates (snapshot : PoolSnapshot)
    (distinct : snapshot.DistinctPools) (addr : SocketAddr) (duration : Duration)
    (now : Instant) :
    (∀ results, trip (applyUpdates snapshot results now) addr duration now =
      applyUpdates (trip snapshot addr duration now) results now) ∧
    ∀ gpuResult cpuResult, InOnePool snapshot addr →
      (∀ poolType,
        (resultFor gpuResult cpuResult poolType).Familiar addr (snapshot.pool poolType)) →
      trip (merge snapshot gpuResult cpuResult now) addr duration now =
        merge (trip snapshot addr duration now) gpuResult cpuResult now :=
  ⟨fun _ => trip_applyUpdates distinct, fun _ _ single familiar =>
    trip_merge distinct single familiar⟩

/-- Both orders put the one GPU upstream of a fleet into cooldown. -/
theorem trip_commutes_sample :
    (∀ results,
      trip (applyUpdates onlyGpu results 5) .sampleGpu 30 5 =
        applyUpdates (trip onlyGpu .sampleGpu 30 5) results 5) ∧
      trip (merge onlyGpu (.resolved [.samplePeer, .sampleGpu]) .failed 5) .sampleGpu 30 5 =
        merge (trip onlyGpu .sampleGpu 30 5) (.resolved [.samplePeer, .sampleGpu]) .failed 5 := by
  have distinct : onlyGpu.DistinctPools := by
    intro poolType
    cases poolType <;> decide
  obtain ⟨withPoll, withRefresh⟩ := trip_commutes_with_updates onlyGpu distinct .sampleGpu 30 5
  refine ⟨withPoll, withRefresh _ _ (Or.inr (by decide)) fun poolType => ?_⟩
  cases poolType with
  | gpu =>
      constructor
      · rintro addrs same
        obtain rfl := ResolveResult.resolved.inj same
        decide
      · intro _ _ _
        decide
  | cpu =>
      constructor
      · intro addrs impossible
        cases impossible
      · intro addrs impossible
        cases impossible

end BgeRouter
