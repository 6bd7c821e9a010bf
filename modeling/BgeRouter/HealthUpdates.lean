import BgeRouter.SerialisedUpdates

/-!
# Health updates in any order

The results of a poll are listed in the order in which its requests ended, and
some of them may be missing or be about addresses that discovery has dropped.
With one result per address at most, the order has no influence, and a result
changes nothing but the report of the entries that have its address.
-/

namespace BgeRouter

/-- What a result makes of an entry that has its address. -/
def UpstreamInfo.reported (upstream : UpstreamInfo) (result : PollResult) (now : Instant) :
    UpstreamInfo where
  addr := upstream.addr
  poolType := upstream.poolType
  status := result.status
  queueDepth := result.queueDepth
  liveWorkers := result.liveWorkers
  lastSeen := now
  cooldownUntil := upstream.cooldownUntil

/-- What no health update changes, entry by entry. -/
structure SameFleet (before after : PoolSnapshot) : Prop where
  length : ∀ poolType, (after.pool poolType).length = (before.pool poolType).length
  addresses : ∀ poolType,
    (after.pool poolType).map UpstreamInfo.addr = (before.pool poolType).map UpstreamInfo.addr
  poolTypes : ∀ poolType,
    (after.pool poolType).map UpstreamInfo.poolType =
      (before.pool poolType).map UpstreamInfo.poolType
  windows : ∀ poolType,
    (after.pool poolType).map UpstreamInfo.cooldownUntil =
      (before.pool poolType).map UpstreamInfo.cooldownUntil

/-- **Reference specification** of a health update with these results. -/
structure HealthUpdateLaw (results : List PollResult) : Prop where
  anyOrder : ∀ reordered, reordered.Perm results → ∀ snapshot now,
    applyUpdates snapshot reordered now = applyUpdates snapshot results now
  reported : ∀ snapshot now poolType (index : Nat) (upstream : UpstreamInfo),
    (snapshot.pool poolType)[index]? = some upstream →
    ∀ result ∈ results, result.addr = upstream.addr →
      ((applyUpdates snapshot results now).pool poolType)[index]? =
        some (upstream.reported result now)
  silent : ∀ snapshot now poolType (index : Nat) (upstream : UpstreamInfo),
    (snapshot.pool poolType)[index]? = some upstream →
    (∀ result ∈ results, result.addr ≠ upstream.addr) →
      ((applyUpdates snapshot results now).pool poolType)[index]? = some upstream
  sameFleet : ∀ snapshot now, SameFleet snapshot (applyUpdates snapshot results now)

section Results

variable {results reordered : List PollResult} {result : PollResult}
  {upstream : UpstreamInfo} {snapshot : PoolSnapshot} {now : Instant}

theorem updateEntry_of_mem (distinct : (results.map PollResult.addr).Nodup)
    (member : result ∈ results) (same : result.addr = upstream.addr) :
    updateEntry results now upstream = upstream.reported result now := by
  rw [updateEntry, KeyedLists.find?_of_mem distinct member same]
  rfl

theorem updateEntry_of_silent (absent : ∀ result ∈ results, result.addr ≠ upstream.addr) :
    updateEntry results now upstream = upstream := by
  rw [updateEntry, KeyedLists.find?_eq_none_iff.mpr absent]

theorem updateEntry_of_perm (reorders : reordered.Perm results)
    (distinct : (results.map PollResult.addr).Nodup) :
    updateEntry reordered now upstream = updateEntry results now upstream := by
  rw [updateEntry, KeyedLists.find?_of_perm reorders distinct, updateEntry]

@[simp]
theorem poolType_updateEntry :
    (updateEntry results now upstream).poolType = upstream.poolType := by
  rw [updateEntry]
  split <;> rfl

/-- What no result changes of an entry is kept in every entry of a pool. -/
theorem map_pool_applyUpdates {Field : Type} {field : UpstreamInfo → Field}
    (kept : ∀ upstream, field (updateEntry results now upstream) = field upstream)
    (poolType : PoolType) :
    ((applyUpdates snapshot results now).pool poolType).map field =
      (snapshot.pool poolType).map field := by
  rw [applyUpdates_pool, updatePool_eq_map, List.map_map]
  apply List.map_congr_left
  intro upstream _
  exact kept upstream

/-- Any results at all leave the fleet as it is, known addresses or not. -/
theorem sameFleet_applyUpdates (snapshot : PoolSnapshot) (results : List PollResult)
    (now : Instant) : SameFleet snapshot (applyUpdates snapshot results now) where
  length poolType := by
    rw [applyUpdates_pool, updatePool_eq_map, List.length_map]
  addresses := map_pool_applyUpdates addr_updateEntry
  poolTypes := map_pool_applyUpdates fun _ => poolType_updateEntry
  windows := map_pool_applyUpdates cooldownUntil_updateEntry

theorem getElem?_pool_applyUpdates {poolType : PoolType} {index : Nat}
    (listed : (snapshot.pool poolType)[index]? = some upstream) :
    ((applyUpdates snapshot results now).pool poolType)[index]? =
      some (updateEntry results now upstream) := by
  rw [applyUpdates_pool, updatePool_eq_map, List.getElem?_map, listed]
  rfl

theorem applyUpdates_of_perm (reorders : reordered.Perm results)
    (distinct : (results.map PollResult.addr).Nodup) (snapshot : PoolSnapshot)
    (now : Instant) :
    applyUpdates snapshot reordered now = applyUpdates snapshot results now := by
  have entries : updateEntry reordered now = updateEntry results now := by
    funext upstream
    exact updateEntry_of_perm reorders distinct
  simp only [applyUpdates, updatePool_eq_map, entries]

/-- **A health update is independent of the order of its results** and touches
nothing but the reports of the entries that have one. -/
theorem healthUpdateLaw_of_distinct (results : List PollResult)
    (distinct : (results.map PollResult.addr).Nodup) : HealthUpdateLaw results where
  anyOrder reordered reorders := applyUpdates_of_perm reorders distinct
  reported snapshot now poolType index upstream listed result member same := by
    rw [getElem?_pool_applyUpdates listed, updateEntry_of_mem distinct member same]
  silent snapshot now poolType index upstream listed absent := by
    rw [getElem?_pool_applyUpdates listed, updateEntry_of_silent absent]
  sameFleet snapshot now := sameFleet_applyUpdates snapshot results now

end Results

/-- The polls of two tasks, one of which did not answer. -/
def sampleResults : List PollResult :=
  [pollOne .sampleCpu (.success (some ⟨"ok", some ⟨8⟩, some 3⟩)), pollOne .sampleGpu .noResponse]

theorem healthUpdateLaw_sampleResults : HealthUpdateLaw sampleResults :=
  healthUpdateLaw_of_distinct sampleResults (by decide)

end BgeRouter
