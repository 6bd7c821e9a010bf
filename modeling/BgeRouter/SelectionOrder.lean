import BgeRouter.Library.StagedSearch
import BgeRouter.RoutingPolicy

/-!
# The order in which upstreams are selected

All selectors compute one minimum.  A routable entry has a tier, and within the
entries that a selector considers the least tier wins, then (for `pick`) the
GPU pool, then the least queue depth and the first position.
-/

namespace BgeRouter

open StagedSearch

/-- The two classes of routable entries, the better one first. -/
inductive Tier where
  | ok
  | loading
deriving DecidableEq

def Tier.index : Tier → ℕ
  | .ok => 0
  | .loading => 1

/-- GPU before CPU. -/
def PoolType.index : PoolType → ℕ
  | .gpu => 0
  | .cpu => 1

instance : LinearOrder Tier :=
  LinearOrder.lift' Tier.index fun first second => by
    cases first <;> cases second <;> simp [Tier.index]

instance : LinearOrder PoolType :=
  LinearOrder.lift' PoolType.index fun first second => by
    cases first <;> cases second <;> simp [PoolType.index]

/-- The tier of an entry, if it can be selected at all. -/
def selectionTier (upstream : UpstreamInfo) (now : Instant) : Option Tier :=
  if upstream.isInCooldown now then none
  else match upstream.status with
    | .ok => some .ok
    | .loading => if 0 < upstream.liveWorkers then some .loading else none
    | .fail => none
    | .unknown => none

/-- **Reference specification** for the selectors of one pool: of the entries
that have a tier and are not excluded, the one with the least tier, queue depth
and position. -/
structure IsBest (pool : List UpstreamInfo) (excluded : List SocketAddr) (now : Instant)
    (tier : Tier) (position : ℕ) (upstream : UpstreamInfo) : Prop where
  found : pool[position]? = some upstream
  allowed : upstream.addr ∉ excluded
  tiered : selectionTier upstream now = some tier
  least : ∀ (otherTier : Tier) (otherPosition : ℕ) (other : UpstreamInfo),
    pool[otherPosition]? = some other → other.addr ∉ excluded →
    selectionTier other now = some otherTier →
    toLex (tier, toLex (upstream.queueDepth.toNat, position)) ≤
      toLex (otherTier, toLex (other.queueDepth.toNat, otherPosition))

/-- **Reference specification** for `pick`: of all entries that have a tier, the
one with the least tier, pool, queue depth and position. -/
structure IsBestOfPools (snapshot : PoolSnapshot) (now : Instant) (tier : Tier)
    (poolType : PoolType) (position : ℕ) (upstream : UpstreamInfo) : Prop where
  found : (snapshot.pool poolType)[position]? = some upstream
  tiered : selectionTier upstream now = some tier
  least : ∀ (otherTier : Tier) (otherPool : PoolType) (otherPosition : ℕ)
    (other : UpstreamInfo), (snapshot.pool otherPool)[otherPosition]? = some other →
    selectionTier other now = some otherTier →
    toLex (toLex (tier, poolType), toLex (upstream.queueDepth.toNat, position)) ≤
      toLex (toLex (otherTier, otherPool), toLex (other.queueDepth.toNat, otherPosition))

namespace Tier

/-- The eligibility test of a tier. -/
def eligible (now : Instant) : Tier → UpstreamInfo → Bool
  | ok, upstream => isOkEligible upstream now
  | loading, upstream => isLoadingEligible upstream now

theorem eligible_iff {tier : Tier} {upstream : UpstreamInfo} {now : Instant} :
    tier.eligible now upstream = true ↔ selectionTier upstream now = some tier := by
  cases cooling : upstream.isInCooldown now with
  | true =>
      cases tier <;> simp [eligible, isOkEligible, isLoadingEligible, selectionTier, cooling]
  | false =>
      cases tier <;> cases status : upstream.status <;>
        simp [eligible, isOkEligible, isLoadingEligible, selectionTier, cooling, status,
          UInt32.pos_iff_ne_zero]

theorem ordered : [ok, loading].Pairwise (· < ·) := by
  decide

theorem listed (tier : Tier) : tier ∈ [ok, loading] := by
  cases tier <;> decide

end Tier

/-- The tiers of both pools, in the order in which `pick` goes through them. -/
def tierStages : List (Tier ×ₗ PoolType) :=
  [toLex (.ok, .gpu), toLex (.ok, .cpu), toLex (.loading, .gpu), toLex (.loading, .cpu)]

theorem tierStages_ordered : tierStages.Pairwise (· < ·) := by
  decide

theorem mem_tierStages (tier : Tier) (poolType : PoolType) :
    toLex (tier, poolType) ∈ tierStages := by
  cases tier <;> cases poolType <;> simp [tierStages]

section Selectors

variable {snapshot : PoolSnapshot} {now : Instant} {pool : List UpstreamInfo}
  {poolType : PoolType} {excluded : List SocketAddr} {upstream : UpstreamInfo}
  {chosen : SocketAddr × PoolType}

/-- What a selector of one pool tests at a tier. -/
def allowedAt (excluded : List SocketAddr) (now : Instant) (tier : Tier)
    (upstream : UpstreamInfo) : Bool :=
  !decide (upstream.addr ∈ excluded) && tier.eligible now upstream

theorem allowedAt_iff {tier : Tier} :
    allowedAt excluded now tier upstream = true ↔
      upstream.addr ∉ excluded ∧ selectionTier upstream now = some tier := by
  simp [allowedAt, Tier.eligible_iff]

/-- The two searches of a selector, as one search by tiers. -/
theorem pickTier_eq_search :
    pickTier pool poolType now (fun upstream => decide (upstream.addr ∈ excluded)) =
      (search (fun _ => pool) (allowedAt excluded now)
        (fun upstream => upstream.queueDepth.toNat) [Tier.ok, Tier.loading]).map
        fun found => (found.2.addr, poolType) := by
  simp only [pickTier, minByQueueDepth, search_cons, search_nil, Option.or_none,
    Option.map_or, Option.map_map]
  rfl

/-- The four searches of `pick`, as one search by tiers and pools. -/
theorem pick_eq_search :
    pick snapshot now =
      (search (fun stage => snapshot.pool (ofLex stage).2)
        (fun stage => (ofLex stage).1.eligible now)
        (fun upstream => upstream.queueDepth.toNat) tierStages).map
        fun found => (found.2.addr, (ofLex found.1).2) := by
  simp only [pick, pickOk, pickLoading, minByQueueDepth, tierStages, search_cons, search_nil,
    Option.or_none, Option.map_or, Option.map_map, Option.or_assoc]
  rfl

/-- The least place of a search by tiers is the best entry. -/
theorem isLeastPlace_iff_isBest {tier : Tier} {position : ℕ} :
    IsLeastPlace (fun _ => pool) (allowedAt excluded now)
        (fun upstream => upstream.queueDepth.toNat) [Tier.ok, Tier.loading] tier position
        upstream ↔
      IsBest pool excluded now tier position upstream := by
  constructor
  · intro place
    obtain ⟨allowed, tiered⟩ := allowedAt_iff.mp place.passes
    refine ⟨place.found, allowed, tiered, ?_⟩
    intro otherTier otherPosition other otherFound otherAllowed otherTiered
    exact place.least otherTier otherTier.listed otherPosition other otherFound
      (allowedAt_iff.mpr ⟨otherAllowed, otherTiered⟩)
  · intro best
    refine ⟨tier.listed, best.found, allowedAt_iff.mpr ⟨best.allowed, best.tiered⟩, ?_⟩
    intro otherTier _ otherPosition other otherFound otherPasses
    obtain ⟨otherAllowed, otherTiered⟩ := allowedAt_iff.mp otherPasses
    exact best.least otherTier otherPosition other otherFound otherAllowed otherTiered

/-- The least place of a search by tiers and pools is the best entry of both
pools. -/
theorem isLeastPlace_iff_isBestOfPools {tier : Tier} {position : ℕ} :
    IsLeastPlace (fun stage => snapshot.pool (ofLex stage).2)
        (fun stage => (ofLex stage).1.eligible now)
        (fun upstream => upstream.queueDepth.toNat) tierStages (toLex (tier, poolType)) position
        upstream ↔
      IsBestOfPools snapshot now tier poolType position upstream := by
  constructor
  · intro place
    refine ⟨place.found, Tier.eligible_iff.mp place.passes, ?_⟩
    intro otherTier otherPool otherPosition other otherFound otherTiered
    exact place.least (toLex (otherTier, otherPool)) (mem_tierStages _ _) otherPosition other
      otherFound (Tier.eligible_iff.mpr otherTiered)
  · intro best
    refine ⟨mem_tierStages _ _, best.found, Tier.eligible_iff.mpr best.tiered, ?_⟩
    intro otherStage _ otherPosition other otherFound otherPasses
    exact best.least (ofLex otherStage).1 (ofLex otherStage).2 otherPosition other otherFound
      (Tier.eligible_iff.mp otherPasses)

theorem pickTier_eq_some_iff :
    pickTier pool poolType now (fun upstream => decide (upstream.addr ∈ excluded)) =
        some chosen ↔
      ∃ tier position upstream, IsBest pool excluded now tier position upstream ∧
        chosen = (upstream.addr, poolType) := by
  rw [pickTier_eq_search, Option.map_eq_some_iff]
  constructor
  · rintro ⟨⟨tier, upstream⟩, found, rfl⟩
    obtain ⟨position, place⟩ := (search_eq_some_iff Tier.ordered).mp found
    exact ⟨tier, position, upstream, isLeastPlace_iff_isBest.mp place, rfl⟩
  · rintro ⟨tier, position, upstream, best, rfl⟩
    have place := isLeastPlace_iff_isBest.mpr best
    exact ⟨(tier, upstream), (search_eq_some_iff Tier.ordered).mpr ⟨position, place⟩, rfl⟩

theorem pickTier_eq_none_iff :
    pickTier pool poolType now (fun upstream => decide (upstream.addr ∈ excluded)) = none ↔
      ∀ upstream ∈ pool, upstream.addr ∉ excluded → selectionTier upstream now = none := by
  rw [pickTier_eq_search, Option.map_eq_none_iff, search_eq_none_iff]
  constructor
  · intro nobody upstream member allowed
    rw [Option.eq_none_iff_forall_ne_some]
    intro tier tiered
    have passes := allowedAt_iff.mpr ⟨allowed, tiered⟩
    rw [nobody tier tier.listed upstream member] at passes
    cases passes
  · intro nobody tier _ upstream member
    rw [← Bool.not_eq_true, allowedAt_iff]
    rintro ⟨allowed, tiered⟩
    rw [nobody upstream member allowed] at tiered
    cases tiered

theorem pick_eq_some_iff :
    pick snapshot now = some chosen ↔
      ∃ tier position upstream,
        IsBestOfPools snapshot now tier chosen.2 position upstream ∧
          upstream.addr = chosen.1 := by
  rw [pick_eq_search, Option.map_eq_some_iff]
  constructor
  · rintro ⟨⟨stage, upstream⟩, found, rfl⟩
    obtain ⟨position, place⟩ := (search_eq_some_iff tierStages_ordered).mp found
    exact ⟨(ofLex stage).1, position, upstream, isLeastPlace_iff_isBestOfPools.mp place, rfl⟩
  · obtain ⟨addr, poolType⟩ := chosen
    rintro ⟨tier, position, upstream, best, rfl⟩
    have place := isLeastPlace_iff_isBestOfPools.mpr best
    exact ⟨(toLex (tier, poolType), upstream),
      (search_eq_some_iff tierStages_ordered).mpr ⟨position, place⟩, rfl⟩

theorem pick_eq_none_iff_tiers :
    pick snapshot now = none ↔
      ∀ poolType, ∀ upstream ∈ snapshot.pool poolType, selectionTier upstream now = none := by
  rw [pick_eq_search, Option.map_eq_none_iff, search_eq_none_iff]
  constructor
  · intro nobody poolType upstream member
    rw [Option.eq_none_iff_forall_ne_some]
    intro tier tiered
    have passes := Tier.eligible_iff.mpr tiered
    have fails := nobody (toLex (tier, poolType)) (mem_tierStages _ _) upstream member
    cases passes.symm.trans fails
  · intro nobody stage _ upstream member
    rw [← Bool.not_eq_true, Tier.eligible_iff, nobody _ upstream member]
    simp

theorem pickGpuExcluding_eq_set (addr : SocketAddr) :
    pickGpuExcluding snapshot addr now = pickGpuExcludingSet snapshot [addr] now := by
  simp [pickGpuExcluding, pickGpuExcludingSet]

/-- The snapshot without the GPU entries of some addresses. -/
def PoolSnapshot.withoutGpu (snapshot : PoolSnapshot) (excluded : List SocketAddr) :
    PoolSnapshot :=
  { snapshot with
    gpu := snapshot.gpu.filter fun upstream => !decide (upstream.addr ∈ excluded) }

/-- Excluding entries is the same as removing them. -/
theorem pickGpuExcludingSet_eq_withoutGpu :
    pickGpuExcludingSet snapshot excluded now =
      pickGpu (snapshot.withoutGpu excluded) now := by
  simp only [pickGpuExcludingSet, pickTier, pickGpu, pickOk, pickLoading, minByQueueDepth,
    PoolSnapshot.withoutGpu, List.filter_filter, Bool.and_comm]

end Selectors

/-- What all selectors together compute. -/
structure SelectorsComputeLeast (snapshot : PoolSnapshot) (now : Instant) : Prop where
  excludingSet : ∀ excluded chosen, pickGpuExcludingSet snapshot excluded now = some chosen ↔
    ∃ tier position upstream, IsBest snapshot.gpu excluded now tier position upstream ∧
      chosen = (upstream.addr, .gpu)
  excludingSet_none : ∀ excluded, pickGpuExcludingSet snapshot excluded now = none ↔
    ∀ upstream ∈ snapshot.gpu, upstream.addr ∉ excluded → selectionTier upstream now = none
  gpu : pickGpu snapshot now = pickGpuExcludingSet snapshot [] now
  excluding : ∀ addr, pickGpuExcluding snapshot addr now =
    pickGpuExcludingSet snapshot [addr] now
  removing : ∀ excluded, pickGpuExcludingSet snapshot excluded now =
    pickGpu (snapshot.withoutGpu excluded) now
  cpu : ∀ chosen, pickCpu snapshot now = some chosen ↔
    ∃ tier position upstream, IsBest snapshot.cpu [] now tier position upstream ∧
      chosen = (upstream.addr, .cpu)
  cpu_none : pickCpu snapshot now = none ↔
    ∀ upstream ∈ snapshot.cpu, selectionTier upstream now = none
  all : ∀ chosen, pick snapshot now = some chosen ↔
    ∃ tier position upstream, IsBestOfPools snapshot now tier chosen.2 position upstream ∧
      upstream.addr = chosen.1
  all_none : pick snapshot now = none ↔
    ∀ poolType, ∀ upstream ∈ snapshot.pool poolType, selectionTier upstream now = none

/-- **The selectors compute one lexicographic minimum.** -/
theorem selectors_computeLeast (snapshot : PoolSnapshot) (now : Instant) :
    SelectorsComputeLeast snapshot now where
  excludingSet := fun _ _ => pickTier_eq_some_iff
  excludingSet_none := fun _ => pickTier_eq_none_iff
  gpu := pickGpu_eq_excludingNothing
  excluding := pickGpuExcluding_eq_set
  removing := fun _ => pickGpuExcludingSet_eq_withoutGpu
  cpu := fun _ => by rw [pickCpu_eq_pickTier, pickTier_eq_some_iff]
  cpu_none := by
    rw [pickCpu_eq_pickTier, pickTier_eq_none_iff]
    simp
  all := fun _ => pick_eq_some_iff
  all_none := pick_eq_none_iff_tiers

end BgeRouter
