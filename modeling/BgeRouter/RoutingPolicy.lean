import BgeRouter.UpstreamSnapshot
import Mathlib.Data.List.MinMax

/-!
# Routing policy

Given a snapshot and a reading of the clock, the `pick` functions choose the
upstream that a request is sent to.  Every one of them is made of one search:
the first entry of least queue depth among the entries that pass an
eligibility test.
-/

namespace BgeRouter

/-- Healthy enough to accept routing. -/
def isOkEligible (upstream : UpstreamInfo) (now : Instant) : Bool :=
  upstream.status == .ok && !upstream.isInCooldown now

/-- Idle or reloading, with live workers that will accept a request. -/
def isLoadingEligible (upstream : UpstreamInfo) (now : Instant) : Bool :=
  upstream.status == .loading && decide (0 < upstream.liveWorkers) &&
    !upstream.isInCooldown now

/-- `filter`, then `min_by_key` on the queue depth; the first entry wins ties. -/
def minByQueueDepth (eligible : UpstreamInfo → Bool) (pool : List UpstreamInfo)
    (poolType : PoolType) : Option (SocketAddr × PoolType) :=
  ((pool.filter eligible).argmin fun upstream => upstream.queueDepth.toNat).map
    fun upstream => (upstream.addr, poolType)

def pickOk (pool : List UpstreamInfo) (poolType : PoolType) (now : Instant) :
    Option (SocketAddr × PoolType) :=
  minByQueueDepth (isOkEligible · now) pool poolType

def pickLoading (pool : List UpstreamInfo) (poolType : PoolType) (now : Instant) :
    Option (SocketAddr × PoolType) :=
  minByQueueDepth (isLoadingEligible · now) pool poolType

def pickTier (pool : List UpstreamInfo) (poolType : PoolType) (now : Instant)
    (exclude : UpstreamInfo → Bool) : Option (SocketAddr × PoolType) :=
  (minByQueueDepth (fun upstream => !exclude upstream && isOkEligible upstream now)
    pool poolType).or
  (minByQueueDepth (fun upstream => !exclude upstream && isLoadingEligible upstream now)
    pool poolType)

/-- The best upstream of the snapshot, or `none` if nothing is routable. -/
def pick (snapshot : PoolSnapshot) (now : Instant) : Option (SocketAddr × PoolType) :=
  (((pickOk snapshot.gpu .gpu now).or (pickOk snapshot.cpu .cpu now)).or
    (pickLoading snapshot.gpu .gpu now)).or (pickLoading snapshot.cpu .cpu now)

def pickGpu (snapshot : PoolSnapshot) (now : Instant) : Option (SocketAddr × PoolType) :=
  (pickOk snapshot.gpu .gpu now).or (pickLoading snapshot.gpu .gpu now)

def pickGpuExcluding (snapshot : PoolSnapshot) (excludedAddr : SocketAddr)
    (now : Instant) : Option (SocketAddr × PoolType) :=
  pickTier snapshot.gpu .gpu now fun upstream => decide (upstream.addr = excludedAddr)

def pickGpuExcludingSet (snapshot : PoolSnapshot) (excludedAddrs : List SocketAddr)
    (now : Instant) : Option (SocketAddr × PoolType) :=
  pickTier snapshot.gpu .gpu now fun upstream => decide (upstream.addr ∈ excludedAddrs)

def pickCpu (snapshot : PoolSnapshot) (now : Instant) : Option (SocketAddr × PoolType) :=
  (pickOk snapshot.cpu .cpu now).or (pickLoading snapshot.cpu .cpu now)

/-- What every selector requires of the entry it returns. -/
def Routable (upstream : UpstreamInfo) (now : Instant) : Prop :=
  isOkEligible upstream now = true ∨ isLoadingEligible upstream now = true

section Search

variable {eligible : UpstreamInfo → Bool} {pool : List UpstreamInfo}
  {poolType : PoolType}

@[simp]
theorem minByQueueDepth_eq_none_iff :
    minByQueueDepth eligible pool poolType = none ↔
      ∀ upstream ∈ pool, eligible upstream = false := by
  simp [minByQueueDepth, List.argmin_eq_none, List.filter_eq_nil_iff]

/-- The search returns an eligible entry of least queue depth, under the name
of the pool it searched. -/
theorem exists_of_minByQueueDepth {chosen : SocketAddr × PoolType}
    (found : minByQueueDepth eligible pool poolType = some chosen) :
    chosen.2 = poolType ∧ ∃ upstream ∈ pool, eligible upstream = true ∧
      upstream.addr = chosen.1 ∧
      ∀ other ∈ pool, eligible other = true →
        upstream.queueDepth.toNat ≤ other.queueDepth.toNat := by
  obtain ⟨upstream, least, rfl⟩ := Option.map_eq_some_iff.mp found
  obtain ⟨member, passes⟩ := List.mem_filter.mp (List.argmin_mem least)
  refine ⟨rfl, upstream, member, passes, rfl, ?_⟩
  intro other otherMember otherPasses
  have candidate : other ∈ pool.filter eligible :=
    List.mem_filter.mpr ⟨otherMember, otherPasses⟩
  exact (List.mem_argmin_iff.mp least).2.1 other candidate

end Search

section Eligibility

variable {upstream : UpstreamInfo} {now : Instant}

theorem Routable.not_inCooldown (routable : Routable upstream now) :
    upstream.isInCooldown now = false := by
  rcases routable with ok | loading
  · simp only [isOkEligible, Bool.and_eq_true] at ok
    simpa using ok.2
  · simp only [isLoadingEligible, Bool.and_eq_true] at loading
    simpa using loading.2

end Eligibility

section Picks

variable {snapshot : PoolSnapshot} {now : Instant}
  {chosen : SocketAddr × PoolType}

theorem pickGpu_eq_excludingNothing :
    pickGpu snapshot now = pickGpuExcludingSet snapshot [] now := by
  simp [pickGpu, pickGpuExcludingSet, pickTier, pickOk, pickLoading]

theorem pickCpu_eq_pickTier :
    pickCpu snapshot now =
      pickTier snapshot.cpu .cpu now fun upstream => decide (upstream.addr ∈ []) := by
  simp [pickCpu, pickTier, pickOk, pickLoading]

theorem poolType_of_pickTier {pool : List UpstreamInfo} {poolType : PoolType}
    {exclude : UpstreamInfo → Bool} (found : pickTier pool poolType now exclude = some chosen) :
    chosen.2 = poolType := by
  rcases Option.or_eq_some_iff.mp found with ok | ⟨-, loading⟩
  · exact (exists_of_minByQueueDepth ok).1
  · exact (exists_of_minByQueueDepth loading).1

theorem not_mem_of_pickGpuExcludingSet {excluded : List SocketAddr}
    (found : pickGpuExcludingSet snapshot excluded now = some chosen) :
    chosen.1 ∉ excluded := by
  rcases Option.or_eq_some_iff.mp found with ok | ⟨-, loading⟩
  · obtain ⟨-, upstream, -, passes, same, -⟩ := exists_of_minByQueueDepth ok
    simp only [Bool.and_eq_true, Bool.not_eq_true', decide_eq_false_iff_not] at passes
    exact same ▸ passes.1
  · obtain ⟨-, upstream, -, passes, same, -⟩ := exists_of_minByQueueDepth loading
    simp only [Bool.and_eq_true, Bool.not_eq_true', decide_eq_false_iff_not] at passes
    exact same ▸ passes.1

theorem poolType_of_pickGpu (found : pickGpu snapshot now = some chosen) :
    chosen.2 = .gpu := by
  rw [pickGpu_eq_excludingNothing] at found
  exact poolType_of_pickTier found

theorem poolType_of_pickCpu (found : pickCpu snapshot now = some chosen) :
    chosen.2 = .cpu := by
  rw [pickCpu_eq_pickTier] at found
  exact poolType_of_pickTier found

/-- An entry of the pool it is named after, routable at this instant. -/
def PicksRoutable (snapshot : PoolSnapshot) (now : Instant)
    (chosen : SocketAddr × PoolType) : Prop :=
  ∃ upstream ∈ snapshot.pool chosen.2, upstream.addr = chosen.1 ∧ Routable upstream now

theorem picksRoutable_of_minByQueueDepth {eligible : UpstreamInfo → Bool}
    {poolType : PoolType}
    (passes : ∀ upstream, eligible upstream = true → Routable upstream now)
    (found : minByQueueDepth eligible (snapshot.pool poolType) poolType = some chosen) :
    PicksRoutable snapshot now chosen := by
  obtain ⟨rfl, upstream, member, eligible, sameAddr, -⟩ := exists_of_minByQueueDepth found
  exact ⟨upstream, member, sameAddr, passes upstream eligible⟩

theorem picksRoutable_of_pickTier (poolType : PoolType) {exclude : UpstreamInfo → Bool}
    (found : pickTier (snapshot.pool poolType) poolType now exclude = some chosen) :
    PicksRoutable snapshot now chosen := by
  rcases Option.or_eq_some_iff.mp found with ok | ⟨-, loading⟩
  · refine picksRoutable_of_minByQueueDepth (fun upstream passes => Or.inl ?_) ok
    exact (Bool.and_eq_true_iff.mp passes).2
  · refine picksRoutable_of_minByQueueDepth (fun upstream passes => Or.inr ?_) loading
    exact (Bool.and_eq_true_iff.mp passes).2

theorem picksRoutable_of_pickOk (poolType : PoolType)
    (found : pickOk (snapshot.pool poolType) poolType now = some chosen) :
    PicksRoutable snapshot now chosen :=
  picksRoutable_of_minByQueueDepth (fun _ passes => Or.inl passes) found

theorem picksRoutable_of_pickLoading (poolType : PoolType)
    (found : pickLoading (snapshot.pool poolType) poolType now = some chosen) :
    PicksRoutable snapshot now chosen :=
  picksRoutable_of_minByQueueDepth (fun _ passes => Or.inr passes) found

theorem picksRoutable_of_pickGpuExcludingSet {excluded : List SocketAddr}
    (found : pickGpuExcludingSet snapshot excluded now = some chosen) :
    PicksRoutable snapshot now chosen :=
  picksRoutable_of_pickTier .gpu found

theorem picksRoutable_of_pickGpu (found : pickGpu snapshot now = some chosen) :
    PicksRoutable snapshot now chosen := by
  rw [pickGpu_eq_excludingNothing] at found
  exact picksRoutable_of_pickGpuExcludingSet found

theorem picksRoutable_of_pickCpu (found : pickCpu snapshot now = some chosen) :
    PicksRoutable snapshot now chosen := by
  rw [pickCpu_eq_pickTier] at found
  exact picksRoutable_of_pickTier .cpu found

theorem picksRoutable_of_pick (found : pick snapshot now = some chosen) :
    PicksRoutable snapshot now chosen := by
  rcases Option.or_eq_some_iff.mp found with higher | ⟨-, cpuLoading⟩
  · rcases Option.or_eq_some_iff.mp higher with ok | ⟨-, gpuLoading⟩
    · rcases Option.or_eq_some_iff.mp ok with gpuOk | ⟨-, cpuOk⟩
      · exact picksRoutable_of_pickOk .gpu gpuOk
      · exact picksRoutable_of_pickOk .cpu cpuOk
    · exact picksRoutable_of_pickLoading .gpu gpuLoading
  · exact picksRoutable_of_pickLoading .cpu cpuLoading

end Picks

end BgeRouter
