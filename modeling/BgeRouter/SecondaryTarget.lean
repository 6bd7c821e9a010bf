import BgeRouter.RouteDispatch
import BgeRouter.SelectionOrder

/-!
# The secondary target of a hedged request

The secondary target is meant to be the best upstream that is left beside the
primary one.  It is selected by pool before tier, so a loading GPU peer is
raced although a CPU upstream is ok.
-/

namespace BgeRouter

/-- An eligible entry of least queue depth. -/
structure IsLeastLoaded (pool : List UpstreamInfo) (eligible : UpstreamInfo → Bool)
    (upstream : UpstreamInfo) : Prop where
  member : upstream ∈ pool
  passes : eligible upstream = true
  least : ∀ other ∈ pool, eligible other = true →
    upstream.queueDepth.toNat ≤ other.queueDepth.toNat

/-- A peer of the primary target that is eligible at a tier. -/
def peerEligible (primary : SocketAddr) (now : Instant) (tier : Tier)
    (upstream : UpstreamInfo) : Bool :=
  !decide (upstream.addr = primary) && tier.eligible now upstream

def Nobody (pool : List UpstreamInfo) (eligible : UpstreamInfo → Bool) : Prop :=
  ∀ upstream ∈ pool, eligible upstream = false

instance (pool : List UpstreamInfo) (eligible : UpstreamInfo → Bool) :
    Decidable (Nobody pool eligible) :=
  inferInstanceAs (Decidable (∀ upstream ∈ pool, _))

/-- **Reference specification.**  The secondary target is the least loaded of
the ok GPU peers, else of the ok CPU upstreams, else of the loading GPU peers,
else of the loading CPU upstreams. -/
structure BestRemaining (snapshot : PoolSnapshot) (now : Instant) (primary : SocketAddr)
    (secondary : Option (SocketAddr × PoolType)) : Prop where
  okGpu : ¬ Nobody snapshot.gpu (peerEligible primary now .ok) →
    ∃ upstream, IsLeastLoaded snapshot.gpu (peerEligible primary now .ok) upstream ∧
      secondary = some (upstream.addr, .gpu)
  okCpu : Nobody snapshot.gpu (peerEligible primary now .ok) →
    ¬ Nobody snapshot.cpu (Tier.ok.eligible now) →
    ∃ upstream, IsLeastLoaded snapshot.cpu (Tier.ok.eligible now) upstream ∧
      secondary = some (upstream.addr, .cpu)
  loadingGpu : Nobody snapshot.gpu (peerEligible primary now .ok) →
    Nobody snapshot.cpu (Tier.ok.eligible now) →
    ¬ Nobody snapshot.gpu (peerEligible primary now .loading) →
    ∃ upstream, IsLeastLoaded snapshot.gpu (peerEligible primary now .loading) upstream ∧
      secondary = some (upstream.addr, .gpu)
  loadingCpu : Nobody snapshot.gpu (peerEligible primary now .ok) →
    Nobody snapshot.cpu (Tier.ok.eligible now) →
    Nobody snapshot.gpu (peerEligible primary now .loading) →
    ¬ Nobody snapshot.cpu (Tier.loading.eligible now) →
    ∃ upstream, IsLeastLoaded snapshot.cpu (Tier.loading.eligible now) upstream ∧
      secondary = some (upstream.addr, .cpu)
  nothing : secondary = none ↔
    (∀ tier, Nobody snapshot.gpu (peerEligible primary now tier)) ∧
      ∀ tier, Nobody snapshot.cpu (Tier.eligible now tier)

/-- No GPU peer is ok but one is loading, and a CPU upstream is ok. -/
structure LoadingPeerBeforeOkCpu (snapshot : PoolSnapshot) (now : Instant)
    (primary : SocketAddr) : Prop where
  noOkPeer : Nobody snapshot.gpu (peerEligible primary now .ok)
  loadingPeer : ¬ Nobody snapshot.gpu (peerEligible primary now .loading)
  okCpu : ¬ Nobody snapshot.cpu (Tier.ok.eligible now)

section Target

variable {snapshot : PoolSnapshot} {now : Instant} {primary : SocketAddr}
  {eligible : UpstreamInfo → Bool} {pool : List UpstreamInfo} {poolType : PoolType}

/-- A search finds nothing if nobody is eligible, and else a least loaded entry. -/
theorem minByQueueDepth_cases (eligible : UpstreamInfo → Bool) (pool : List UpstreamInfo)
    (poolType : PoolType) :
    (minByQueueDepth eligible pool poolType = none ∧ Nobody pool eligible) ∨
      (¬ Nobody pool eligible ∧ ∃ upstream, IsLeastLoaded pool eligible upstream ∧
        minByQueueDepth eligible pool poolType = some (upstream.addr, poolType)) := by
  cases found : minByQueueDepth eligible pool poolType with
  | none => exact Or.inl ⟨rfl, minByQueueDepth_eq_none_iff.mp found⟩
  | some chosen =>
      obtain ⟨fromPool, upstream, member, passes, sameAddr, least⟩ :=
        exists_of_minByQueueDepth found
      right
      constructor
      · intro nobody
        rw [nobody upstream member] at passes
        cases passes
      · refine ⟨upstream, ⟨member, passes, least⟩, ?_⟩
        rw [sameAddr, ← fromPool]

/-- The four searches behind the secondary target, in the order of the code. -/
theorem secondaryCandidate_eq {gpuPool : PoolType}
    (picked : pickGpu snapshot now = some (primary, gpuPool)) :
    secondaryCandidate snapshot now =
      (((minByQueueDepth (peerEligible primary now .ok) snapshot.gpu .gpu).or
        (minByQueueDepth (peerEligible primary now .loading) snapshot.gpu .gpu)).or
      ((minByQueueDepth (Tier.ok.eligible now) snapshot.cpu .cpu).or
        (minByQueueDepth (Tier.loading.eligible now) snapshot.cpu .cpu))) := by
  rw [secondaryCandidate, picked, Option.bind_some, pickGpuExcludingSet, pickTier, pickCpu,
    pickOk, pickLoading]
  simp only [List.mem_singleton]
  rfl

theorem nobody_tiers_iff {test : Tier → UpstreamInfo → Bool} :
    (∀ tier, Nobody pool (test tier)) ↔
      Nobody pool (test .ok) ∧ Nobody pool (test .loading) := by
  constructor
  · intro nobody
    exact ⟨nobody .ok, nobody .loading⟩
  · rintro ⟨noOk, noLoading⟩ tier
    cases tier with
    | ok => exact noOk
    | loading => exact noLoading

/-- An ok peer is the best that can remain. -/
theorem bestRemaining_of_okPeer {upstream : UpstreamInfo}
    (okPeers : ¬ Nobody snapshot.gpu (peerEligible primary now .ok))
    (best : IsLeastLoaded snapshot.gpu (peerEligible primary now .ok) upstream) :
    BestRemaining snapshot now primary (some (upstream.addr, .gpu)) where
  okGpu := fun _ => ⟨upstream, best, rfl⟩
  okCpu := fun noOkPeer => absurd noOkPeer okPeers
  loadingGpu := fun noOkPeer => absurd noOkPeer okPeers
  loadingCpu := fun noOkPeer => absurd noOkPeer okPeers
  nothing := iff_of_false (by simp) fun nobody => okPeers (nobody.1 .ok)

/-- Without ok peers a loading peer is the best to remain, unless a CPU upstream
is ok. -/
theorem bestRemaining_loadingPeer_iff {upstream : UpstreamInfo}
    (noOkPeer : Nobody snapshot.gpu (peerEligible primary now .ok))
    (loadingPeers : ¬ Nobody snapshot.gpu (peerEligible primary now .loading))
    (best : IsLeastLoaded snapshot.gpu (peerEligible primary now .loading) upstream) :
    BestRemaining snapshot now primary (some (upstream.addr, .gpu)) ↔
      ¬ LoadingPeerBeforeOkCpu snapshot now primary := by
  constructor
  · rintro remaining ⟨-, -, okCpus⟩
    obtain ⟨cpu, -, same⟩ := remaining.okCpu noOkPeer okCpus
    have pools := congrArg Prod.snd (Option.some.inj same)
    cases pools
  · intro apart
    have noOkCpu : Nobody snapshot.cpu (Tier.ok.eligible now) :=
      not_not.mp fun okCpus => apart ⟨noOkPeer, loadingPeers, okCpus⟩
    exact {
      okGpu := fun okPeers => absurd noOkPeer okPeers
      okCpu := fun _ okCpus => absurd noOkCpu okCpus
      loadingGpu := fun _ _ _ => ⟨upstream, best, rfl⟩
      loadingCpu := fun _ _ noLoadingPeer => absurd noLoadingPeer loadingPeers
      nothing := iff_of_false (by simp) fun nobody => loadingPeers (nobody.1 .loading) }

/-- Without peers the search of the CPU pool yields the best to remain. -/
theorem bestRemaining_of_noPeers
    (noOkPeer : Nobody snapshot.gpu (peerEligible primary now .ok))
    (noLoadingPeer : Nobody snapshot.gpu (peerEligible primary now .loading)) :
    BestRemaining snapshot now primary
      ((minByQueueDepth (Tier.ok.eligible now) snapshot.cpu .cpu).or
        (minByQueueDepth (Tier.loading.eligible now) snapshot.cpu .cpu)) := by
  rcases minByQueueDepth_cases (Tier.ok.eligible now) snapshot.cpu .cpu with
    ⟨okCpu, noOkCpu⟩ | ⟨okCpus, upstream, best, okCpu⟩
  · rcases minByQueueDepth_cases (Tier.loading.eligible now) snapshot.cpu .cpu with
      ⟨loadingCpu, noLoadingCpu⟩ | ⟨loadingCpus, upstream, best, loadingCpu⟩
    · rw [okCpu, loadingCpu]
      exact {
        okGpu := fun okPeers => absurd noOkPeer okPeers
        okCpu := fun _ okCpus => absurd noOkCpu okCpus
        loadingGpu := fun _ _ loadingPeers => absurd noLoadingPeer loadingPeers
        loadingCpu := fun _ _ _ loadingCpus => absurd noLoadingCpu loadingCpus
        nothing := iff_of_true rfl ⟨nobody_tiers_iff.mpr ⟨noOkPeer, noLoadingPeer⟩,
          nobody_tiers_iff.mpr ⟨noOkCpu, noLoadingCpu⟩⟩ }
    · rw [okCpu, loadingCpu, Option.none_or]
      exact {
        okGpu := fun okPeers => absurd noOkPeer okPeers
        okCpu := fun _ okCpus => absurd noOkCpu okCpus
        loadingGpu := fun _ _ loadingPeers => absurd noLoadingPeer loadingPeers
        loadingCpu := fun _ _ _ _ => ⟨upstream, best, rfl⟩
        nothing := iff_of_false (by simp) fun nobody => loadingCpus (nobody.2 .loading) }
  · rw [okCpu, Option.some_or]
    exact {
      okGpu := fun okPeers => absurd noOkPeer okPeers
      okCpu := fun _ _ => ⟨upstream, best, rfl⟩
      loadingGpu := fun _ noOkCpu => absurd noOkCpu okCpus
      loadingCpu := fun _ noOkCpu => absurd noOkCpu okCpus
      nothing := iff_of_false (by simp) fun nobody => okCpus (nobody.2 .ok) }

/-- The code's order and the order of the tiers agree unless a loading peer
competes with an ok CPU upstream. -/
theorem bestRemaining_searches_iff :
    BestRemaining snapshot now primary
        (((minByQueueDepth (peerEligible primary now .ok) snapshot.gpu .gpu).or
          (minByQueueDepth (peerEligible primary now .loading) snapshot.gpu .gpu)).or
        ((minByQueueDepth (Tier.ok.eligible now) snapshot.cpu .cpu).or
          (minByQueueDepth (Tier.loading.eligible now) snapshot.cpu .cpu))) ↔
      ¬ LoadingPeerBeforeOkCpu snapshot now primary := by
  rcases minByQueueDepth_cases (peerEligible primary now .ok) snapshot.gpu .gpu with
    ⟨okPeer, noOkPeer⟩ | ⟨okPeers, upstream, best, okPeer⟩
  · rcases minByQueueDepth_cases (peerEligible primary now .loading) snapshot.gpu .gpu with
      ⟨loadingPeer, noLoadingPeer⟩ | ⟨loadingPeers, upstream, best, loadingPeer⟩
    · rw [okPeer, loadingPeer, Option.or_none, Option.none_or]
      exact iff_of_true (bestRemaining_of_noPeers noOkPeer noLoadingPeer)
        fun before => before.loadingPeer noLoadingPeer
    · rw [okPeer, loadingPeer, Option.none_or, Option.some_or]
      exact bestRemaining_loadingPeer_iff noOkPeer loadingPeers best
  · rw [okPeer, Option.some_or, Option.some_or]
    exact iff_of_true (bestRemaining_of_okPeer okPeers best)
      fun before => okPeers before.noOkPeer

/-- **Exact condition for the best secondary target.** -/
theorem secondaryCandidate_bestRemaining_iff {gpuPool : PoolType}
    (picked : pickGpu snapshot now = some (primary, gpuPool)) :
    BestRemaining snapshot now primary (secondaryCandidate snapshot now) ↔
      ¬ LoadingPeerBeforeOkCpu snapshot now primary := by
  rw [secondaryCandidate_eq picked]
  exact bestRemaining_searches_iff

end Target

/-- A GPU upstream that is ok with an idle peer, and a healthy CPU upstream. -/
def idlePeerOkCpu : PoolSnapshot where
  gpu := [⟨.sampleGpu, .gpu, .ok, 0, 1, 0, none⟩, ⟨.samplePeer, .gpu, .loading, 0, 1, 0, none⟩]
  cpu := [⟨.sampleCpu, .cpu, .ok, 0, 1, 0, none⟩]
  updatedAt := 0

/-- Without the idle peer the healthy CPU upstream is raced. -/
theorem bestRemaining_withoutPeer :
    BestRemaining (idlePeerOkCpu.withoutGpu [.samplePeer]) 0 .sampleGpu
      (secondaryCandidate (idlePeerOkCpu.withoutGpu [.samplePeer]) 0) := by
  have picked : pickGpu (idlePeerOkCpu.withoutGpu [.samplePeer]) 0 = some (.sampleGpu, .gpu) := by
    decide
  apply (secondaryCandidate_bestRemaining_iff picked).mpr
  rintro ⟨-, loadingPeer, -⟩
  exact loadingPeer (by decide)

/-- The idle peer is raced, although the CPU upstream is ok. -/
theorem idlePeer_raced_before_okCpu :
    pickGpu idlePeerOkCpu 0 = some (.sampleGpu, .gpu) ∧
      secondaryCandidate idlePeerOkCpu 0 = some (.samplePeer, .gpu) ∧
      ¬ BestRemaining idlePeerOkCpu 0 .sampleGpu (secondaryCandidate idlePeerOkCpu 0) := by
  have secondary : secondaryCandidate idlePeerOkCpu 0 = some (.samplePeer, .gpu) := by decide
  refine ⟨by decide, secondary, fun remaining => ?_⟩
  obtain ⟨upstream, -, same⟩ := remaining.okCpu (by decide) (by decide)
  rw [secondary] at same
  have pools := congrArg Prod.snd (Option.some.inj same)
  cases pools

end BgeRouter
