import BgeRouter.PoolProvenance
import BgeRouter.PriorityOrder

/-!
# Cooldowns end

Background tasks may store outdated snapshots and `trip` calls may be delayed
between their steps, but the end of every window was computed when its call
read the clock.  Once the longest trip duration has passed since the last call
for an address, nothing of that address is cooling down any more, wherever the
calls and the tasks were held up.
-/

namespace BgeRouter

open PartialRuns

/-- No trip of the run is longer than this. -/
def TripsAtMost (limit : Duration) (actions : List WriterAction) : Prop :=
  ∀ addr duration, .tripStart addr duration ∈ actions → duration ≤ limit

/-- No trip of the address starts. -/
def NoTripOf (addr : SocketAddr) (actions : List WriterAction) : Prop :=
  ∀ duration, 0 < duration → .tripStart addr duration ∉ actions

/-- Some upstream of the pool is reported to accept requests. -/
def HasAccepting (pool : List UpstreamInfo) : Prop :=
  ∃ upstream ∈ pool, upstream.report.Accepting

/-- The selectors find an upstream exactly where one is reported to accept
requests. -/
structure RoutesByReport (snapshot : PoolSnapshot) (now : Instant) : Prop where
  gpu : (∃ chosen, pickGpu snapshot now = some chosen) ↔ HasAccepting snapshot.gpu
  cpu : (∃ chosen, pickCpu snapshot now = some chosen) ↔ HasAccepting snapshot.cpu
  all : (∃ chosen, pick snapshot now = some chosen) ↔ HasAccepting snapshot.entries
  /-- on either path a request is refused only when nothing accepts it -/
  served : ∀ client cfg ctx reads policy, (∀ loads, reads loads [] = snapshot) →
    (firstUpstream (dispatch client cfg ctx reads policy now).effects = none ↔
      ¬ HasAccepting snapshot.entries)

section Selection

variable {snapshot : PoolSnapshot} {upstream : UpstreamInfo} {now : Instant}

theorem routable_iff :
    Routable upstream now ↔
      upstream.report.Accepting ∧ upstream.isInCooldown now = false := by
  constructor
  · intro routable
    exact ⟨routable.accepting, routable.not_inCooldown⟩
  · rintro ⟨ok | ⟨loading, live⟩, idle⟩
    · left
      have status : upstream.status = .ok := ok
      simp [isOkEligible, status, idle]
    · right
      have status : upstream.status = .loading := loading
      have workers : 0 < upstream.liveWorkers := live
      simp [isLoadingEligible, status, idle, workers]

/-- The two tiers of a pool, taken together. -/
theorem exists_pickTiers_iff {pool : List UpstreamInfo} {poolType : PoolType} :
    (∃ chosen, (pickOk pool poolType now).or (pickLoading pool poolType now) = some chosen) ↔
      ∃ upstream ∈ pool, Routable upstream now := by
  rw [← Option.ne_none_iff_exists', ne_eq, Option.or_eq_none_iff, pickOk, pickLoading,
    minByQueueDepth_eq_none_iff, minByQueueDepth_eq_none_iff]
  constructor
  · intro found
    by_contra nobody
    push Not at nobody
    refine found ⟨fun upstream member => ?_, fun upstream member => ?_⟩
    · exact Bool.eq_false_of_not_eq_true fun ok => nobody upstream member (Or.inl ok)
    · exact Bool.eq_false_of_not_eq_true fun loading =>
        nobody upstream member (Or.inr loading)
  · rintro ⟨upstream, member, ok | loading⟩ ⟨noOk, noLoading⟩
    · rw [noOk upstream member] at ok
      cases ok
    · rw [noLoading upstream member] at loading
      cases loading

theorem exists_pick_iff :
    (∃ chosen, pick snapshot now = some chosen) ↔
      (∃ chosen, pickGpu snapshot now = some chosen) ∨
        ∃ chosen, pickCpu snapshot now = some chosen := by
  simp only [← Option.ne_none_iff_exists', ne_eq, pick_eq_none_iff, Option.or_eq_none_iff]
  exact not_and_or

/-- Where nothing is cooling down, the reports alone decide. -/
theorem routesByReport_of_idle
    (idle : ∀ upstream ∈ snapshot.entries, upstream.isInCooldown now = false) :
    RoutesByReport snapshot now := by
  have pools : ∀ poolType, (∃ upstream ∈ snapshot.pool poolType, Routable upstream now) ↔
      HasAccepting (snapshot.pool poolType) := by
    intro poolType
    refine exists_congr fun upstream => and_congr_right fun member => ?_
    rw [routable_iff, idle upstream (PoolSnapshot.mem_entries.mpr ⟨poolType, member⟩)]
    exact and_iff_left rfl
  have gpu : (∃ chosen, pickGpu snapshot now = some chosen) ↔ HasAccepting snapshot.gpu :=
    exists_pickTiers_iff.trans (pools .gpu)
  have cpu : (∃ chosen, pickCpu snapshot now = some chosen) ↔ HasAccepting snapshot.cpu :=
    exists_pickTiers_iff.trans (pools .cpu)
  have all : (∃ chosen, pick snapshot now = some chosen) ↔ HasAccepting snapshot.entries := by
    rw [exists_pick_iff, gpu, cpu, HasAccepting, HasAccepting, HasAccepting,
      PoolSnapshot.entries]
    simp only [List.mem_append, or_and_right, exists_or]
  refine ⟨gpu, cpu, all, fun client cfg ctx reads policy shown => ?_⟩
  rw [firstUpstream_dispatch client cfg ctx now shown policy, ← all,
    ← Option.ne_none_iff_exists', ne_eq, not_not, pick_eq_none_iff]

end Selection

section Expiry

variable {before after : List WriterAction} {state later : RouterState}
  {limit : Duration}

/-- A trip of an address that is quiet later on started before that. -/
theorem TripStartedIn.of_append {addr : SocketAddr} {duration : Duration} {start : Instant}
    (started : TripStartedIn (before ++ after) addr duration start) (positive : 0 < duration)
    (quiet : NoTripOf addr after) : TripStartedIn before addr duration start := by
  obtain ⟨visited, performed, clock⟩ := started
  exact ⟨visited, performed.of_append (quiet duration positive), clock⟩

/-- **Cooldowns end.**  An address that no call has tripped for the length of
the longest trip is out of cooldown.  Where that holds of all addresses, the
selectors and both request paths go by the reports alone. -/
theorem cooldown_ends (reached : run writerStep .initial before = some state)
    (reaches : run writerStep state after = some later)
    (bounded : TripsAtMost limit (before ++ after))
    (passed : state.clock + limit ≤ later.clock) :
    (∀ addr, NoTripOf addr after → IdleAddress later.snapshot addr later.clock) ∧
      ((∀ addr, NoTripOf addr after) → RoutesByReport later.snapshot later.clock) := by
  have reachesLater : run writerStep .initial (before ++ after) = some later :=
    run_append.mpr ⟨state, reached, reaches⟩
  have idle : ∀ addr, NoTripOf addr after →
      IdleAddress later.snapshot addr later.clock := by
    rintro addr quiet upstream member rfl
    obtain ⟨poolType, member⟩ := PoolSnapshot.mem_entries.mp member
    have entry := (runProvenance_of_run reachesLater).pool.current poolType upstream member
    rw [← Bool.not_eq_true, isInCooldown_iff]
    rintro ⟨deadline, window, ahead⟩
    obtain ⟨duration, start, started, positive, rfl⟩ := entry.window deadline window
    have early := (started.of_append positive quiet).start_le reached
    obtain ⟨visited, performed, -⟩ := started
    have short := bounded _ _ performed.mem
    have closed : start + duration ≤ later.clock :=
      Nat.le_trans (Nat.add_le_add early short) passed
    exact Nat.lt_irrefl _ (Nat.lt_of_lt_of_le ahead closed)
  refine ⟨idle, fun quiet => routesByReport_of_idle fun upstream member => ?_⟩
  exact idle upstream.addr (quiet upstream.addr) upstream member rfl

/-- A trip is held up before its `rcu` until its window is nearly over, and a
poll that had loaded before that brings the upstream's report. -/
theorem cooldown_ends_sample :
    ∃ state later, run writerStep .initial (pollInFlight ++
        [.tripStart .sampleGpu 30, .tripFastPath 0]) = some state ∧
      run writerStep state [.tick 29, .pollStore, .tripRcu 0, .tick 1] = some later ∧
      IdleAddress later.snapshot .sampleGpu later.clock ∧
      RoutesByReport later.snapshot later.clock := by
  have bounded : TripsAtMost 30 ((pollInFlight ++
      [.tripStart .sampleGpu 30, .tripFastPath 0]) ++
        [.tick 29, .pollStore, .tripRcu 0, .tick 1]) := by
    intro addr duration member
    simp [pollInFlight] at member
    exact Nat.le_of_eq member.2
  have quiet : ∀ addr, NoTripOf addr [.tick 29, .pollStore, .tripRcu 0, .tick 1] := by
    intro addr duration positive member
    simp at member
  obtain ⟨idle, routes⟩ := cooldown_ends rfl rfl bounded (Nat.le_refl 30)
  exact ⟨_, _, rfl, rfl, idle _ (quiet _), routes quiet⟩

end Expiry

end BgeRouter
