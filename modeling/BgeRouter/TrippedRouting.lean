import BgeRouter.CircuitBreaker
import BgeRouter.Discovery
import BgeRouter.RoutingPolicy

/-!
# Routing right after a trip

An address may have several entries: both DNS names may resolve to it, and one
answer may repeat it.  A trip reaches all of them only when they agree.  If
some of them are cooling down, the fast path skips the rest, and otherwise only
the first entry of each pool is updated.
-/

namespace BgeRouter

/-- Every entry of the address is in cooldown, and no selector returns it. -/
structure OutOfRouting (snapshot : PoolSnapshot) (addr : SocketAddr)
    (now : Instant) : Prop where
  cooled : ∀ upstream ∈ snapshot.entries, upstream.addr = addr →
    upstream.isInCooldown now = true
  notPicked : ∀ poolType, pick snapshot now ≠ some (addr, poolType)
  notPickedGpu : ∀ poolType, pickGpu snapshot now ≠ some (addr, poolType)
  notPickedCpu : ∀ poolType, pickCpu snapshot now ≠ some (addr, poolType)
  notPickedExcluding : ∀ excluded poolType,
    pickGpuExcludingSet snapshot excluded now ≠ some (addr, poolType)

/-- The entries of the address agree: all of them are in cooldown, or none is
and no pool repeats the address. -/
def EntriesAgree (snapshot : PoolSnapshot) (addr : SocketAddr) (now : Instant) : Prop :=
  (∀ upstream ∈ snapshot.entries, upstream.addr = addr →
    upstream.isInCooldown now = true) ∨
  (IdleAddress snapshot addr now ∧
    ∀ poolType, (addresses (snapshot.pool poolType)).count addr ≤ 1)

section Trip

variable {snapshot : PoolSnapshot} {addr : SocketAddr} {duration : Duration}
  {now : Instant}

/-- A selector returns routable entries only, so it skips a cooled address. -/
theorem not_picksRoutable_of_cooled
    (cooled : ∀ upstream ∈ snapshot.entries, upstream.addr = addr →
      upstream.isInCooldown now = true) (poolType : PoolType) :
    ¬ PicksRoutable snapshot now (addr, poolType) := by
  rintro ⟨upstream, member, sameAddr, routable⟩
  have inCooldown := cooled upstream (PoolSnapshot.mem_entries.mpr ⟨poolType, member⟩) sameAddr
  rw [routable.not_inCooldown] at inCooldown
  exact Bool.noConfusion inCooldown

theorem outOfRouting_iff_cooled :
    OutOfRouting snapshot addr now ↔
      ∀ upstream ∈ snapshot.entries, upstream.addr = addr →
        upstream.isInCooldown now = true := by
  constructor
  · intro out
    exact out.cooled
  · intro cooled
    exact {
      cooled := cooled
      notPicked := fun poolType found =>
        not_picksRoutable_of_cooled cooled poolType (picksRoutable_of_pick found)
      notPickedGpu := fun poolType found =>
        not_picksRoutable_of_cooled cooled poolType (picksRoutable_of_pickGpu found)
      notPickedCpu := fun poolType found =>
        not_picksRoutable_of_cooled cooled poolType (picksRoutable_of_pickCpu found)
      notPickedExcluding := fun _ poolType found =>
        not_picksRoutable_of_cooled cooled poolType
          (picksRoutable_of_pickGpuExcludingSet found) }

theorem tripRcu_cools_all_iff {deadline : Instant} (ahead : now < deadline)
    (idle : IdleAddress snapshot addr now) :
    (∀ upstream ∈ (tripRcu snapshot addr deadline now).entries, upstream.addr = addr →
        upstream.isInCooldown now = true) ↔
      ∀ poolType, (addresses (snapshot.pool poolType)).count addr ≤ 1 := by
  have poolWise : ∀ poolType,
      (∀ upstream ∈ (tripRcu snapshot addr deadline now).pool poolType,
          upstream.addr = addr → upstream.isInCooldown now = true) ↔
        (addresses (snapshot.pool poolType)).count addr ≤ 1 := by
    intro poolType
    rw [tripRcu_pool]
    apply tripPool_cools_all_iff ahead
    intro upstream member
    exact idle upstream (PoolSnapshot.mem_entries.mpr ⟨poolType, member⟩)
  constructor
  · intro cooled poolType
    apply (poolWise poolType).mp
    intro upstream member
    exact cooled upstream (PoolSnapshot.mem_entries.mpr ⟨poolType, member⟩)
  · intro unique upstream member
    obtain ⟨poolType, member⟩ := PoolSnapshot.mem_entries.mp member
    exact (poolWise poolType).mpr (unique poolType) upstream member

/-- **Exact condition for a trip to take an address out of routing.** -/
theorem outOfRouting_trip_iff_entriesAgree (positive : 0 < duration) :
    OutOfRouting (trip snapshot addr duration now) addr now ↔
      EntriesAgree snapshot addr now := by
  rw [outOfRouting_iff_cooled]
  cases fastPath : alreadyCooled snapshot addr now with
  | true =>
      rw [trip_of_alreadyCooled fastPath]
      obtain ⟨cooling, member, sameAddr, running⟩ := alreadyCooled_iff.mp fastPath
      constructor
      · intro cooled
        exact Or.inl cooled
      · rintro (cooled | ⟨idle, -⟩)
        · exact cooled
        · rw [idle cooling member sameAddr] at running
          exact Bool.noConfusion running
  | false =>
      rw [trip_of_not_alreadyCooled positive fastPath]
      have idle := alreadyCooled_eq_false_iff.mp fastPath
      rw [tripRcu_cools_all_iff (Nat.lt_add_of_pos_right positive) idle]
      constructor
      · intro unique
        exact Or.inr ⟨idle, unique⟩
      · rintro (cooled | ⟨-, unique⟩)
        · intro poolType
          have absent : addr ∉ addresses (snapshot.pool poolType) := by
            intro listed
            obtain ⟨upstream, member, sameAddr⟩ := mem_addresses.mp listed
            have inEntries := PoolSnapshot.mem_entries.mpr ⟨poolType, member⟩
            have running := cooled upstream inEntries sameAddr
            rw [idle upstream inEntries sameAddr] at running
            exact Bool.noConfusion running
          rw [List.count_eq_zero_of_not_mem absent]
          exact Nat.zero_le 1
        · exact unique

end Trip

/-- One backend under both DNS names: its GPU entry is in cooldown for 30 s,
its CPU entry was discovered later and then polled. -/
def lateTwin : PoolSnapshot where
  gpu := [⟨.sampleGpu, .gpu, .ok, 0, 1, 0, some (Duration.fromSecs 30)⟩]
  cpu := [⟨.sampleGpu, .cpu, .ok, 0, 1, 0, none⟩]
  updatedAt := 0

/-- After the window the two entries agree, and a trip reaches both. -/
theorem lateTwin_outOfRouting_after_window :
    OutOfRouting (trip lateTwin .sampleGpu (Duration.fromSecs 30) (Duration.fromSecs 40))
      .sampleGpu (Duration.fromSecs 40) :=
  (outOfRouting_trip_iff_entriesAgree (by decide)).mpr
    (Or.inr ⟨by decide, fun poolType => by cases poolType <;> decide⟩)

/-- Within the window of the GPU entry the trip leaves the CPU entry alone, and
requests keep going to the address. -/
theorem trip_leaves_twin_routable :
    ¬ ∀ (current : PoolSnapshot) (gpuResult cpuResult : ResolveResult)
        (mergedAt : Instant) (addr : SocketAddr) (duration : Duration) (now : Instant),
      0 < duration →
      OutOfRouting (trip (merge current gpuResult cpuResult mergedAt) addr duration now)
        addr now := by
  intro claim
  have out := claim lateTwin (.resolved [.sampleGpu]) (.resolved [.sampleGpu]) 0
    .sampleGpu (Duration.fromSecs 30) (Duration.fromSecs 10) (by decide)
  exact out.notPicked .cpu (by decide)

end BgeRouter
