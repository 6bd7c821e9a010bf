import BgeRouter.HedgedPoolEffect
import BgeRouter.Library.RaisingFolds

/-!
# Requests that cannot be built

When the URL of the outgoing request is invalid, `send` fails at once and
nothing is sent.  The retry loop takes this for a failure of the upstream: it
retries, and trips the breaker in the end.  Such a request leaves the pool alone
only if the fast path skips each of its trips.
-/

namespace BgeRouter

open RaisingFolds

/-- No request to any upstream can be built: the error comes before anything is
sent. -/
def FailsToBuild (client : Client) (ctx : ForwardCtx) : Prop :=
  ∀ call addr, client.send call (outgoingRequest ctx addr) =
    { wire := [], completion := some (0, .error .builder) }

def KeepsWindows (before after : PoolSnapshot) : Prop :=
  ∀ poolType, (after.pool poolType).map UpstreamInfo.cooldownUntil =
    (before.pool poolType).map UpstreamInfo.cooldownUntil

/-- Tripping is disabled, or the fast path finds the address in cooldown. -/
def TripSkipped (cfg : RetryConfig) (snapshot : PoolSnapshot) (addr : SocketAddr)
    (time : Instant) : Prop :=
  cfg.cooldown = 0 ∨ alreadyCooled snapshot addr time = true

/-- The upstreams of a hedged request and the instants of their last attempts. -/
def HedgedPlan.lastAttempts (cfg : RetryConfig) (hedgeDelay : Duration) (start : Instant) :
    HedgedPlan → List (SocketAddr × Instant)
  | nothing => []
  | direct addr _ => [(addr, start + totalBackoff cfg)]
  | race gpuAddr secondaryAddr _ =>
      [(gpuAddr, start + totalBackoff cfg),
        (secondaryAddr, start + hedgeDelay + totalBackoff cfg)]

/-- Each trip of a sequential request is skipped: the GPU attempts last until
their retries or the timeout are over, and the CPU attempt trips only if its
retries are over in time. -/
def SequentialSkips (cfg : RetryConfig) (perUpstream : Duration) (snapshot : PoolSnapshot) :
    (left : Nat) → (tried : List SocketAddr) → Option (SocketAddr × PoolType) → Instant → Prop
  | left + 1, tried, some (gpuAddr, _), now =>
      let ended := now + min (totalBackoff (attemptCfg cfg perUpstream)) perUpstream
      TripSkipped cfg snapshot gpuAddr ended ∧
        SequentialSkips cfg perUpstream snapshot left (tried ++ [gpuAddr])
          (pickGpuExcludingSet snapshot (tried ++ [gpuAddr]) ended) ended
  | _, _, _, now =>
      ∀ cpuAddr, pickCpu snapshot now = some (cpuAddr, .cpu) →
        totalBackoff cfg ≤ perUpstream →
        TripSkipped cfg snapshot cpuAddr (now + totalBackoff cfg)

/-- Each trip of the request is skipped on the snapshot that it starts from. -/
def SkipsTrips (cfg : RetryConfig) (snapshot : PoolSnapshot) (start : Instant) :
    RoutePolicy → Prop
  | .hedged delay =>
      ∀ last ∈ (hedgedPlan snapshot start).lastAttempts cfg delay start,
        TripSkipped cfg snapshot last.1 last.2
  | .sequentialTimeout perUpstream =>
      SequentialSkips cfg perUpstream snapshot maxGpuAttempts [] (pickGpu snapshot start) start

section Windows

variable {snapshot before after : PoolSnapshot} {pool : List UpstreamInfo}
  {addr : SocketAddr} {poolType : PoolType} {duration : Duration} {deadline now : Instant}

/-- Ranks the windows of a pool by how late they end. -/
def poolRank : List UpstreamInfo → Nat
  | [] => 0
  | upstream :: rest => upstream.cooldownUntil.elim 0 (· + 1) + poolRank rest

def windowRank (snapshot : PoolSnapshot) : Nat :=
  poolRank snapshot.gpu + poolRank snapshot.cpu

theorem poolRank_cons (upstream : UpstreamInfo) (rest : List UpstreamInfo) :
    poolRank (upstream :: rest) =
      upstream.cooldownUntil.elim 0 (· + 1) + poolRank rest :=
  rfl

theorem poolRank_congr {other : List UpstreamInfo}
    (same : other.map UpstreamInfo.cooldownUntil = pool.map UpstreamInfo.cooldownUntil) :
    poolRank other = poolRank pool := by
  induction pool generalizing other with
  | nil =>
      obtain rfl := List.map_eq_nil_iff.mp same
      rfl
  | cons upstream rest ih =>
      cases other with
      | nil => cases same
      | cons otherUpstream otherRest =>
          simp only [List.map_cons, List.cons.injEq] at same
          rw [poolRank_cons, poolRank_cons, same.1, ih same.2]

theorem window_lt_of_idle {upstream : UpstreamInfo}
    (idle : upstream.isInCooldown now = false) (ahead : now < deadline) :
    upstream.cooldownUntil.elim 0 (· + 1) < deadline + 1 := by
  cases window : upstream.cooldownUntil with
  | none => exact Nat.succ_pos deadline
  | some old =>
      have past : ¬ now < old := by
        intro running
        rw [isInCooldown_iff.mpr ⟨old, window, running⟩] at idle
        cases idle
      have order : old < deadline := Nat.lt_of_le_of_lt (Nat.not_lt.mp past) ahead
      exact Nat.succ_lt_succ order

variable (pool addr) in
theorem tripPool_raises (ahead : now < deadline) :
    tripPool addr deadline now pool = (pool, false) ∨
      poolRank pool < poolRank (tripPool addr deadline now pool).1 := by
  induction pool with
  | nil => exact Or.inl rfl
  | cons upstream rest ih =>
      by_cases same : upstream.addr = addr
      · cases cooling : upstream.isInCooldown now with
        | true => exact Or.inl (tripPool_cons_of_cooling same cooling)
        | false =>
            right
            rw [tripPool_cons_of_idle same cooling, poolRank_cons, poolRank_cons]
            exact Nat.add_lt_add_right (window_lt_of_idle cooling ahead) _
      · rw [tripPool_cons_of_ne same]
        rcases ih with unchanged | raised
        · rw [unchanged]
          exact Or.inl rfl
        · rw [poolRank_cons, poolRank_cons]
          exact Or.inr (Nat.add_lt_add_left raised _)

variable (pool addr) in
theorem poolRank_le_tripPool (ahead : now < deadline) :
    poolRank pool ≤ poolRank (tripPool addr deadline now pool).1 := by
  rcases tripPool_raises pool addr ahead with unchanged | raised
  · rw [unchanged]
  · exact Nat.le_of_lt raised

theorem poolRank_lt_tripPool_of_idle (ahead : now < deadline)
    (listed : addr ∈ addresses pool)
    (idle : ∀ upstream ∈ pool, upstream.addr = addr → upstream.isInCooldown now = false) :
    poolRank pool < poolRank (tripPool addr deadline now pool).1 := by
  induction pool with
  | nil => simp at listed
  | cons upstream rest ih =>
      by_cases same : upstream.addr = addr
      · have cooling := idle upstream List.mem_cons_self same
        rw [tripPool_cons_of_idle same cooling, poolRank_cons, poolRank_cons]
        exact Nat.add_lt_add_right (window_lt_of_idle cooling ahead) _
      · have inRest : addr ∈ addresses rest := by
          simpa [addresses, Ne.symm same] using listed
        have raised := ih inRest fun other member =>
          idle other (List.mem_cons_of_mem _ member)
        rw [tripPool_cons_of_ne same, poolRank_cons, poolRank_cons]
        exact Nat.add_lt_add_left raised _

/-- A trip leaves the snapshot alone or makes some window end later. -/
theorem raises_trip :
    Raises (fun current (made : Instant × SocketAddr × Duration) =>
      trip current made.2.1 made.2.2 made.1) windowRank := by
  rintro snapshot ⟨now, addr, duration⟩
  simp only [trip]
  split_ifs with zero cooled
  · exact Or.inl rfl
  · exact Or.inl rfl
  · have ahead : now < now + duration := Nat.lt_add_of_pos_right (Nat.pos_of_ne_zero zero)
    have gpuOrder := poolRank_le_tripPool snapshot.gpu addr ahead
    have cpuOrder := poolRank_le_tripPool snapshot.cpu addr ahead
    rcases tripPool_raises snapshot.gpu addr ahead with gpuSame | gpuRaised
    · rcases tripPool_raises snapshot.cpu addr ahead with cpuSame | cpuRaised
      · left
        rw [tripRcu, gpuSame, cpuSame]
        rfl
      · exact Or.inr (Nat.add_lt_add_of_le_of_lt gpuOrder cpuRaised)
    · exact Or.inr (Nat.add_lt_add_of_lt_of_le gpuRaised cpuOrder)

theorem trip_eq_self_iff (listed : addr ∈ addresses (snapshot.pool poolType)) :
    trip snapshot addr duration now = snapshot ↔
      duration = 0 ∨ alreadyCooled snapshot addr now = true := by
  constructor
  · intro same
    by_contra effective
    obtain ⟨nonzero, notCooled⟩ := not_or.mp effective
    have positive := Nat.pos_of_ne_zero nonzero
    have uncooled := Bool.eq_false_iff.mpr notCooled
    have idle := alreadyCooled_eq_false_iff.mp uncooled
    rw [trip_of_not_alreadyCooled positive uncooled] at same
    have samePool : (tripPool addr (now + duration) now (snapshot.pool poolType)).1 =
        snapshot.pool poolType := by
      rw [← tripRcu_pool, same]
    have raised := poolRank_lt_tripPool_of_idle (Nat.lt_add_of_pos_right positive) listed
      fun upstream member => idle upstream (PoolSnapshot.mem_entries.mpr ⟨_, member⟩)
    rw [samePool] at raised
    exact Nat.lt_irrefl _ raised
  · rintro (rfl | cooled)
    · simp [trip]
    · exact trip_of_alreadyCooled cooled

theorem KeepsWindows.windowRank_eq (keeps : KeepsWindows before after) :
    windowRank after = windowRank before := by
  have gpuRank : poolRank after.gpu = poolRank before.gpu := poolRank_congr (keeps .gpu)
  have cpuRank : poolRank after.cpu = poolRank before.cpu := poolRank_congr (keeps .cpu)
  rw [windowRank, gpuRank, cpuRank]
  rfl

theorem not_keepsWindows_of_effective {made : Instant × SocketAddr × Duration}
    (effective : trip snapshot made.2.1 made.2.2 made.1 ≠ snapshot)
    (later : List (Instant × SocketAddr × Duration)) :
    ¬ KeepsWindows snapshot (applyTrips snapshot (made :: later)) := by
  intro keeps
  have raised := raises_trip.lt_foldl effective later
  have same := keeps.windowRank_eq
  exact Nat.ne_of_gt raised same

theorem keepsWindows_applyTrips_iff {trips : List (Instant × SocketAddr × Duration)} :
    KeepsWindows snapshot (applyTrips snapshot trips) ↔
      ∀ made ∈ trips, trip snapshot made.2.1 made.2.2 made.1 = snapshot := by
  constructor
  · intro keeps
    apply raises_trip.idle_of_rank_foldl
    have same := keeps.windowRank_eq
    exact fun raised => Nat.ne_of_gt raised same
  · intro idle
    have same : applyTrips snapshot trips = snapshot := foldl_of_idle idle
    rw [same]
    exact fun _ => rfl

end Windows

section Attempts

variable {client : Client} {cfg : RetryConfig} {ctx : ForwardCtx} {addr : SocketAddr}
  {poolType : PoolType} {start time : Instant} {perUpstream : Duration}

theorem FailsToBuild.callResult_eq (unbuilt : FailsToBuild client ctx) (attempt : Nat)
    (begins : Instant) :
    callResult client ctx addr poolType attempt begins =
      some (0, .error (.upstream .builder)) := by
  rw [callResult, unbuilt]
  rfl

/-- If all attempts fail at once, only the backoffs take time. -/
theorem endsWith_of_atOnce {answer : Nat → Instant → Option (Duration × RouteResult)}
    {error : AppError} (atOnce : ∀ attempt begins, answer attempt begins = some (0, .error error))
    (left attempt : Nat) (backoff : Duration) (start : Instant)
    (counted : attempt + left = cfg.maxRetries) :
    EndsWith cfg answer attempt backoff start (start + backoffSum cfg left backoff)
      (.error error) := by
  induction left generalizing attempt backoff start with
  | zero => exact .last (atOnce attempt start) (Or.inr counted)
  | succ left ih =>
      have later := ih (attempt + 1) (nextBackoff cfg backoff) (start + backoff) (by omega)
      rw [Nat.add_assoc] at later
      exact .retry (atOnce attempt start) rfl (by omega) later

variable (cfg addr poolType start) in
theorem FailsToBuild.finish (unbuilt : FailsToBuild client ctx) :
    (forwardWithRetry client cfg ctx addr poolType start).finish =
      some (start + totalBackoff cfg, .error (.upstream .builder)) := by
  have course := forwardWithRetry_course client cfg ctx addr poolType start
  apply course.endsWith_iff.mp
  exact endsWith_of_atOnce (fun _ _ => unbuilt.callResult_eq _ _) cfg.maxRetries 0 _ start
    (Nat.zero_add _)

theorem FailsToBuild.failsAt_iff (unbuilt : FailsToBuild client ctx) :
    FailsAt cfg (callResult client ctx addr poolType) 0 cfg.initialBackoff start time ↔
      time = start + totalBackoff cfg := by
  rw [failsAt_iff_finish, unbuilt.finish]
  constructor
  · rintro ⟨result, finished, -⟩
    cases finished
    rfl
  · intro same
    rw [same]
    exact ⟨.error (.upstream .builder), rfl, rfl⟩

variable (cfg addr poolType start) in
theorem FailsToBuild.failsAt (unbuilt : FailsToBuild client ctx) :
    FailsAt cfg (callResult client ctx addr poolType) 0 cfg.initialBackoff start
      (start + totalBackoff cfg) :=
  unbuilt.failsAt_iff.mpr rfl

theorem FailsToBuild.not_isWinner (unbuilt : FailsToBuild client ctx) {result : RouteResult}
    (finished : (forwardWithRetry client cfg ctx addr poolType start).finish =
      some (time, result)) : isWinner result ≠ true := by
  rw [unbuilt.finish] at finished
  cases finished
  decide

variable (cfg addr poolType start perUpstream) in
theorem FailsToBuild.finish_timeout (unbuilt : FailsToBuild client ctx) :
    (Timed.timeout perUpstream (forwardWithRetry client cfg ctx addr poolType) start).finish =
      if totalBackoff cfg ≤ perUpstream then
        some (start + totalBackoff cfg, some (.error (.upstream .builder)))
      else some (start + perUpstream, none) := by
  have finished := unbuilt.finish cfg addr poolType start
  rw [Timed.finish_timeout_of_finish finished]
  have sameOrder : start + totalBackoff cfg ≤ start + perUpstream ↔
      totalBackoff cfg ≤ perUpstream := Nat.add_le_add_iff_left
  exact if_congr sameOrder rfl rfl

end Attempts

section Hedged

variable {client : Client} {cfg : RetryConfig} {ctx : ForwardCtx} {hedgeDelay : Duration}
  {start : Instant} {plan : HedgedPlan} {snapshot : PoolSnapshot}

/-- Every leg of the plan fails, at the instant of its last attempt. -/
theorem FailsToBuild.completedFailure_iff (unbuilt : FailsToBuild client ctx)
    (addr : SocketAddr) (time : Instant) :
    (∃ poolType, CompletedFailure client cfg ctx hedgeDelay start plan addr poolType time) ↔
      (addr, time) ∈ plan.lastAttempts cfg hedgeDelay start := by
  constructor
  · rintro ⟨poolType, failure⟩
    cases failure with
    | direct fails =>
        rw [unbuilt.failsAt_iff.mp fails]
        exact List.mem_cons_self
    | gpu fails =>
        rw [unbuilt.failsAt_iff.mp fails]
        exact List.mem_cons_self
    | secondary fails =>
        rw [unbuilt.failsAt_iff.mp fails]
        exact List.mem_cons_of_mem _ List.mem_cons_self
  · intro member
    cases plan with
    | nothing => cases member
    | direct legAddr legPool =>
        cases List.mem_singleton.mp member
        exact ⟨legPool, .direct (unbuilt.failsAt cfg addr legPool start)⟩
    | race gpuAddr secondaryAddr secondaryPool =>
        rcases List.mem_cons.mp member with same | inTail
        · cases same
          refine ⟨.gpu, .gpu (unbuilt.failsAt cfg addr .gpu start) ?_⟩
          intro won result finished winner
          exact absurd winner (unbuilt.not_isWinner finished)
        · cases List.mem_singleton.mp inTail
          have fails := unbuilt.failsAt cfg addr secondaryPool (start + hedgeDelay)
          refine ⟨secondaryPool, .secondary fails ?_⟩
          intro won result finished winner
          exact absurd winner (unbuilt.not_isWinner finished)

theorem FailsToBuild.keepsWindows_run_iff (unbuilt : FailsToBuild client ctx)
    (choice : HedgedChoice snapshot start plan) :
    KeepsWindows snapshot
        (poolAfter snapshot (plan.run client cfg ctx hedgeDelay start).effects) ↔
      ∀ last ∈ plan.lastAttempts cfg hedgeDelay start,
        TripSkipped cfg snapshot last.1 last.2 := by
  rw [poolAfter, keepsWindows_applyTrips_iff]
  constructor
  · rintro idle ⟨addr, time⟩ member
    obtain ⟨poolType, failure⟩ := (unbuilt.completedFailure_iff addr time).mpr member
    have listed := (choice.picksRoutable failure.mem_legs).listed
    have made : (time, addr, cfg.cooldown) ∈
        selected tripOf (plan.run client cfg ctx hedgeDelay start).effects :=
      (mem_trips_run_iff plan time addr cfg.cooldown).mpr ⟨rfl, poolType, failure⟩
    have unchanged : trip snapshot addr cfg.cooldown time = snapshot := idle _ made
    exact (trip_eq_self_iff listed).mp unchanged
  · rintro skipped ⟨time, addr, duration⟩ made
    obtain ⟨rfl, poolType, failure⟩ := (mem_trips_run_iff plan time addr duration).mp made
    have listed := (choice.picksRoutable failure.mem_legs).listed
    have planned := (unbuilt.completedFailure_iff addr time).mp ⟨poolType, failure⟩
    have tripSkipped : TripSkipped cfg snapshot addr time := skipped _ planned
    exact (trip_eq_self_iff listed).mpr tripSkipped

end Hedged

section Sequential

variable {client : Client} {cfg : RetryConfig} {ctx : ForwardCtx} {perUpstream : Duration}
  {addr : SocketAddr} {start : Instant} {snapshot : PoolSnapshot}

theorem FailsToBuild.finish_gpuAttempt (unbuilt : FailsToBuild client ctx) :
    ∃ outcome, (gpuAttempt client cfg perUpstream ctx addr start).finish =
        some (start + min (totalBackoff (attemptCfg cfg perUpstream)) perUpstream, outcome) ∧
      outcome.filter isWinner = none := by
  have ended := unbuilt.finish_timeout (attemptCfg cfg perUpstream) addr .gpu start perUpstream
  by_cases inTime : totalBackoff (attemptCfg cfg perUpstream) ≤ perUpstream
  · rw [if_pos inTime] at ended
    refine ⟨some (.error (.upstream .builder)), ?_, rfl⟩
    rw [gpuAttempt, Timed.finish_bind ended, Nat.min_eq_left inTime]
    rfl
  · rw [if_neg inTime] at ended
    refine ⟨none, ?_, rfl⟩
    rw [gpuAttempt, Timed.finish_bind ended, Nat.min_eq_right (Nat.le_of_not_le inTime)]
    rfl

/-- A CPU attempt makes a trip only if its retries are over in time. -/
theorem FailsToBuild.tripAtFinish_cpu (unbuilt : FailsToBuild client ctx) {time : Instant}
    {outcome : Option RouteResult}
    (ended : (forwardCpuWithTimeout client cfg perUpstream ctx addr start).finish =
      some (time, outcome)) :
    tripAtFinish addr cfg.cooldown (outcome.map fun result => (time, result)) =
      if totalBackoff cfg ≤ perUpstream then
        [(start + totalBackoff cfg, addr, cfg.cooldown)]
      else [] := by
  rw [forwardCpuWithTimeout, unbuilt.finish_timeout cfg addr .cpu start perUpstream] at ended
  by_cases inTime : totalBackoff cfg ≤ perUpstream
  · rw [if_pos inTime] at ended
    cases ended
    rw [if_pos inTime]
    rfl
  · rw [if_neg inTime] at ended
    cases ended
    rw [if_neg inTime]
    rfl

theorem sequentialSkips_of_stopped {left : Nat} {tried : List SocketAddr}
    {candidate : Option (SocketAddr × PoolType)} (stopped : left = 0 ∨ candidate = none) :
    SequentialSkips cfg perUpstream snapshot left tried candidate start ↔
      ∀ cpuAddr, pickCpu snapshot start = some (cpuAddr, .cpu) →
        totalBackoff cfg ≤ perUpstream →
        TripSkipped cfg snapshot cpuAddr (start + totalBackoff cfg) := by
  rcases stopped with rfl | rfl
  · cases candidate <;> rfl
  · cases left <;> rfl

theorem sequentialSkips_of_noCpu {left : Nat} {tried : List SocketAddr}
    {candidate : Option (SocketAddr × PoolType)} (stopped : left = 0 ∨ candidate = none)
    (noCpu : pickCpu snapshot start = none) :
    SequentialSkips cfg perUpstream snapshot left tried candidate start := by
  rw [sequentialSkips_of_stopped stopped]
  intro cpuAddr chosen
  cases noCpu.symm.trans chosen

theorem sequentialSkips_of_cpu {left : Nat} {tried : List SocketAddr}
    {candidate : Option (SocketAddr × PoolType)} (stopped : left = 0 ∨ candidate = none)
    (chosen : pickCpu snapshot start = some (addr, .cpu)) :
    SequentialSkips cfg perUpstream snapshot left tried candidate start ↔
      (totalBackoff cfg ≤ perUpstream →
        TripSkipped cfg snapshot addr (start + totalBackoff cfg)) := by
  rw [sequentialSkips_of_stopped stopped]
  constructor
  · intro skips
    exact skips addr chosen
  · intro skipped other otherChosen
    cases chosen.symm.trans otherChosen
    exact skipped

/-- The trip of the CPU attempt, if there is one, keeps the windows exactly when
it is skipped. -/
theorem keepsWindows_cpu_iff (listed : addr ∈ addresses (snapshot.pool .cpu)) :
    KeepsWindows snapshot
        (applyTrips snapshot
          (if totalBackoff cfg ≤ perUpstream then
            [(start + totalBackoff cfg, addr, cfg.cooldown)]
          else [])) ↔
      (totalBackoff cfg ≤ perUpstream →
        TripSkipped cfg snapshot addr (start + totalBackoff cfg)) := by
  rw [keepsWindows_applyTrips_iff]
  by_cases inTime : totalBackoff cfg ≤ perUpstream
  · rw [if_pos inTime, List.forall_mem_singleton, forall_prop_of_true inTime]
    exact trip_eq_self_iff listed
  · rw [if_neg inTime]
    exact iff_of_true nofun fun now => absurd now inTime

theorem listed_of_pickGpuExcludingSet {excluded : List SocketAddr}
    {chosen : SocketAddr × PoolType}
    (found : pickGpuExcludingSet snapshot excluded start = some chosen) :
    chosen.1 ∈ addresses (snapshot.pool .gpu) := by
  obtain ⟨gpuAddr, poolType⟩ := chosen
  obtain rfl : poolType = .gpu := poolType_of_pickTier found
  exact (picksRoutable_of_pickGpuExcludingSet found).listed

/-- From an unchanged snapshot on, the windows are kept exactly when the trips
that follow are skipped on it. -/
theorem SequentialCourse.keepsWindows_iff {left : Nat} {tried : List SocketAddr}
    {history effects : List (Instant × RouterEffect)} {attempts : List Attempt}
    {candidate : Option (SocketAddr × PoolType)} {now finish : Instant}
    {report : SequentialReport}
    (course : SequentialCourse client cfg perUpstream ctx (.alone snapshot) left tried
      history attempts candidate now effects finish report)
    (unbuilt : FailsToBuild client ctx) (unchanged : poolAfter snapshot history = snapshot)
    (listed : ∀ gpu, candidate = some gpu → gpu.1 ∈ addresses (snapshot.pool .gpu)) :
    KeepsWindows snapshot (poolAfter snapshot (history ++ effects)) ↔
      SequentialSkips cfg perUpstream snapshot left tried candidate now := by
  induction course with
  | exhausted stopped noCpu =>
      rw [List.append_nil, unchanged]
      rw [PoolReads.alone, unchanged] at noCpu
      exact iff_of_true (fun _ => rfl) (sequentialSkips_of_noCpu stopped noCpu)
  | @cpu left tried history attempts candidate now cpuAddr effects time outcome stopped
      chosen ended course =>
      rw [PoolReads.alone, unchanged] at chosen
      have cpuListed := (picksRoutable_of_pickCpu chosen).listed
      rw [poolAfter_append, unchanged, course.poolAfter, unbuilt.tripAtFinish_cpu ended,
        keepsWindows_cpu_iff cpuListed]
      exact (sequentialSkips_of_cpu stopped chosen).symm
  | won ended kept =>
      obtain ⟨outcome, failedEnd, failed⟩ := unbuilt.finish_gpuAttempt
      cases ended.symm.trans failedEnd
      rw [kept] at failed
      cases failed
  | @next left tried history attempts gpuAddr now effects time outcome later finish report
      ended failed course rest ih =>
      obtain ⟨sameOutcome, failedEnd, -⟩ := unbuilt.finish_gpuAttempt
      cases ended.symm.trans failedEnd
      have gpuListed : gpuAddr ∈ addresses (snapshot.pool .gpu) := listed _ rfl
      rw [← List.append_assoc, SequentialSkips]
      by_cases idle : trip snapshot gpuAddr cfg.cooldown
          (now + min (totalBackoff (attemptCfg cfg perUpstream)) perUpstream) = snapshot
      · have stillUnchanged : poolAfter snapshot (history ++ effects) = snapshot := by
          rw [poolAfter_append, unchanged, course.poolAfter]
          exact idle
        rw [PoolReads.alone, stillUnchanged] at ih
        rw [ih rfl fun _ found => listed_of_pickGpuExcludingSet found]
        exact (and_iff_right ((trip_eq_self_iff gpuListed).mp idle)).symm
      · constructor
        · intro keeps
          rw [poolAfter_append, poolAfter_append, unchanged, course.poolAfter] at keeps
          exact absurd keeps (not_keepsWindows_of_effective idle _)
        · rintro ⟨skipped, -⟩
          exact absurd ((trip_eq_self_iff gpuListed).mpr skipped) idle

theorem FailsToBuild.keepsWindows_sequential_iff (unbuilt : FailsToBuild client ctx) :
    KeepsWindows snapshot
        (poolAfter snapshot (dispatch client cfg ctx (.alone snapshot)
          (.sequentialTimeout perUpstream) start).effects) ↔
      SequentialSkips cfg perUpstream snapshot maxGpuAttempts [] (pickGpu snapshot start)
        start := by
  obtain ⟨finish, report, -, course⟩ :=
    sequentialTimeout_course client cfg perUpstream ctx (.alone snapshot) start
  rw [dispatch, Timed.effects_bind_pure]
  apply course.keepsWindows_iff unbuilt rfl
  rintro ⟨gpuAddr, poolType⟩ found
  obtain rfl : poolType = .gpu := poolType_of_pickGpu found
  exact (picksRoutable_of_pickGpu found).listed

end Sequential

/-- **Exact condition for a request that cannot be built to leave the pool
alone.**  The windows are kept if and only if each trip of the request is
skipped on the snapshot that it starts from. -/
theorem unbuilt_keepsWindows_iff (client : Client) (cfg : RetryConfig) (ctx : ForwardCtx)
    (policy : RoutePolicy) (snapshot : PoolSnapshot) (start : Instant)
    (unbuilt : FailsToBuild client ctx) :
    KeepsWindows snapshot
        (poolAfter snapshot (dispatch client cfg ctx (.alone snapshot) policy start).effects) ↔
      SkipsTrips cfg snapshot start policy := by
  cases policy with
  | hedged delay =>
      rw [dispatch, hedgedRace_apply]
      exact unbuilt.keepsWindows_run_iff (hedgedPlan_choice snapshot start)
  | sequentialTimeout perUpstream => exact unbuilt.keepsWindows_sequential_iff

/-- A client whose requests all have an invalid URL. -/
def Client.unbuildable : Client where
  send := fun _ _ => { wire := [], completion := some (0, .error .builder) }

theorem failsToBuild_unbuildable (ctx : ForwardCtx) : FailsToBuild .unbuildable ctx :=
  fun _ _ => rfl

/-- An address that is listed twice, with one entry in cooldown. -/
def twinCooling : PoolSnapshot where
  gpu := [⟨.sampleGpu, .gpu, .ok, 0, 1, 0, none⟩, ⟨.sampleGpu, .gpu, .ok, 0, 1, 0, some 9⟩]
  cpu := []
  updatedAt := 0

theorem keepsWindows_twinCooling :
    KeepsWindows twinCooling
      (poolAfter twinCooling (dispatch .unbuildable ⟨0, 1, 1, 1⟩ (.get "*")
        (.alone twinCooling) (.sequentialTimeout 1) 0).effects) := by
  refine (unbuilt_keepsWindows_iff .unbuildable ⟨0, 1, 1, 1⟩ (.get "*")
    (.sequentialTimeout 1) twinCooling 0 (failsToBuild_unbuildable _)).mpr ?_
  refine ⟨Or.inr (by decide), ?_⟩
  intro cpuAddr chosen
  cases chosen

/-- One request with the target `*` puts a healthy fleet into cooldown, under
the default configuration. -/
theorem unbuildable_trips_healthy :
    ¬ ∀ (lookup : String → Option String) (config : Config) (client : Client)
        (ctx : ForwardCtx) (snapshot : PoolSnapshot) (start : Instant),
      Config.fromLookup lookup = .ok config → FailsToBuild client ctx →
      KeepsWindows snapshot
        (poolAfter snapshot (route client ctx (.alone snapshot) config start).effects) := by
  intro claim
  have keeps := claim (fun _ => none) .default .unbuildable (.get "*") okGpuOkCpu 0
    Config.fromLookup_empty (failsToBuild_unbuildable _)
  have controlPlane : RoutePolicy.forPath "*" .default =
      .sequentialTimeout Config.default.controlTimeout := by decide
  rw [route, ForwardCtx.get, controlPlane] at keeps
  obtain ⟨skipped, -⟩ :=
    (failsToBuild_unbuildable _).keepsWindows_sequential_iff.mp keeps
  rcases skipped with disabled | cooled
  · revert disabled
    decide
  · revert cooled
    decide

end BgeRouter
