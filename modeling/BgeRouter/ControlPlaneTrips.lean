import BgeRouter.SequentialDispatch

/-!
# Failed attempts of control-plane requests

On a pool with distinct addresses that nobody else writes, each failed GPU
attempt has its upstream in cooldown when the request returns.  A failed CPU
attempt has it only if the attempt ended within the timeout: when the timeout
cuts it off, its retry loop never gets to the trip.
-/

namespace BgeRouter

/-- Each failed attempt has set a window of the cooldown length on its upstream
between its start and the end of the request. -/
def FailuresTripped (pool : PoolSnapshot) (cooldown : Duration) (finish : Instant)
    (attempts : List Attempt) : Prop :=
  ∀ attempt ∈ attempts, attempt.Failed → ∃ tripped,
    attempt.started ≤ tripped ∧ tripped ≤ finish ∧
      cooldownOf (pool.pool attempt.poolType) attempt.addr = some (tripped + cooldown)

/-- How long an attempt takes: its retry loop ends in time, or the timeout cuts
it off. -/
inductive AttemptEnds (cfg : RetryConfig)
    (answer : Nat → Instant → Option (Duration × RouteResult)) (limit : Duration)
    (start : Instant) : (time : Instant) → Option RouteResult → Prop where
  | inTime {time result}
      (ends : EndsWith cfg answer 0 cfg.initialBackoff start time result)
      (bound : time ≤ start + limit) : AttemptEnds cfg answer limit start time (some result)
  | cutOff
      (late : ∀ time result, EndsWith cfg answer 0 cfg.initialBackoff start time result →
        start + limit < time) : AttemptEnds cfg answer limit start (start + limit) none

/-- The CPU attempt that the upstreams' answers lead to, from a candidate of the
loop over GPU upstreams on. -/
inductive CpuAttemptAt (client : Client) (cfg : RetryConfig) (perUpstream : Duration)
    (ctx : ForwardCtx) (cpuAddr : SocketAddr) (started : Instant) :
    (left : Nat) → (tried : List SocketAddr) → PoolSnapshot →
      Option (SocketAddr × PoolType) → Instant → Prop where
  | reached {left tried pool candidate} (stopped : left = 0 ∨ candidate = none)
      (chosen : pickCpu pool started = some (cpuAddr, .cpu)) :
      CpuAttemptAt client cfg perUpstream ctx cpuAddr started left tried pool candidate
        started
  | afterGpu {left tried pool gpuAddr now time outcome}
      (ended : AttemptEnds (attemptCfg cfg perUpstream) (callResult client ctx gpuAddr .gpu)
        perUpstream now time outcome)
      (failed : outcome.filter isWinner = none)
      (rest : CpuAttemptAt client cfg perUpstream ctx cpuAddr started left
        (tried ++ [gpuAddr]) (trip pool gpuAddr cfg.cooldown time)
        (pickGpuExcludingSet (trip pool gpuAddr cfg.cooldown time) (tried ++ [gpuAddr]) time)
        time) :
      CpuAttemptAt client cfg perUpstream ctx cpuAddr started (left + 1) tried pool
        (some (gpuAddr, .gpu)) now

/-- The CPU upstream that is tried, if any, answers in such a way that its retry
loop ends within the timeout. -/
def CpuAttemptInTime (client : Client) (cfg : RetryConfig) (perUpstream : Duration)
    (ctx : ForwardCtx) (left : Nat) (tried : List SocketAddr) (pool : PoolSnapshot)
    (candidate : Option (SocketAddr × PoolType)) (now : Instant) : Prop :=
  ∀ cpuAddr started,
    CpuAttemptAt client cfg perUpstream ctx cpuAddr started left tried pool candidate now →
    CompletesBy cfg (callResult client ctx cpuAddr .cpu) (started + perUpstream) 0
      cfg.initialBackoff started

/-- The state of the loop over GPU upstreams: what was tried is recorded, and
what failed is tripped. -/
structure GpuPhase (pool : PoolSnapshot) (cooldown : Duration) (tried : List SocketAddr)
    (attempts : List Attempt) (now : Instant) : Prop where
  recorded : ∀ attempt ∈ attempts, attempt.poolType = .gpu ∧ attempt.addr ∈ tried
  tripped : FailuresTripped pool cooldown now attempts

section Phases

variable {pool : PoolSnapshot} {cooldown : Duration} {tried : List SocketAddr}
  {attempts : List Attempt} {addr : SocketAddr} {poolType : PoolType}
  {now time : Instant} {outcome : Option RouteResult}

theorem FailuresTripped.later (tripped : FailuresTripped pool cooldown now attempts)
    (order : now ≤ time) : FailuresTripped pool cooldown time attempts := by
  intro attempt member failed
  obtain ⟨instant, started, ended, window⟩ := tripped attempt member failed
  exact ⟨instant, started, Nat.le_trans ended order, window⟩

theorem failuresTripped_append {first second : List Attempt} :
    FailuresTripped pool cooldown now (first ++ second) ↔
      FailuresTripped pool cooldown now first ∧ FailuresTripped pool cooldown now second :=
  List.forall_mem_append

/-- A failed attempt whose upstream is tripped at its end is accounted for. -/
theorem failuresTripped_trip (positive : 0 < cooldown) (distinct : pool.DistinctAddresses)
    (picked : PicksRoutable pool now (addr, poolType)) (order : now ≤ time) :
    FailuresTripped (trip pool addr cooldown time) cooldown time
      [⟨addr, poolType, now, outcome⟩] := by
  intro attempt member _
  obtain rfl := List.mem_singleton.mp member
  refine ⟨time, order, Nat.le_refl _, ?_⟩
  exact cooldownOf_trip_of_idle positive distinct ((picked.idle distinct).mono order)
    picked.listed

/-- A trip of another address leaves the earlier failures accounted for. -/
theorem FailuresTripped.trip (tripped : FailuresTripped pool cooldown now attempts)
    (others : ∀ attempt ∈ attempts, attempt.Failed → attempt.addr ≠ addr)
    (order : now ≤ time) :
    FailuresTripped (trip pool addr cooldown time) cooldown time attempts := by
  intro attempt member failed
  obtain ⟨instant, started, ended, window⟩ := tripped attempt member failed
  refine ⟨instant, started, Nat.le_trans ended order, ?_⟩
  rw [cooldownOf_trip_of_ne (others attempt member failed), window]

/-- An attempt that changes nothing has not tripped the upstream it selected. -/
theorem not_failuresTripped_of_unchanged (positive : 0 < cooldown)
    (distinct : pool.DistinctAddresses)
    (picked : PicksRoutable pool now (addr, poolType)) :
    ¬ FailuresTripped pool cooldown time [⟨addr, poolType, now, none⟩] := by
  intro tripped
  obtain ⟨instant, started, -, window⟩ := tripped _ List.mem_cons_self rfl
  have ahead : now < instant + cooldown :=
    Nat.lt_of_le_of_lt started (Nat.lt_add_of_pos_right positive)
  exact not_picksRoutable_of_window distinct window ahead picked

theorem GpuPhase.next (phase : GpuPhase pool cooldown tried attempts now)
    (positive : 0 < cooldown) (distinct : pool.DistinctAddresses)
    (picked : PicksRoutable pool now (addr, .gpu)) (fresh : addr ∉ tried)
    (order : now ≤ time) :
    GpuPhase (trip pool addr cooldown time) cooldown (tried ++ [addr])
      (attempts ++ [⟨addr, .gpu, now, outcome⟩]) time where
  recorded := by
    intro attempt member
    rcases List.mem_append.mp member with earlier | this
    · obtain ⟨gpu, inTried⟩ := phase.recorded attempt earlier
      exact ⟨gpu, List.mem_append_left _ inTried⟩
    · obtain rfl := List.mem_singleton.mp this
      exact ⟨rfl, List.mem_append_right _ List.mem_cons_self⟩
  tripped := by
    refine failuresTripped_append.mpr ⟨?_, failuresTripped_trip positive distinct picked order⟩
    refine phase.tripped.trip ?_ order
    intro attempt member _ same
    exact fresh (same ▸ (phase.recorded attempt member).2)

/-- With distinct addresses, the failures of the GPU phase are not the CPU
upstream that is tried next. -/
theorem GpuPhase.addr_ne (phase : GpuPhase pool cooldown tried attempts now)
    (distinct : pool.DistinctAddresses) (picked : PicksRoutable pool now (addr, .cpu)) :
    ∀ attempt ∈ attempts, attempt.Failed → attempt.addr ≠ addr := by
  intro attempt member failed same
  obtain ⟨_, _, _, window⟩ := phase.tripped attempt member failed
  rw [(phase.recorded attempt member).1, same] at window
  have inGpu : addr ∈ addresses (pool.pool .gpu) := by
    by_contra absent
    rw [cooldownOf_of_not_mem absent] at window
    cases window
  exact (PoolSnapshot.distinctAddresses_iff.mp distinct).2.2 addr inGpu addr picked.listed rfl

end Phases

section Runs

variable {client : Client} {cfg : RetryConfig} {perUpstream : Duration} {ctx : ForwardCtx}
  {snapshot : PoolSnapshot}

/-- This is how an attempt with a timeout ends. -/
theorem attemptEnds_iff {addr : SocketAddr} {poolType : PoolType} {now time : Instant}
    {outcome : Option RouteResult} :
    AttemptEnds cfg (callResult client ctx addr poolType) perUpstream now time outcome ↔
      (Timed.timeout perUpstream (forwardWithRetry client cfg ctx addr poolType) now).finish =
        some (time, outcome) := by
  have course := forwardWithRetry_course client cfg ctx addr poolType now
  constructor
  · intro ends
    cases ends with
    | inTime ends bound => exact Timed.finish_timeout (course.endsWith_iff.mp ends) bound
    | cutOff late =>
        apply Timed.finish_timeout_of_late
        apply Course.finishedBy_eq_none_iff.mpr
        intro otherTime result finished
        exact late otherTime result (course.endsWith_iff.mpr finished)
  · intro ended
    cases inTime : (forwardWithRetry client cfg ctx addr poolType now).finishedBy
        (now + perUpstream) with
    | some finished =>
        obtain ⟨otherTime, result⟩ := finished
        obtain ⟨finished, bound⟩ := Course.finishedBy_eq_some_iff.mp inTime
        cases (Timed.finish_timeout finished bound).symm.trans ended
        exact .inTime (course.endsWith_iff.mpr finished) bound
    | none =>
        cases (Timed.finish_timeout_of_late inTime).symm.trans ended
        apply AttemptEnds.cutOff
        intro otherTime result ends
        exact Course.finishedBy_eq_none_iff.mp inTime _ _ (course.endsWith_iff.mp ends)

/-- The retry loop of an attempt ends within the timeout exactly when the
attempt has an outcome. -/
theorem AttemptEnds.completesBy_iff
    {answer : Nat → Instant → Option (Duration × RouteResult)} {now time : Instant}
    {outcome : Option RouteResult}
    (ends : AttemptEnds cfg answer perUpstream now time outcome) :
    CompletesBy cfg answer (now + perUpstream) 0 cfg.initialBackoff now ↔
      outcome.isSome = true := by
  cases ends with
  | inTime ends bound => exact ⟨fun _ => rfl, fun _ => ⟨_, _, ends, bound⟩⟩
  | cutOff late =>
      constructor
      · rintro ⟨time, result, ends, bound⟩
        exact absurd bound (Nat.not_le.mpr (late time result ends))
      · rintro ⟨⟩

/-- Once no GPU upstream is left to try, the CPU attempt is the one that is
selected then. -/
theorem cpuAttemptAt_of_stopped {left : Nat} {tried : List SocketAddr} {pool : PoolSnapshot}
    {candidate : Option (SocketAddr × PoolType)} {cpuAddr : SocketAddr}
    {started now : Instant} (stopped : left = 0 ∨ candidate = none) :
    CpuAttemptAt client cfg perUpstream ctx cpuAddr started left tried pool candidate now ↔
      started = now ∧ pickCpu pool now = some (cpuAddr, .cpu) := by
  constructor
  · intro reached
    cases reached with
    | reached _ chosen => exact ⟨rfl, chosen⟩
    | afterGpu => simp at stopped
  · rintro ⟨rfl, chosen⟩
    exact .reached stopped chosen

/-- After a GPU attempt there is a CPU attempt only if it has failed. -/
theorem cpuAttemptAt_of_candidate {left : Nat} {tried : List SocketAddr}
    {pool : PoolSnapshot} {gpuAddr cpuAddr : SocketAddr} {started now time : Instant}
    {outcome : Option RouteResult}
    (ended : (gpuAttempt client cfg perUpstream ctx gpuAddr now).finish =
      some (time, outcome)) :
    CpuAttemptAt client cfg perUpstream ctx cpuAddr started (left + 1) tried pool
        (some (gpuAddr, .gpu)) now ↔
      outcome.filter isWinner = none ∧
        CpuAttemptAt client cfg perUpstream ctx cpuAddr started left (tried ++ [gpuAddr])
          (trip pool gpuAddr cfg.cooldown time)
          (pickGpuExcludingSet (trip pool gpuAddr cfg.cooldown time) (tried ++ [gpuAddr])
            time) time := by
  rw [finish_gpuAttempt] at ended
  constructor
  · intro reached
    cases reached with
    | reached stopped => simp at stopped
    | afterGpu otherEnd failed rest =>
        cases (attemptEnds_iff.mp otherEnd).symm.trans ended
        exact ⟨failed, rest⟩
  · rintro ⟨failed, rest⟩
    exact .afterGpu (attemptEnds_iff.mpr ended) failed rest

theorem cpuAttemptInTime_of_noCpu {left : Nat} {tried : List SocketAddr} {pool : PoolSnapshot}
    {candidate : Option (SocketAddr × PoolType)} {now : Instant}
    (stopped : left = 0 ∨ candidate = none) (noCpu : pickCpu pool now = none) :
    CpuAttemptInTime client cfg perUpstream ctx left tried pool candidate now := by
  intro cpuAddr started reached
  obtain ⟨-, chosen⟩ := (cpuAttemptAt_of_stopped stopped).mp reached
  cases noCpu.symm.trans chosen

theorem cpuAttemptInTime_of_cpu {left : Nat} {tried : List SocketAddr} {pool : PoolSnapshot}
    {candidate : Option (SocketAddr × PoolType)} {cpuAddr : SocketAddr} {now : Instant}
    (stopped : left = 0 ∨ candidate = none) (chosen : pickCpu pool now = some (cpuAddr, .cpu)) :
    CpuAttemptInTime client cfg perUpstream ctx left tried pool candidate now ↔
      CompletesBy cfg (callResult client ctx cpuAddr .cpu) (now + perUpstream) 0
        cfg.initialBackoff now := by
  constructor
  · intro inTime
    exact inTime cpuAddr now ((cpuAttemptAt_of_stopped stopped).mpr ⟨rfl, chosen⟩)
  · intro completes otherAddr started reached
    obtain ⟨rfl, otherChosen⟩ := (cpuAttemptAt_of_stopped stopped).mp reached
    cases chosen.symm.trans otherChosen
    exact completes

/-- No CPU attempt follows a GPU attempt with an answer to keep. -/
theorem cpuAttemptInTime_of_won {left : Nat} {tried : List SocketAddr} {pool : PoolSnapshot}
    {gpuAddr : SocketAddr} {now time : Instant} {outcome : Option RouteResult}
    {result : RouteResult}
    (ended : (gpuAttempt client cfg perUpstream ctx gpuAddr now).finish = some (time, outcome))
    (kept : outcome.filter isWinner = some result) :
    CpuAttemptInTime client cfg perUpstream ctx (left + 1) tried pool
      (some (gpuAddr, .gpu)) now := by
  intro cpuAddr started reached
  obtain ⟨failed, -⟩ := (cpuAttemptAt_of_candidate ended).mp reached
  cases kept.symm.trans failed

theorem cpuAttemptInTime_of_failed {left : Nat} {tried : List SocketAddr}
    {pool : PoolSnapshot} {gpuAddr : SocketAddr} {now time : Instant}
    {outcome : Option RouteResult}
    (ended : (gpuAttempt client cfg perUpstream ctx gpuAddr now).finish = some (time, outcome))
    (failed : outcome.filter isWinner = none) :
    CpuAttemptInTime client cfg perUpstream ctx (left + 1) tried pool
        (some (gpuAddr, .gpu)) now ↔
      CpuAttemptInTime client cfg perUpstream ctx left (tried ++ [gpuAddr])
        (trip pool gpuAddr cfg.cooldown time)
        (pickGpuExcludingSet (trip pool gpuAddr cfg.cooldown time) (tried ++ [gpuAddr]) time)
        time := by
  constructor
  · intro inTime cpuAddr started reached
    exact inTime cpuAddr started ((cpuAttemptAt_of_candidate ended).mpr ⟨failed, reached⟩)
  · intro inTime cpuAddr started reached
    exact inTime cpuAddr started ((cpuAttemptAt_of_candidate ended).mp reached).2

theorem failuresTripped_of_kept {pool : PoolSnapshot} {cooldown : Duration} {time : Instant}
    {attempt : Attempt} {result : RouteResult}
    (kept : attempt.outcome.filter isWinner = some result) :
    FailuresTripped pool cooldown time [attempt] := by
  intro other member failed
  obtain rfl := List.mem_singleton.mp member
  cases kept.symm.trans failed

/-- After the CPU attempt every failure is tripped, unless the timeout cut the
attempt off. -/
theorem failuresTripped_cpu_iff {pool : PoolSnapshot} {cooldown : Duration}
    {tried : List SocketAddr} {attempts : List Attempt} {now time : Instant}
    {cpuAddr : SocketAddr} {outcome : Option RouteResult} (positive : 0 < cooldown)
    (distinct : pool.DistinctAddresses)
    (phase : GpuPhase pool cooldown tried attempts now)
    (picked : PicksRoutable pool now (cpuAddr, .cpu)) (order : now ≤ time) :
    FailuresTripped
        (applyTrips pool
          (tripAtFinish cpuAddr cooldown (outcome.map fun result => (time, result))))
        cooldown time (attempts ++ [⟨cpuAddr, .cpu, now, outcome⟩]) ↔
      outcome.isSome = true := by
  rw [failuresTripped_append]
  cases outcome with
  | none =>
      constructor
      · rintro ⟨-, tripped⟩
        exact absurd tripped (not_failuresTripped_of_unchanged positive distinct picked)
      · rintro ⟨⟩
  | some result =>
      refine ⟨fun _ => rfl, fun _ => ?_⟩
      cases failed : isRetryable result with
      | false =>
          simp only [Option.map_some, tripAtFinish, failed]
          have kept : (some result).filter isWinner = some result := by
            simp [isWinner_eq, failed]
          exact ⟨phase.tripped.later order, failuresTripped_of_kept kept⟩
      | true =>
          simp only [Option.map_some, tripAtFinish, failed, if_true]
          exact ⟨phase.tripped.trip (phase.addr_ne distinct picked) order,
            failuresTripped_trip positive distinct picked order⟩

/-- What the loop is entered with: the phase so far, and a candidate that is
selectable and fresh. -/
theorem SequentialCourse.failuresTripped_iff {left : Nat} {tried : List SocketAddr}
    {history effects : List (Instant × RouterEffect)} {attempts : List Attempt}
    {candidate : Option (SocketAddr × PoolType)} {now finish : Instant}
    {report : SequentialReport}
    (course : SequentialCourse client cfg perUpstream ctx (.alone snapshot) left tried
      history attempts candidate now effects finish report)
    (positive : 0 < cfg.cooldown) (distinct : snapshot.DistinctAddresses)
    (phase : GpuPhase (poolAfter snapshot history) cfg.cooldown tried attempts now)
    (selectable : ∀ gpuAddr, candidate = some (gpuAddr, .gpu) →
      PicksRoutable (poolAfter snapshot history) now (gpuAddr, .gpu) ∧ gpuAddr ∉ tried) :
    FailuresTripped (poolAfter snapshot (history ++ effects)) cfg.cooldown finish
        report.attempts ↔
      CpuAttemptInTime client cfg perUpstream ctx left tried (poolAfter snapshot history)
        candidate now := by
  induction course with
  | exhausted stopped noCpu =>
      rw [List.append_nil]
      exact iff_of_true phase.tripped (cpuAttemptInTime_of_noCpu stopped noCpu)
  | @cpu left tried history attempts candidate now cpuAddr effects time outcome stopped
      chosen ended course =>
      have picked : PicksRoutable (poolAfter snapshot history) now (cpuAddr, .cpu) :=
        picksRoutable_of_pickCpu chosen
      have completes := (attemptEnds_iff.mpr ended).completesBy_iff
      have poolDistinct : (poolAfter snapshot history).DistinctAddresses :=
        distinctAddresses_applyTrips distinct
      rw [poolAfter_append, course.poolAfter,
        failuresTripped_cpu_iff positive poolDistinct phase picked course.order, ← completes]
      exact (cpuAttemptInTime_of_cpu stopped chosen).symm
  | @won left tried history attempts gpuAddr now effects time outcome result ended kept
      course =>
      rw [poolAfter_append, course.poolAfter, applyTrips_nil]
      have single : FailuresTripped (poolAfter snapshot history) cfg.cooldown time
          [⟨gpuAddr, .gpu, now, outcome⟩] := failuresTripped_of_kept kept
      have tripped := failuresTripped_append.mpr ⟨phase.tripped.later course.order, single⟩
      exact iff_of_true tripped (cpuAttemptInTime_of_won ended kept)
  | @next left tried history attempts gpuAddr now effects time outcome later finish report
      ended failed course _ ih =>
      obtain ⟨picked, fresh⟩ := selectable gpuAddr rfl
      have pool : poolAfter snapshot (history ++ effects) =
          trip (poolAfter snapshot history) gpuAddr cfg.cooldown time := by
        rw [poolAfter_append, course.poolAfter]
        rfl
      have poolDistinct : (poolAfter snapshot history).DistinctAddresses :=
        distinctAddresses_applyTrips distinct
      simp only [PoolReads.alone, pool] at ih
      have rest := ih (phase.next positive poolDistinct picked fresh course.order)
        fun nextAddr found => ⟨picksRoutable_of_pickGpuExcludingSet found,
          not_mem_of_pickGpuExcludingSet found⟩
      rw [← List.append_assoc, rest]
      exact (cpuAttemptInTime_of_failed ended failed).symm

end Runs

/-- **Exact condition for no failure to escape the breaker.**  A control-plane
request always returns, and all its failed attempts are tripped exactly when the
CPU attempt, if there is one, ends within the timeout. -/
theorem sequentialTimeout_failuresTripped_iff (client : Client) (cfg : RetryConfig)
    (perUpstream : Duration) (ctx : ForwardCtx) (snapshot : PoolSnapshot)
    (positive : 0 < cfg.cooldown) (distinct : snapshot.DistinctAddresses)
    (start : Instant) :
    ∃ finish report,
      (sequentialTimeout client cfg perUpstream ctx (.alone snapshot) start).finish =
        some (finish, report) ∧
      (FailuresTripped
          (poolAfter snapshot
            (sequentialTimeout client cfg perUpstream ctx (.alone snapshot) start).effects)
          cfg.cooldown finish report.attempts ↔
        CpuAttemptInTime client cfg perUpstream ctx maxGpuAttempts [] snapshot
          (pickGpu snapshot start) start) := by
  obtain ⟨finish, report, finished, course⟩ :=
    sequentialTimeout_course client cfg perUpstream ctx (.alone snapshot) start
  refine ⟨finish, report, finished, course.failuresTripped_iff positive distinct ?_ ?_⟩
  · exact ⟨nofun, nofun⟩
  · intro gpuAddr found
    exact ⟨picksRoutable_of_pickGpu found, nofun⟩

/-- One healthy CPU upstream and no GPU. -/
def cpuOnly : PoolSnapshot where
  gpu := []
  cpu := [⟨.sampleCpu, .cpu, .ok, 0, 1, 0, none⟩]
  updatedAt := 0

theorem failuresTripped_of_prompt_cpu :
    ∃ finish report,
      (sequentialTimeout (.uniform (some (0, .error .request))) ⟨0, 1, 1, 1⟩ 1
        (.get "/health") (.alone cpuOnly) 0).finish = some (finish, report) ∧
      FailuresTripped
        (poolAfter cpuOnly
          (sequentialTimeout (.uniform (some (0, .error .request))) ⟨0, 1, 1, 1⟩ 1
            (.get "/health") (.alone cpuOnly) 0).effects)
        1 finish report.attempts := by
  obtain ⟨finish, report, finished, tripped⟩ :=
    sequentialTimeout_failuresTripped_iff (.uniform (some (0, .error .request)))
      ⟨0, 1, 1, 1⟩ 1 (.get "/health") cpuOnly (by decide) (by decide) 0
  refine ⟨finish, report, finished, tripped.mpr ?_⟩
  exact (cpuAttemptInTime_of_cpu (Or.inr rfl) rfl).mpr ⟨_, _, .last rfl (Or.inr rfl), by decide⟩

/-- A CPU upstream that never answers is not tripped, under the default
configuration. -/
theorem silent_cpu_escapes_breaker :
    ¬ ∀ (lookup : String → Option String) (config : Config) (client : Client)
        (ctx : ForwardCtx) (snapshot : PoolSnapshot) (start finish : Instant)
        (report : SequentialReport),
      Config.fromLookup lookup = .ok config → 0 < config.cooldown →
      snapshot.DistinctAddresses →
      (sequentialTimeout client config.retryConfig config.controlTimeout ctx
        (.alone snapshot) start).finish = some (finish, report) →
      FailuresTripped
        (poolAfter snapshot
          (sequentialTimeout client config.retryConfig config.controlTimeout ctx
            (.alone snapshot) start).effects)
        config.cooldown finish report.attempts := by
  intro claim
  have tripped := claim (fun _ => none) .default (.uniform none) (.get "/health") cpuOnly 0
    _ _ Config.fromLookup_empty (by decide) (by decide) rfl
  obtain ⟨instant, -, -, window⟩ := tripped _ List.mem_cons_self rfl
  cases window

end BgeRouter
