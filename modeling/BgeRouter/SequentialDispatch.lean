import BgeRouter.RequestEffects

/-!
# Sequential dispatch of control-plane requests

At most two GPU upstreams and then at most one CPU upstream are tried, each
within its own timeout.  A GPU attempt that runs into the timeout is tripped by
the dispatcher; for a CPU attempt nothing of the kind is done.  As for the
retry loop, the facts are derived from the list of ways a dispatch can go.
-/

namespace BgeRouter

def maxGpuAttempts : Nat := 2

/-- The retry configuration of a GPU attempt, with backoffs trimmed to half the
share that a try has of the timeout. -/
def attemptCfg (cfg : RetryConfig) (perUpstream : Duration) : RetryConfig :=
  let attempts := cfg.maxRetries + 1
  let perAttemptBudget := perUpstream / (if attempts ≤ u32Max then attempts else 1)
  { cfg with
    initialBackoff := min cfg.initialBackoff (perAttemptBudget / 2)
    maxBackoff := min cfg.maxBackoff (perAttemptBudget / 2) }

/-- One upstream that was tried; there is no outcome if the timeout passed. -/
structure Attempt where
  addr : SocketAddr
  poolType : PoolType
  started : Instant
  outcome : Option RouteResult

/-- The attempt did not yield a response other than 5xx. -/
def Attempt.Failed (attempt : Attempt) : Prop := attempt.outcome.filter isWinner = none

structure SequentialReport where
  result : RouteResult
  /-- history: the attempts, in order -/
  attempts : List Attempt

section Dispatch

variable (client : Client) (cfg : RetryConfig) (perUpstream : Duration) (ctx : ForwardCtx)

/-- A GPU attempt, with the trip that follows a timeout. -/
def gpuAttempt (gpuAddr : SocketAddr) : Timed RouterEffect (Option RouteResult) := do
  let outcome ← Timed.timeout perUpstream
    (forwardWithRetry client (attemptCfg cfg perUpstream) ctx gpuAddr .gpu)
  match outcome with
  | some inner => return some inner
  | none => do
      Timed.emit (.trip gpuAddr cfg.cooldown)
      return none

def forwardCpuWithTimeout (cpuAddr : SocketAddr) :
    Timed RouterEffect (Option RouteResult) :=
  Timed.timeout perUpstream (forwardWithRetry client cfg ctx cpuAddr .cpu)

variable (reads : PoolReads)

/-- The part of the dispatch after the loop over GPU upstreams. -/
def cpuFallback (loads : Nat) (history : List (Instant × RouterEffect))
    (attempts : List Attempt) : Timed RouterEffect SequentialReport := do
  let now ← Timed.clock
  match pickCpu (reads loads history) now with
  | none => return ⟨.error .noUpstreamAvailable, attempts⟩
  | some (cpuAddr, _) => do
      let outcome ← forwardCpuWithTimeout client cfg perUpstream ctx cpuAddr
      return ⟨outcome.getD (.error .noUpstreamAvailable),
        attempts ++ [⟨cpuAddr, .cpu, now, outcome⟩]⟩

/-- The loop over GPU upstreams, of which `left` may still be tried. -/
def gpuAttempts : (left : Nat) → (tried : List SocketAddr) →
    (history : List (Instant × RouterEffect)) → (attempts : List Attempt) →
    (gpuCandidate : Option (SocketAddr × PoolType)) → Timed RouterEffect SequentialReport
  | _, tried, history, attempts, none =>
      cpuFallback client cfg perUpstream ctx reads (tried.length + 1) history attempts
  | 0, tried, history, attempts, some _ =>
      cpuFallback client cfg perUpstream ctx reads (tried.length + 1) history attempts
  | left + 1, tried, history, attempts, some (gpuAddr, _) => do
      let started ← Timed.clock
      let (outcome, done) ← Timed.logged (gpuAttempt client cfg perUpstream ctx gpuAddr)
      let attempts := attempts ++ [⟨gpuAddr, .gpu, started, outcome⟩]
      match outcome.filter isWinner with
      | some result => return ⟨result, attempts⟩
      | none => do
          let tried := tried ++ [gpuAddr]
          let history := history ++ done
          let now ← Timed.clock
          gpuAttempts left tried history attempts
            (pickGpuExcludingSet (reads tried.length history) tried now)

def sequentialTimeout : Timed RouterEffect SequentialReport := do
  let now ← Timed.clock
  gpuAttempts client cfg perUpstream ctx reads maxGpuAttempts [] [] []
    (pickGpu (reads 0 []) now)

end Dispatch

section Attempts

variable {client : Client} {cfg : RetryConfig} {perUpstream : Duration} {ctx : ForwardCtx}
  {addr : SocketAddr} {poolType : PoolType} {start : Instant}

/-- What an attempt on `addr` does, with the trips it makes. -/
structure AttemptCourse (addr : SocketAddr) (poolType : PoolType) (perUpstream : Duration)
    (trips : List (Instant × SocketAddr × Duration)) (start : Instant)
    (effects : List (Instant × RouterEffect)) (time : Instant) : Prop where
  order : start ≤ time
  bounded : time ≤ start + perUpstream
  head : ∃ later, effects = (start, .forward addr poolType) :: later
  trips : selected tripOf effects = trips

theorem AttemptCourse.poolAfter {trips : List (Instant × SocketAddr × Duration)}
    {effects : List (Instant × RouterEffect)} {time : Instant}
    (course : AttemptCourse addr poolType perUpstream trips start effects time)
    (pool : PoolSnapshot) : poolAfter pool effects = applyTrips pool trips := by
  rw [BgeRouter.poolAfter, course.trips]

variable (client cfg perUpstream ctx addr poolType) in
/-- A retry loop under a timeout always ends, and is cut off before its trip if
it does not end by itself. -/
theorem timeout_forwardWithRetry_course (start : Instant) :
    ∃ time outcome,
      (Timed.timeout perUpstream
        (forwardWithRetry client cfg ctx addr poolType) start).finish =
          some (time, outcome) ∧
      (outcome = none → time = start + perUpstream) ∧
      AttemptCourse addr poolType perUpstream
        (tripAtFinish addr cfg.cooldown (outcome.map fun result => (time, result))) start
        (Timed.timeout perUpstream
          (forwardWithRetry client cfg ctx addr poolType) start).effects time := by
  have course := forwardWithRetry_course client cfg ctx addr poolType start
  cases ended : (forwardWithRetry client cfg ctx addr poolType start).finishedBy
      (start + perUpstream) with
  | some finished =>
      obtain ⟨time, result⟩ := finished
      obtain ⟨finished, inTime⟩ := Course.finishedBy_eq_some_iff.mp ended
      refine ⟨time, some result, Timed.finish_timeout finished inTime, nofun, ?_⟩
      rw [Timed.effects_timeout finished inTime]
      refine ⟨?_, inTime, course.head, ?_⟩
      · exact ((forwardWithRetry client cfg ctx addr poolType start).ended _ _ finished).1
      · rw [course.trips, finished]
        rfl
  | none =>
      refine ⟨start + perUpstream, none, Timed.finish_timeout_of_late ended,
        fun _ => rfl, ?_⟩
      rw [Timed.effects_timeout_of_late ended, Course.upTo]
      refine ⟨Nat.le_add_right _ _, Nat.le_refl _, ?_, ?_⟩
      · obtain ⟨later, effects⟩ := course.head
        rw [effects]
        exact ⟨_, List.filter_cons_of_pos (by simp)⟩
      · rw [selected_filter tripOf (fun time => decide (time ≤ start + perUpstream)),
          course.trips]
        cases finish : (forwardWithRetry client cfg ctx addr poolType start).finish with
        | none => rfl
        | some finished =>
            have late := Course.finishedBy_eq_none_iff.mp ended _ _ finish
            simp only [tripAtFinish]
            split <;> simp [late]

theorem finish_gpuAttempt :
    (gpuAttempt client cfg perUpstream ctx addr start).finish =
      (Timed.timeout perUpstream
        (forwardWithRetry client (attemptCfg cfg perUpstream) ctx addr .gpu) start).finish := by
  obtain ⟨time, outcome, finished, -⟩ :=
    timeout_forwardWithRetry_course client (attemptCfg cfg perUpstream) perUpstream ctx
      addr .gpu start
  rw [gpuAttempt, Timed.finish_bind finished, finished]
  cases outcome <;> rfl

theorem gpuAttempt_of_inTime {time : Instant} {result : RouteResult}
    (finished : (forwardWithRetry client (attemptCfg cfg perUpstream) ctx addr .gpu
      start).finish = some (time, result))
    (inTime : time ≤ start + perUpstream) :
    (gpuAttempt client cfg perUpstream ctx addr start).finish = some (time, some result) ∧
      (gpuAttempt client cfg perUpstream ctx addr start).effects =
        (forwardWithRetry client (attemptCfg cfg perUpstream) ctx addr .gpu start).effects := by
  have timed := Timed.finish_timeout finished inTime
  refine ⟨finish_gpuAttempt.trans timed, ?_⟩
  rw [gpuAttempt, Timed.effects_bind timed, Timed.effects_timeout finished inTime]
  exact List.append_nil _

variable (client cfg perUpstream ctx addr) in
/-- A GPU attempt that fails, in whatever way, is tripped at its end. -/
theorem gpuAttempt_course (start : Instant) :
    ∃ time outcome,
      (gpuAttempt client cfg perUpstream ctx addr start).finish = some (time, outcome) ∧
      AttemptCourse addr .gpu perUpstream
        (if outcome.filter isWinner = none then [(time, addr, cfg.cooldown)] else []) start
        (gpuAttempt client cfg perUpstream ctx addr start).effects time := by
  obtain ⟨time, outcome, finished, atLimit, course⟩ :=
    timeout_forwardWithRetry_course client (attemptCfg cfg perUpstream) perUpstream ctx
      addr .gpu start
  refine ⟨time, outcome, finish_gpuAttempt.trans finished, ?_⟩
  · rw [gpuAttempt, Timed.effects_bind finished]
    obtain ⟨later, effects⟩ := course.head
    cases outcome with
    | none =>
        refine ⟨course.order, course.bounded, ?_, ?_⟩
        · rw [effects]
          exact ⟨_, rfl⟩
        · rw [selected_append, course.trips]
          rfl
    | some result =>
        refine ⟨course.order, course.bounded, ?_, ?_⟩
        · rw [effects]
          exact ⟨_, rfl⟩
        · rw [selected_append, course.trips]
          cases failed : isRetryable result <;>
            simp [tripAtFinish, isWinner_eq, failed, attemptCfg]

end Attempts

/-- How the dispatch goes from a GPU candidate on: there is nothing left to
try, it ends with a CPU attempt, a GPU attempt wins, or another candidate
follows a failed one. -/
inductive SequentialCourse (client : Client) (cfg : RetryConfig) (perUpstream : Duration)
    (ctx : ForwardCtx) (reads : PoolReads) :
    Nat → List SocketAddr → List (Instant × RouterEffect) → List Attempt →
      Option (SocketAddr × PoolType) → Instant →
      List (Instant × RouterEffect) → Instant → SequentialReport → Prop where
  | exhausted {left tried history attempts candidate now}
      (stopped : left = 0 ∨ candidate = none)
      (noCpu : pickCpu (reads (tried.length + 1) history) now = none) :
      SequentialCourse client cfg perUpstream ctx reads left tried history attempts
        candidate now [] now ⟨.error .noUpstreamAvailable, attempts⟩
  | cpu {left tried history attempts candidate now cpuAddr effects time outcome}
      (stopped : left = 0 ∨ candidate = none)
      (chosen : pickCpu (reads (tried.length + 1) history) now = some (cpuAddr, .cpu))
      (ended : (forwardCpuWithTimeout client cfg perUpstream ctx cpuAddr now).finish =
        some (time, outcome))
      (course : AttemptCourse cpuAddr .cpu perUpstream
        (tripAtFinish cpuAddr cfg.cooldown (outcome.map fun result => (time, result))) now
        effects time) :
      SequentialCourse client cfg perUpstream ctx reads left tried history attempts
        candidate now effects time
        ⟨outcome.getD (.error .noUpstreamAvailable),
          attempts ++ [⟨cpuAddr, .cpu, now, outcome⟩]⟩
  | won {left tried history attempts gpuAddr now effects time outcome result}
      (ended : (gpuAttempt client cfg perUpstream ctx gpuAddr now).finish =
        some (time, outcome))
      (kept : outcome.filter isWinner = some result)
      (course : AttemptCourse gpuAddr .gpu perUpstream [] now effects time) :
      SequentialCourse client cfg perUpstream ctx reads (left + 1) tried history attempts
        (some (gpuAddr, .gpu)) now effects time
        ⟨result, attempts ++ [⟨gpuAddr, .gpu, now, outcome⟩]⟩
  | next {left tried history attempts gpuAddr now effects time outcome later finish report}
      (ended : (gpuAttempt client cfg perUpstream ctx gpuAddr now).finish =
        some (time, outcome))
      (failed : outcome.filter isWinner = none)
      (course : AttemptCourse gpuAddr .gpu perUpstream [(time, gpuAddr, cfg.cooldown)] now
        effects time)
      (rest : SequentialCourse client cfg perUpstream ctx reads left (tried ++ [gpuAddr])
        (history ++ effects) (attempts ++ [⟨gpuAddr, .gpu, now, outcome⟩])
        (pickGpuExcludingSet (reads (tried ++ [gpuAddr]).length (history ++ effects))
          (tried ++ [gpuAddr]) time) time later finish report) :
      SequentialCourse client cfg perUpstream ctx reads (left + 1) tried history attempts
        (some (gpuAddr, .gpu)) now (effects ++ later) finish report

section Courses

variable {client : Client} {cfg : RetryConfig} {perUpstream : Duration} {ctx : ForwardCtx}
  {reads : PoolReads}

theorem cpuFallback_of_none {loads : Nat} {history : List (Instant × RouterEffect)}
    {now : Instant} (attempts : List Attempt)
    (noCpu : pickCpu (reads loads history) now = none) :
    cpuFallback client cfg perUpstream ctx reads loads history attempts now =
      .instantly ⟨.error .noUpstreamAvailable, attempts⟩ := by
  rw [cpuFallback, Timed.clock_bind, noCpu]
  rfl

theorem cpuFallback_of_some {loads : Nat} {history : List (Instant × RouterEffect)}
    {now time : Instant} {cpuAddr : SocketAddr} {poolType : PoolType}
    {outcome : Option RouteResult} (attempts : List Attempt)
    (chosen : pickCpu (reads loads history) now = some (cpuAddr, poolType))
    (ended : (forwardCpuWithTimeout client cfg perUpstream ctx cpuAddr now).finish =
      some (time, outcome)) :
    (cpuFallback client cfg perUpstream ctx reads loads history attempts now).finish =
        some (time, ⟨outcome.getD (.error .noUpstreamAvailable),
          attempts ++ [⟨cpuAddr, .cpu, now, outcome⟩]⟩) ∧
      (cpuFallback client cfg perUpstream ctx reads loads history attempts now).effects =
        (forwardCpuWithTimeout client cfg perUpstream ctx cpuAddr now).effects := by
  rw [cpuFallback, Timed.clock_bind, chosen]
  simp only [Timed.finish_bind_pure, Timed.effects_bind_pure, ended, Option.map_some,
    and_self]

theorem gpuAttempts_of_stopped {left : Nat} {tried : List SocketAddr}
    {history : List (Instant × RouterEffect)} {attempts : List Attempt}
    {candidate : Option (SocketAddr × PoolType)} (stopped : left = 0 ∨ candidate = none) :
    gpuAttempts client cfg perUpstream ctx reads left tried history attempts candidate =
      cpuFallback client cfg perUpstream ctx reads (tried.length + 1) history attempts := by
  rcases stopped with rfl | rfl
  · cases candidate <;> rfl
  · cases left <;> rfl

theorem gpuAttempts_of_won {left : Nat} {tried : List SocketAddr}
    {history : List (Instant × RouterEffect)} {attempts : List Attempt} {now time : Instant}
    {gpuAddr : SocketAddr} {poolType : PoolType} {outcome : Option RouteResult}
    {result : RouteResult}
    (ended : (gpuAttempt client cfg perUpstream ctx gpuAddr now).finish =
      some (time, outcome))
    (won : outcome.filter isWinner = some result) :
    (gpuAttempts client cfg perUpstream ctx reads (left + 1) tried history attempts
        (some (gpuAddr, poolType)) now).finish =
          some (time, ⟨result, attempts ++ [⟨gpuAddr, .gpu, now, outcome⟩]⟩) ∧
      (gpuAttempts client cfg perUpstream ctx reads (left + 1) tried history attempts
        (some (gpuAddr, poolType)) now).effects =
          (gpuAttempt client cfg perUpstream ctx gpuAddr now).effects := by
  have logged : (Timed.logged (gpuAttempt client cfg perUpstream ctx gpuAddr) now).finish =
      some (time, outcome, (gpuAttempt client cfg perUpstream ctx gpuAddr now).effects) := by
    simp only [Timed.logged, ended, Option.map_some]
  rw [gpuAttempts, Timed.clock_bind, Timed.effects_bind logged, Timed.finish_bind logged]
  simp only [won, Timed.pure_apply, Course.effects_instantly, Course.finish_instantly,
    List.append_nil, true_and]
  rfl

theorem gpuAttempts_of_failed {left : Nat} {tried : List SocketAddr}
    {history effects : List (Instant × RouterEffect)} {attempts : List Attempt}
    {now time : Instant} {gpuAddr : SocketAddr} {poolType : PoolType}
    {outcome : Option RouteResult}
    (ended : (gpuAttempt client cfg perUpstream ctx gpuAddr now).finish =
      some (time, outcome))
    (failed : outcome.filter isWinner = none)
    (performed : (gpuAttempt client cfg perUpstream ctx gpuAddr now).effects = effects) :
    let rest := gpuAttempts client cfg perUpstream ctx reads left (tried ++ [gpuAddr])
      (history ++ effects) (attempts ++ [⟨gpuAddr, .gpu, now, outcome⟩])
      (pickGpuExcludingSet (reads (tried ++ [gpuAddr]).length (history ++ effects))
        (tried ++ [gpuAddr]) time) time
    (gpuAttempts client cfg perUpstream ctx reads (left + 1) tried history attempts
        (some (gpuAddr, poolType)) now).finish = rest.finish ∧
      (gpuAttempts client cfg perUpstream ctx reads (left + 1) tried history attempts
        (some (gpuAddr, poolType)) now).effects = effects ++ rest.effects := by
  subst performed
  have logged : (Timed.logged (gpuAttempt client cfg perUpstream ctx gpuAddr) now).finish =
      some (time, outcome, (gpuAttempt client cfg perUpstream ctx gpuAddr now).effects) := by
    simp only [Timed.logged, ended, Option.map_some]
  rw [gpuAttempts, Timed.clock_bind, Timed.effects_bind logged, Timed.finish_bind logged]
  simp only [failed, Timed.clock_bind, true_and]
  rfl

theorem cpuFallback_course {left : Nat} (tried : List SocketAddr)
    (history : List (Instant × RouterEffect)) (attempts : List Attempt)
    {candidate : Option (SocketAddr × PoolType)} (stopped : left = 0 ∨ candidate = none)
    (now : Instant) :
    ∃ finish report,
      (cpuFallback client cfg perUpstream ctx reads (tried.length + 1) history attempts
        now).finish = some (finish, report) ∧
      SequentialCourse client cfg perUpstream ctx reads left tried history attempts
        candidate now
        (cpuFallback client cfg perUpstream ctx reads (tried.length + 1) history attempts
          now).effects finish report := by
  cases chosen : pickCpu (reads (tried.length + 1) history) now with
  | none =>
      rw [cpuFallback_of_none attempts chosen]
      exact ⟨_, _, rfl, .exhausted stopped chosen⟩
  | some pair =>
      obtain ⟨cpuAddr, poolType⟩ := pair
      obtain rfl : poolType = .cpu := poolType_of_pickCpu chosen
      obtain ⟨time, outcome, finished, -, course⟩ :=
        timeout_forwardWithRetry_course client cfg perUpstream ctx cpuAddr .cpu now
      have ended : (forwardCpuWithTimeout client cfg perUpstream ctx cpuAddr now).finish =
        some (time, outcome) := finished
      obtain ⟨finish, effects⟩ := cpuFallback_of_some attempts chosen ended
      rw [effects]
      exact ⟨_, _, finish, .cpu stopped chosen ended course⟩

theorem gpuAttempts_course (left : Nat) (tried : List SocketAddr)
    (history : List (Instant × RouterEffect)) (attempts : List Attempt)
    {candidate : Option (SocketAddr × PoolType)}
    (fromGpu : ∀ chosen, candidate = some chosen → chosen.2 = .gpu) (now : Instant) :
    ∃ finish report,
      (gpuAttempts client cfg perUpstream ctx reads left tried history attempts candidate
        now).finish = some (finish, report) ∧
      SequentialCourse client cfg perUpstream ctx reads left tried history attempts
        candidate now
        (gpuAttempts client cfg perUpstream ctx reads left tried history attempts candidate
          now).effects finish report := by
  induction left generalizing tried history attempts candidate now with
  | zero =>
      rw [gpuAttempts_of_stopped (Or.inl rfl)]
      exact cpuFallback_course tried history attempts (Or.inl rfl) now
  | succ left ih =>
      cases candidate with
      | none =>
          rw [gpuAttempts_of_stopped (Or.inr rfl)]
          exact cpuFallback_course tried history attempts (Or.inr rfl) now
      | some chosen =>
          obtain ⟨gpuAddr, poolType⟩ := chosen
          obtain rfl : poolType = .gpu := fromGpu _ rfl
          obtain ⟨time, outcome, ended, course⟩ :=
            gpuAttempt_course client cfg perUpstream ctx gpuAddr now
          cases won : outcome.filter isWinner with
          | some result =>
              rw [if_neg (by simp [won])] at course
              obtain ⟨finish, effects⟩ := gpuAttempts_of_won ended won
              rw [effects]
              exact ⟨_, _, finish, .won ended won course⟩
          | none =>
              rw [if_pos won] at course
              obtain ⟨finish, effects⟩ := gpuAttempts_of_failed ended won rfl
              rw [finish, effects]
              obtain ⟨finishTime, report, finished, rest⟩ := ih (tried ++ [gpuAddr])
                (history ++ (gpuAttempt client cfg perUpstream ctx gpuAddr now).effects)
                (attempts ++ [⟨gpuAddr, .gpu, now, outcome⟩])
                (fun _ found => poolType_of_pickTier found) time
              exact ⟨finishTime, report, finished, .next ended won course rest⟩

variable (client cfg perUpstream ctx reads) in
/-- Every dispatch ends, and takes one of these courses. -/
theorem sequentialTimeout_course (start : Instant) :
    ∃ finish report,
      (sequentialTimeout client cfg perUpstream ctx reads start).finish =
        some (finish, report) ∧
      SequentialCourse client cfg perUpstream ctx reads maxGpuAttempts [] [] []
        (pickGpu (reads 0 []) start) start
        (sequentialTimeout client cfg perUpstream ctx reads start).effects finish report :=
  gpuAttempts_course maxGpuAttempts [] [] []
    (fun _ found => poolType_of_pickGpu found) start

end Courses

end BgeRouter
