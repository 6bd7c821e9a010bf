import BgeRouter.Configuration
import BgeRouter.ReverseProxy

/-!
# Retries on one upstream

`forwardWithRetry` calls `forward` until an answer is not retryable or the
retries are used up, sleeps between the calls, and trips the circuit breaker
after the last failure.  Everything that is proved about it is derived from
`RetryCourse`, the list of ways such a loop can go.
-/

namespace BgeRouter

/-- Transport errors and 5xx answers. -/
def isRetryable : RouteResult → Bool
  | .ok resp => resp.status.isServerError
  | .error _ => true

/-- An answer other than 5xx, which a client request is served with. -/
def isWinner : RouteResult → Bool
  | .ok resp => !resp.status.isServerError
  | .error _ => false

theorem isWinner_eq (result : RouteResult) : isWinner result = !isRetryable result := by
  cases result <;> rfl

def nextBackoff (cfg : RetryConfig) (backoff : Duration) : Duration :=
  min (Duration.saturatingMul backoff 2) cfg.maxBackoff

/-- The sum of the sleeps before `left` more retries. -/
def backoffSum (cfg : RetryConfig) : (left : Nat) → (backoff : Duration) → Duration
  | 0, _ => 0
  | left + 1, backoff => backoff + backoffSum cfg left (nextBackoff cfg backoff)

/-- How long a retry loop lasts when no attempt takes any time. -/
def totalBackoff (cfg : RetryConfig) : Duration :=
  backoffSum cfg cfg.maxRetries cfg.initialBackoff

/-- The iterations of the loop from `attempt` on, of which `left` remain. -/
def retryLoop (client : Client) (cfg : RetryConfig) (ctx : ForwardCtx) (addr : SocketAddr)
    (poolType : PoolType) : (attempt left : Nat) → (backoff : Duration) →
      Timed RouterEffect RouteResult
  | _, 0, _ => return .error .noUpstreamAvailable
  | attempt, left + 1, backoff => do
      let result ← forward client ctx addr poolType attempt
      if isRetryable result = false then
        return result
      else if attempt = cfg.maxRetries then do
        Timed.emit (.trip addr cfg.cooldown)
        return result
      else do
        Timed.sleep backoff
        retryLoop client cfg ctx addr poolType (attempt + 1) left (nextBackoff cfg backoff)

/-- Forward with retry and backoff, and a circuit-breaker trip on exhaustion. -/
def forwardWithRetry (client : Client) (cfg : RetryConfig) (ctx : ForwardCtx)
    (addr : SocketAddr) (poolType : PoolType) : Timed RouterEffect RouteResult :=
  retryLoop client cfg ctx addr poolType 0 (cfg.maxRetries + 1) cfg.initialBackoff

/-- The result of a single call of `forward`, with the time it takes. -/
def callResult (client : Client) (ctx : ForwardCtx) (addr : SocketAddr)
    (poolType : PoolType) (attempt : Nat) (start : Instant) :
    Option (Duration × RouteResult) :=
  (client.send ⟨poolType, attempt, start⟩ (outgoingRequest ctx addr)).completion.map
    fun completion => (completion.1, forwardResult addr poolType completion.2)

/-- How the loop goes from an attempt on: the upstream never answers, it gives
an answer to keep, the last retry fails, or another attempt follows. -/
inductive RetryCourse (cfg : RetryConfig) (addr : SocketAddr) (poolType : PoolType)
    (answer : Nat → Instant → Option (Duration × RouteResult)) :
    Nat → Duration → Instant → List (Instant × RouterEffect) →
      Option (Instant × RouteResult) → Prop where
  | silent {attempt backoff start} (unanswered : answer attempt start = none) :
      RetryCourse cfg addr poolType answer attempt backoff start
        [(start, .forward addr poolType)] none
  | kept {attempt backoff start elapsed result}
      (answered : answer attempt start = some (elapsed, result))
      (final : isRetryable result = false) :
      RetryCourse cfg addr poolType answer attempt backoff start
        [(start, .forward addr poolType)] (some (start + elapsed, result))
  | exhausted {attempt backoff start elapsed result}
      (answered : answer attempt start = some (elapsed, result))
      (failed : isRetryable result = true) (last : attempt = cfg.maxRetries) :
      RetryCourse cfg addr poolType answer attempt backoff start
        [(start, .forward addr poolType), (start + elapsed, .trip addr cfg.cooldown)]
        (some (start + elapsed, result))
  | retried {attempt backoff start elapsed result effects finish}
      (answered : answer attempt start = some (elapsed, result))
      (failed : isRetryable result = true) (more : attempt < cfg.maxRetries)
      (rest : RetryCourse cfg addr poolType answer (attempt + 1) (nextBackoff cfg backoff)
        (start + elapsed + backoff) effects finish) :
      RetryCourse cfg addr poolType answer attempt backoff start
        ((start, .forward addr poolType) :: effects) finish

section Loop

variable {client : Client} {cfg : RetryConfig} {ctx : ForwardCtx} {addr : SocketAddr}
  {poolType : PoolType}

theorem finish_forward_eq_callResult (attempt : Nat) (start : Instant) :
    (forward client ctx addr poolType attempt start).finish =
      (callResult client ctx addr poolType attempt start).map fun completion =>
        (start + completion.1, completion.2) := by
  rw [finish_forward, callResult, Option.map_map]
  rfl

/-- One iteration, given the course of those that follow it. -/
private theorem retryLoop_course_step (attempt left : Nat) (backoff : Duration)
    (start : Instant)
    (rest : attempt ≠ cfg.maxRetries → ∀ next, RetryCourse cfg addr poolType
      (callResult client ctx addr poolType) (attempt + 1) (nextBackoff cfg backoff) next
      (retryLoop client cfg ctx addr poolType (attempt + 1) left
        (nextBackoff cfg backoff) next).effects
      (retryLoop client cfg ctx addr poolType (attempt + 1) left
        (nextBackoff cfg backoff) next).finish)
    (bounded : attempt ≤ cfg.maxRetries) :
    RetryCourse cfg addr poolType (callResult client ctx addr poolType) attempt backoff
      start
      (retryLoop client cfg ctx addr poolType attempt (left + 1) backoff start).effects
      (retryLoop client cfg ctx addr poolType attempt (left + 1) backoff start).finish := by
  rw [retryLoop]
  cases answered : callResult client ctx addr poolType attempt start with
  | none =>
      have never : (forward client ctx addr poolType attempt start).finish = none := by
        rw [finish_forward_eq_callResult, answered, Option.map_none]
      rw [Timed.effects_bind_of_never never, Timed.finish_bind_of_never never,
        effects_forward]
      exact .silent answered
  | some completion =>
      obtain ⟨elapsed, result⟩ := completion
      have finished : (forward client ctx addr poolType attempt start).finish =
          some (start + elapsed, result) := by
        rw [finish_forward_eq_callResult, answered, Option.map_some]
      rw [Timed.effects_bind finished, Timed.finish_bind finished, effects_forward]
      by_cases final : isRetryable result = false
      · rw [if_pos final]
        exact .kept answered final
      · rw [if_neg final]
        have failed : isRetryable result = true := by simpa using final
        by_cases last : attempt = cfg.maxRetries
        · rw [if_pos last]
          exact .exhausted answered failed last
        · rw [if_neg last, Timed.effects_sleep_bind, Timed.finish_sleep_bind]
          exact .retried answered failed (Nat.lt_of_le_of_ne bounded last) (rest last _)

/-- The loop takes one of these courses. -/
theorem retryLoop_course (attempt left : Nat) (backoff : Duration) (start : Instant)
    (counted : attempt + left = cfg.maxRetries) :
    RetryCourse cfg addr poolType (callResult client ctx addr poolType) attempt backoff
      start
      (retryLoop client cfg ctx addr poolType attempt (left + 1) backoff start).effects
      (retryLoop client cfg ctx addr poolType attempt (left + 1) backoff start).finish := by
  induction left generalizing attempt backoff start with
  | zero =>
      refine retryLoop_course_step attempt 0 backoff start ?_ (by omega)
      intro more
      exact absurd counted more
  | succ left ih =>
      refine retryLoop_course_step attempt (left + 1) backoff start ?_ (by omega)
      intro _ next
      exact ih (attempt + 1) _ next (by omega)

variable (client cfg ctx addr poolType) in
theorem forwardWithRetry_course (start : Instant) :
    RetryCourse cfg addr poolType (callResult client ctx addr poolType) 0
      cfg.initialBackoff start
      (forwardWithRetry client cfg ctx addr poolType start).effects
      (forwardWithRetry client cfg ctx addr poolType start).finish :=
  retryLoop_course 0 cfg.maxRetries cfg.initialBackoff start (Nat.zero_add _)

end Loop

/-- The trips among the effects of a request. -/
def tripOf : RouterEffect → Option (SocketAddr × Duration)
  | .trip addr duration => some (addr, duration)
  | _ => none

/-- The upstreams a request was forwarded to. -/
def forwardOf : RouterEffect → Option (SocketAddr × PoolType)
  | .forward addr poolType => some (addr, poolType)
  | _ => none

section Course

variable {cfg : RetryConfig} {addr : SocketAddr} {poolType : PoolType}
  {answer : Nat → Instant → Option (Duration × RouteResult)} {attempt : Nat}
  {backoff : Duration} {start : Instant} {effects : List (Instant × RouterEffect)}
  {finish : Option (Instant × RouteResult)}

/-- The trip that a finished loop has made. -/
def tripAtFinish (addr : SocketAddr) (cooldown : Duration) :
    Option (Instant × RouteResult) → List (Instant × SocketAddr × Duration)
  | some (time, result) => if isRetryable result then [(time, addr, cooldown)] else []
  | none => []

theorem mem_tripAtFinish_iff {cooldown duration : Duration} {time : Instant}
    {tripped : SocketAddr} :
    (time, tripped, duration) ∈ tripAtFinish addr cooldown finish ↔
      tripped = addr ∧ duration = cooldown ∧
        ∃ result, finish = some (time, result) ∧ isRetryable result = true := by
  cases finish with
  | none => simp [tripAtFinish]
  | some finished =>
      obtain ⟨finishTime, result⟩ := finished
      cases failed : isRetryable result with
      | false => simp [tripAtFinish, failed]
      | true =>
          simp only [tripAtFinish, failed, if_true, List.mem_singleton, Prod.mk.injEq,
            Option.some.injEq]
          constructor
          · rintro ⟨rfl, rfl, rfl⟩
            exact ⟨rfl, rfl, result, ⟨rfl, rfl⟩, failed⟩
          · rintro ⟨rfl, rfl, _, ⟨rfl, rfl⟩, -⟩
            exact ⟨rfl, rfl, rfl⟩

/-- The breaker is tripped exactly once, at the end, if the loop fails. -/
theorem RetryCourse.trips
    (course : RetryCourse cfg addr poolType answer attempt backoff start effects finish) :
    selected tripOf effects = tripAtFinish addr cfg.cooldown finish := by
  induction course with
  | silent => rfl
  | kept _ final => simp [tripAtFinish, final, selected, tripOf]
  | exhausted _ failed => simp [tripAtFinish, failed, selected, tripOf]
  | retried _ _ _ _ ih => rw [selected_cons, ih]; rfl

theorem RetryCourse.head
    (course : RetryCourse cfg addr poolType answer attempt backoff start effects finish) :
    ∃ later, effects = (start, .forward addr poolType) :: later := by
  cases course <;> exact ⟨_, rfl⟩

end Course

/-- The loop ends at `time` with a result that is final, after answers that are
all retried. -/
inductive EndsWith (cfg : RetryConfig)
    (answer : Nat → Instant → Option (Duration × RouteResult)) :
    Nat → Duration → Instant → (time : Instant) → RouteResult → Prop where
  | last {attempt backoff start elapsed result}
      (answered : answer attempt start = some (elapsed, result))
      (final : isRetryable result = false ∨ attempt = cfg.maxRetries) :
      EndsWith cfg answer attempt backoff start (start + elapsed) result
  | retry {attempt backoff start elapsed result time finalResult}
      (answered : answer attempt start = some (elapsed, result))
      (failed : isRetryable result = true) (more : attempt < cfg.maxRetries)
      (rest : EndsWith cfg answer (attempt + 1) (nextBackoff cfg backoff)
        (start + elapsed + backoff) time finalResult) :
      EndsWith cfg answer attempt backoff start time finalResult

/-- Every attempt of the loop fails, the last one at `time`. -/
def FailsAt (cfg : RetryConfig) (answer : Nat → Instant → Option (Duration × RouteResult))
    (attempt : Nat) (backoff : Duration) (start time : Instant) : Prop :=
  ∃ result, EndsWith cfg answer attempt backoff start time result ∧ isRetryable result = true

/-- The upstream's answers bring the loop to an end by a deadline. -/
def CompletesBy (cfg : RetryConfig) (answer : Nat → Instant → Option (Duration × RouteResult))
    (deadline : Instant) (attempt : Nat) (backoff : Duration) (start : Instant) : Prop :=
  ∃ time result, EndsWith cfg answer attempt backoff start time result ∧ time ≤ deadline

section Ends

variable {cfg : RetryConfig} {addr : SocketAddr} {poolType : PoolType}
  {answer : Nat → Instant → Option (Duration × RouteResult)} {attempt : Nat}
  {backoff : Duration} {start : Instant} {effects : List (Instant × RouterEffect)}
  {finish : Option (Instant × RouteResult)}

/-- The answers decide when the loop finishes, and with what. -/
theorem RetryCourse.endsWith_iff
    (course : RetryCourse cfg addr poolType answer attempt backoff start effects finish)
    {time : Instant} {result : RouteResult} :
    EndsWith cfg answer attempt backoff start time result ↔ finish = some (time, result) := by
  induction course with
  | silent unanswered =>
      constructor
      · rintro (⟨answered, -⟩ | ⟨answered, -, -, -⟩)
        · rw [unanswered] at answered
          cases answered
        · rw [unanswered] at answered
          cases answered
      · intro finished
        cases finished
  | kept answered final =>
      constructor
      · rintro (⟨again, -⟩ | ⟨again, failed, -, -⟩)
        · cases answered.symm.trans again
          rfl
        · cases answered.symm.trans again
          rw [final] at failed
          cases failed
      · intro finished
        cases finished
        exact .last answered (Or.inl final)
  | exhausted answered failed last =>
      constructor
      · rintro (⟨again, -⟩ | ⟨-, -, more, -⟩)
        · cases answered.symm.trans again
          rfl
        · omega
      · intro finished
        cases finished
        exact .last answered (Or.inr last)
  | retried answered failed more _ ih =>
      rw [← ih]
      constructor
      · rintro (⟨again, final⟩ | ⟨again, -, -, rest⟩)
        · cases answered.symm.trans again
          rcases final with final | last
          · rw [failed] at final
            cases final
          · omega
        · cases answered.symm.trans again
          exact rest
      · intro rest
        exact .retry answered failed more rest

theorem RetryCourse.failsAt_iff
    (course : RetryCourse cfg addr poolType answer attempt backoff start effects finish)
    (time : Instant) :
    FailsAt cfg answer attempt backoff start time ↔
      ∃ result, finish = some (time, result) ∧ isRetryable result = true :=
  exists_congr fun _ => and_congr_left' course.endsWith_iff

theorem RetryCourse.completesBy_iff
    (course : RetryCourse cfg addr poolType answer attempt backoff start effects finish)
    (deadline : Instant) :
    CompletesBy cfg answer deadline attempt backoff start ↔
      ∃ time result, finish = some (time, result) ∧ time ≤ deadline :=
  exists_congr fun _ => exists_congr fun _ => and_congr_left' course.endsWith_iff

end Ends

end BgeRouter
