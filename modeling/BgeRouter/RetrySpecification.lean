import BgeRouter.RetryLoop
import BgeRouter.Library.CappedDoubling

/-!
# What the retry loop guarantees

When every call of `forward` gets an answer, the calls are those up to the
first answer to keep, or all of them.  The sleeps between them double from the
initial backoff up to the limit, and the breaker is tripped at the very end if
no answer is kept.
-/

namespace BgeRouter

/-- The length of the sleep after an attempt. -/
def backoffAt (cfg : RetryConfig) (attempt : Nat) : Duration :=
  min (cfg.initialBackoff * Nat.pow 2 attempt) cfg.maxBackoff

section Schedule

variable (cfg : RetryConfig) (answer : Nat → Instant → Duration × RouteResult)
  (start : Instant)

/-- When an attempt begins: one sleep after the answer to the one before. -/
def callStart : Nat → Instant
  | 0 => start
  | attempt + 1 =>
      callStart attempt + (answer attempt (callStart attempt)).1 + backoffAt cfg attempt

def callEnd (attempt : Nat) : Instant :=
  callStart cfg answer start attempt + (answer attempt (callStart cfg answer start attempt)).1

def outcomeAt (attempt : Nat) : RouteResult :=
  (answer attempt (callStart cfg answer start attempt)).2

end Schedule

section Specification

variable (cfg : RetryConfig) (addr : SocketAddr) (poolType : PoolType)
  (answer : Nat → Instant → Duration × RouteResult) (start : Instant)

/-- The calls of `forward` for the first `calls` attempts. -/
def callEffects (calls : Nat) : List (Instant × RouterEffect) :=
  (List.range calls).map fun attempt =>
    (callStart cfg answer start attempt, .forward addr poolType)

/-- The loop ends with attempt `last` and returns its outcome. -/
structure EndsAfter (last : Nat) (trips effects : List (Instant × RouterEffect))
    (finish : Option (Instant × RouteResult)) : Prop where
  effects : effects = callEffects cfg addr poolType answer start (last + 1) ++ trips
  finish : finish =
    some (callEnd cfg answer start last, outcomeAt cfg answer start last)

/-- **Reference specification** of the retry loop. -/
structure MeetsRetrySpec (effects : List (Instant × RouterEffect))
    (finish : Option (Instant × RouteResult)) : Prop where
  /-- the first answer to keep ends the loop -/
  kept : ∀ attempt ≤ cfg.maxRetries,
    isRetryable (outcomeAt cfg answer start attempt) = false →
    (∀ earlier < attempt, isRetryable (outcomeAt cfg answer start earlier) = true) →
    EndsAfter cfg addr poolType answer start attempt [] effects finish
  /-- without one the breaker is tripped after the last attempt -/
  exhausted :
    (∀ attempt ≤ cfg.maxRetries, isRetryable (outcomeAt cfg answer start attempt) = true) →
    EndsAfter cfg addr poolType answer start cfg.maxRetries
      [(callEnd cfg answer start cfg.maxRetries, .trip addr cfg.cooldown)] effects finish
  /-- the error behind the loop is never returned -/
  neverBehind : ∀ time, finish ≠ some (time, .error .noUpstreamAvailable)

end Specification

section Backoff

variable {cfg : RetryConfig}

theorem backoffAt_zero (order : cfg.initialBackoff ≤ cfg.maxBackoff) :
    backoffAt cfg 0 = cfg.initialBackoff :=
  CappedDoubling.value_zero.trans (Nat.min_eq_left order)

/-- Doubling saturates only beyond the limit. -/
theorem nextBackoff_backoffAt (inRange : cfg.maxBackoff ≤ Duration.maxValue)
    (attempt : Nat) : nextBackoff cfg (backoffAt cfg attempt) = backoffAt cfg (attempt + 1) :=
  (CappedDoubling.value_succ attempt inRange).symm

end Backoff

section Loop

variable {cfg : RetryConfig} {addr : SocketAddr} {poolType : PoolType}
  {answer : Nat → Instant → Duration × RouteResult} {start : Instant}

/-- The attempt that the loop ends with: the first that is kept, or the last. -/
structure IsLastAttempt (cfg : RetryConfig)
    (answer : Nat → Instant → Duration × RouteResult) (start : Instant) (last : Nat) :
    Prop where
  bounded : last ≤ cfg.maxRetries
  retried : ∀ earlier < last, isRetryable (outcomeAt cfg answer start earlier) = true
  final : isRetryable (outcomeAt cfg answer start last) = false ∨ last = cfg.maxRetries

section LastAttempt

variable {last attempt : Nat}

theorem IsLastAttempt.eq_of_kept (isLast : IsLastAttempt cfg answer start last)
    (bounded : attempt ≤ cfg.maxRetries)
    (final : isRetryable (outcomeAt cfg answer start attempt) = false)
    (retried : ∀ earlier < attempt,
      isRetryable (outcomeAt cfg answer start earlier) = true) : last = attempt := by
  rcases Nat.lt_trichotomy last attempt with sooner | same | later
  · rcases isLast.final with kept | exhausted
    · rw [retried last sooner] at kept
      cases kept
    · omega
  · exact same
  · rw [isLast.retried attempt later] at final
    cases final

theorem IsLastAttempt.eq_of_exhausted (isLast : IsLastAttempt cfg answer start last)
    (all : ∀ attempt ≤ cfg.maxRetries,
      isRetryable (outcomeAt cfg answer start attempt) = true) : last = cfg.maxRetries := by
  rcases isLast.final with kept | exhausted
  · rw [all last isLast.bounded] at kept
    cases kept
  · exact exhausted

end LastAttempt

/-- The trip that follows the last attempt, if that failed. -/
def tripAfter (cfg : RetryConfig) (addr : SocketAddr)
    (answer : Nat → Instant → Duration × RouteResult) (start : Instant) (last : Nat) :
    List (Instant × RouterEffect) :=
  if isRetryable (outcomeAt cfg answer start last) then
    [(callEnd cfg answer start last, .trip addr cfg.cooldown)]
  else []

theorem callEffects_succ (calls : Nat) :
    callEffects cfg addr poolType answer start (calls + 1) =
      callEffects cfg addr poolType answer start calls ++
        [(callStart cfg answer start calls, .forward addr poolType)] := by
  rw [callEffects, List.range_succ, List.map_append]
  rfl

theorem outcomeAt_of_answered {attempt : Nat} {elapsed : Duration} {result : RouteResult}
    (answered : answer attempt (callStart cfg answer start attempt) = (elapsed, result)) :
    outcomeAt cfg answer start attempt = result := by
  rw [outcomeAt, answered]

theorem callEnd_of_answered {attempt : Nat} {elapsed : Duration} {result : RouteResult}
    (answered : answer attempt (callStart cfg answer start attempt) = (elapsed, result)) :
    callEnd cfg answer start attempt = callStart cfg answer start attempt + elapsed := by
  rw [callEnd, answered]

theorem tripAfter_of_kept {last : Nat}
    (kept : isRetryable (outcomeAt cfg answer start last) = false) :
    tripAfter cfg addr answer start last = [] := by
  rw [tripAfter, kept]
  rfl

theorem tripAfter_of_retryable {last : Nat}
    (failed : isRetryable (outcomeAt cfg answer start last) = true) :
    tripAfter cfg addr answer start last =
      [(callEnd cfg answer start last, .trip addr cfg.cooldown)] := by
  rw [tripAfter, if_pos failed]

variable (cfg addr poolType start) in
/-- The loop ends with the answer to its last call. -/
theorem endsAfter_of_answered {attempt : Nat} {elapsed : Duration} {result : RouteResult}
    (answered : answer attempt (callStart cfg answer start attempt) = (elapsed, result)) :
    EndsAfter cfg addr poolType answer start attempt (tripAfter cfg addr answer start attempt)
      (callEffects cfg addr poolType answer start attempt ++
        (callStart cfg answer start attempt, .forward addr poolType) ::
          tripAfter cfg addr answer start attempt)
      (some (callStart cfg answer start attempt + elapsed, result)) where
  effects := by
    rw [callEffects_succ, List.append_assoc]
    rfl
  finish := by
    rw [callEnd_of_answered answered, outcomeAt_of_answered answered]

/-- From any attempt on, after retries only.  The induction is on the course,
which reaches the attempt at its scheduled start. -/
theorem RetryCourse.endsAfter {attempt : Nat} {backoff : Duration} {now : Instant}
    {effects : List (Instant × RouterEffect)} {finish : Option (Instant × RouteResult)}
    (course : RetryCourse cfg addr poolType (fun attempt now => some (answer attempt now))
      attempt backoff now effects finish)
    (inRange : cfg.maxBackoff ≤ Duration.maxValue)
    (bounded : attempt ≤ cfg.maxRetries)
    (onTime : now = callStart cfg answer start attempt)
    (scheduled : backoff = backoffAt cfg attempt)
    (retried : ∀ earlier < attempt,
      isRetryable (outcomeAt cfg answer start earlier) = true) :
    ∃ last, IsLastAttempt cfg answer start last ∧
      EndsAfter cfg addr poolType answer start last (tripAfter cfg addr answer start last)
        (callEffects cfg addr poolType answer start attempt ++ effects) finish := by
  induction course with
  | silent unanswered => cases unanswered
  | @kept attempt backoff now elapsed result answered final =>
      subst onTime
      have same := Option.some.inj answered
      have outcome := outcomeAt_of_answered same
      refine ⟨attempt, ⟨bounded, retried, Or.inl (outcome ▸ final)⟩, ?_⟩
      have ends := endsAfter_of_answered cfg addr poolType start same
      rw [tripAfter_of_kept (outcome ▸ final)] at ends ⊢
      exact ends
  | @exhausted attempt backoff now elapsed result answered failed last =>
      subst onTime
      have same := Option.some.inj answered
      have outcome := outcomeAt_of_answered same
      refine ⟨attempt, ⟨bounded, retried, Or.inr last⟩, ?_⟩
      have ends := endsAfter_of_answered cfg addr poolType start same
      rw [tripAfter_of_retryable (outcome ▸ failed)] at ends ⊢
      rw [callEnd_of_answered same] at ends ⊢
      exact ends
  | @retried attempt backoff now elapsed result effects finish answered failed more rest ih =>
      subst onTime scheduled
      have same := Option.some.inj answered
      have next : callStart cfg answer start attempt + elapsed + backoffAt cfg attempt =
          callStart cfg answer start (attempt + 1) := by
        rw [callStart, same]
      have retriedNext : ∀ earlier < attempt + 1,
          isRetryable (outcomeAt cfg answer start earlier) = true := by
        intro earlier before
        rcases Nat.lt_succ_iff_lt_or_eq.mp before with sooner | rfl
        · exact retried earlier sooner
        · rw [outcomeAt_of_answered same]
          exact failed
      obtain ⟨last, isLast, ends⟩ :=
        ih more next (nextBackoff_backoffAt inRange attempt) retriedNext
      refine ⟨last, isLast, ?_⟩
      rw [callEffects_succ, List.append_assoc, List.singleton_append] at ends
      exact ends

theorem RetryCourse.returns_answer {answers : Nat → Instant → Option (Duration × RouteResult)}
    {attempt : Nat} {backoff : Duration} {now time : Instant} {result : RouteResult}
    {effects : List (Instant × RouterEffect)} {finish : Option (Instant × RouteResult)}
    (course : RetryCourse cfg addr poolType answers attempt backoff now effects finish)
    (returned : finish = some (time, result)) :
    ∃ made called elapsed, answers made called = some (elapsed, result) := by
  induction course with
  | silent => cases returned
  | kept answered =>
      cases returned
      exact ⟨_, _, _, answered⟩
  | exhausted answered =>
      cases returned
      exact ⟨_, _, _, answered⟩
  | retried _ _ _ _ ih => exact ih returned

end Loop

section Spec

variable {client : Client} {cfg : RetryConfig} {ctx : ForwardCtx} {addr : SocketAddr}
  {poolType : PoolType}

/-- No answer is the error that stands behind the loop. -/
theorem finish_forwardWithRetry_ne (start time : Instant) :
    (forwardWithRetry client cfg ctx addr poolType start).finish ≠
      some (time, .error .noUpstreamAvailable) := by
  intro returned
  obtain ⟨attempt, now, elapsed, answered⟩ :=
    (forwardWithRetry_course client cfg ctx addr poolType start).returns_answer returned
  rw [callResult, Option.map_eq_some_iff] at answered
  obtain ⟨⟨_, sent⟩, -, same⟩ := answered
  cases sent <;> cases (Prod.mk.inj same).2

/-- **The retry loop meets its specification**, whatever the answers are. -/
theorem forwardWithRetry_meetsSpec (client : Client) (cfg : RetryConfig) (ctx : ForwardCtx)
    (addr : SocketAddr) (poolType : PoolType)
    (order : cfg.initialBackoff ≤ cfg.maxBackoff)
    (inRange : cfg.maxBackoff ≤ Duration.maxValue)
    (answer : Nat → Instant → Duration × RouteResult)
    (answered : ∀ attempt now,
      callResult client ctx addr poolType attempt now = some (answer attempt now))
    (start : Instant) :
    MeetsRetrySpec cfg addr poolType answer start
      (forwardWithRetry client cfg ctx addr poolType start).effects
      (forwardWithRetry client cfg ctx addr poolType start).finish := by
  have course := forwardWithRetry_course client cfg ctx addr poolType start
  have answers : callResult client ctx addr poolType =
      fun attempt now => some (answer attempt now) := by
    funext attempt now
    exact answered attempt now
  rw [answers] at course
  obtain ⟨last, isLast, ends⟩ := course.endsAfter inRange (Nat.zero_le _) rfl
    (backoffAt_zero order).symm (by simp)
  constructor
  · intro attempt bounded final retried
    obtain rfl := isLast.eq_of_kept bounded final retried
    rw [tripAfter_of_kept final] at ends
    exact ends
  · intro all
    obtain rfl := isLast.eq_of_exhausted all
    rw [tripAfter_of_retryable (all _ (Nat.le_refl _))] at ends
    exact ends
  · exact finish_forwardWithRetry_ne start

end Spec

/-- Every call fails after five nanoseconds, and the breaker is tripped. -/
theorem meetsRetrySpec_of_failing_upstream :
    MeetsRetrySpec Config.default.retryConfig .sampleGpu .gpu
      (fun _ _ => (5, .error (.upstream .request))) 0
      (forwardWithRetry (.uniform (some (5, .error .request))) Config.default.retryConfig
        (.get "/v1/embeddings") .sampleGpu .gpu 0).effects
      (forwardWithRetry (.uniform (some (5, .error .request))) Config.default.retryConfig
        (.get "/v1/embeddings") .sampleGpu .gpu 0).finish :=
  forwardWithRetry_meetsSpec _ _ _ _ _ (by decide) (by decide) _ (fun _ _ => rfl) 0

end BgeRouter
