import BgeRouter.SequentialDispatch

/-!
# The budget of a GPU attempt

The dispatcher gives each try of a GPU attempt an equal share of the control
timeout and trims the sleeps to half a share.  If the calls keep to the other
half, the retry loop is through before the timeout, its trip included.
-/

namespace BgeRouter

/-- The retry configuration of GPU attempts under a configuration. -/
def Config.gpuRetryConfig (config : Config) : RetryConfig :=
  attemptCfg config.retryConfig config.controlTimeout

/-- The share of the control timeout that one try has. -/
def Config.perTryBudget (config : Config) : Duration :=
  config.controlTimeout / (config.retryCount + 1)

/-- Each call of `forward` among these effects is answered within a limit. -/
def CallsWithin (answer : Nat → Instant → Option (Duration × RouteResult))
    (limit : Duration) (attempt : Nat) (effects : List (Instant × RouterEffect)) : Prop :=
  ∀ call called upstream, (selected forwardOf effects)[call]? = some (called, upstream) →
    ∃ elapsed result, answer (attempt + call) called = some (elapsed, result) ∧
      elapsed ≤ limit

section Sleeps

variable {cfg : RetryConfig} {limit backoff : Duration}

theorem nextBackoff_le (bounded : cfg.maxBackoff ≤ limit) (backoff : Duration) :
    nextBackoff cfg backoff ≤ limit :=
  Nat.le_trans (Nat.min_le_right _ _) bounded

theorem backoffSum_le (bounded : cfg.maxBackoff ≤ limit) (left : Nat)
    (first : backoff ≤ limit) : backoffSum cfg left backoff ≤ left * limit := by
  induction left generalizing backoff with
  | zero => exact Nat.zero_le _
  | succ left ih =>
      calc backoffSum cfg (left + 1) backoff
          = backoff + backoffSum cfg left (nextBackoff cfg backoff) := rfl
        _ ≤ limit + left * limit := Nat.add_le_add first (ih (nextBackoff_le bounded backoff))
        _ = (left + 1) * limit := by rw [Nat.succ_mul, Nat.add_comm]

end Sleeps

section Loop

variable {cfg : RetryConfig} {addr : SocketAddr} {poolType : PoolType}
  {answer : Nat → Instant → Option (Duration × RouteResult)} {limit : Duration}

theorem CallsWithin.head {attempt : Nat} {start : Instant}
    {effects : List (Instant × RouterEffect)}
    (prompt : CallsWithin answer limit attempt ((start, .forward addr poolType) :: effects)) :
    ∃ elapsed result, answer attempt start = some (elapsed, result) ∧ elapsed ≤ limit :=
  prompt 0 start (addr, poolType) rfl

theorem CallsWithin.tail {attempt : Nat} {start : Instant}
    {effects : List (Instant × RouterEffect)}
    (prompt : CallsWithin answer limit attempt ((start, .forward addr poolType) :: effects)) :
    CallsWithin answer limit (attempt + 1) effects := by
  intro call called upstream made
  obtain ⟨elapsed, result, answered, inTime⟩ := prompt (call + 1) called upstream made
  rw [← Nat.add_assoc, Nat.add_right_comm] at answered
  exact ⟨elapsed, result, answered, inTime⟩

theorem add_elapsed_le {start elapsed : Nat} (inTime : elapsed ≤ limit) (left : Nat) :
    start + elapsed ≤ start + (2 * left + 1) * limit :=
  Nat.add_le_add_left (Nat.le_trans inTime (Nat.le_mul_of_pos_left limit (Nat.succ_pos _))) start

theorem add_call_le {start elapsed backoff : Nat} (inTime : elapsed ≤ limit)
    (first : backoff ≤ limit) (left : Nat) :
    start + elapsed + backoff + (2 * left + 1) * limit ≤
      start + (2 * (left + 1) + 1) * limit := by
  have two : 2 * (left + 1) + 1 = 2 + (2 * left + 1) := by omega
  calc start + elapsed + backoff + (2 * left + 1) * limit
      = start + (elapsed + backoff + (2 * left + 1) * limit) := by simp only [Nat.add_assoc]
    _ ≤ start + (limit + limit + (2 * left + 1) * limit) :=
      Nat.add_le_add_left (Nat.add_le_add_right (Nat.add_le_add inTime first) _) start
    _ = start + (2 * (left + 1) + 1) * limit := by rw [two, Nat.add_mul 2, Nat.two_mul limit]

/-- A loop whose calls and sleeps all keep to a limit is through after as many
of them as it can make.  The induction is on the course. -/
theorem RetryCourse.finish_le {attempt : Nat} {backoff : Duration} {start : Instant}
    {effects : List (Instant × RouterEffect)} {finish : Option (Instant × RouteResult)}
    (course : RetryCourse cfg addr poolType answer attempt backoff start effects finish)
    (prompt : CallsWithin answer limit attempt effects)
    (bounded : cfg.maxBackoff ≤ limit) (first : backoff ≤ limit) (left : Nat)
    (counted : attempt + left = cfg.maxRetries) :
    ∃ time result, finish = some (time, result) ∧ time ≤ start + (2 * left + 1) * limit := by
  induction course generalizing left with
  | silent unanswered =>
      obtain ⟨elapsed, result, answered, -⟩ := prompt.head
      cases unanswered.symm.trans answered
  | kept answered =>
      obtain ⟨elapsed, result, again, inTime⟩ := prompt.head
      cases answered.symm.trans again
      exact ⟨_, _, rfl, add_elapsed_le inTime left⟩
  | exhausted answered =>
      obtain ⟨elapsed, result, again, inTime⟩ := prompt.head
      cases answered.symm.trans again
      exact ⟨_, _, rfl, add_elapsed_le inTime left⟩
  | retried answered failed more rest ih =>
      obtain ⟨elapsed, result, again, inTime⟩ := prompt.head
      cases answered.symm.trans again
      obtain ⟨fewer, rfl⟩ : ∃ fewer, left = fewer + 1 :=
        Nat.exists_eq_succ_of_ne_zero (by omega)
      obtain ⟨time, finalResult, finished, spent⟩ :=
        ih prompt.tail (nextBackoff_le bounded _) fewer (by omega)
      exact ⟨time, finalResult, finished, Nat.le_trans spent (add_call_le inTime first fewer)⟩

end Loop

section Arithmetic

variable (timeout retries : Nat)

theorem half_shares_le :
    2 * (retries * (timeout / (retries + 1) / 2)) + timeout / (retries + 1) ≤ timeout := by
  have shares : (retries + 1) * (timeout / (retries + 1)) ≤ timeout := Nat.mul_div_le _ _
  have halves : retries * (2 * (timeout / (retries + 1) / 2)) ≤
      retries * (timeout / (retries + 1)) := Nat.mul_le_mul_left _ (Nat.mul_div_le _ _)
  rw [Nat.mul_left_comm] at halves
  rw [Nat.succ_mul] at shares
  exact Nat.le_trans (Nat.add_le_add_right halves _) shares

variable {timeout retries}

theorem two_le_share (enough : 2 * (retries + 1) ≤ timeout) :
    2 ≤ timeout / (retries + 1) :=
  (Nat.le_div_iff_mul_le (Nat.succ_pos _)).mpr enough

theorem mul_half_share_lt (enough : 2 * (retries + 1) ≤ timeout) :
    retries * (timeout / (retries + 1) / 2) < timeout / 2 := by
  have total := half_shares_le timeout retries
  have share := two_le_share enough
  omega

theorem tries_lt_timeout (enough : 2 * (retries + 1) ≤ timeout) :
    (2 * retries + 1) * (timeout / (retries + 1) / 2) < timeout := by
  have total := half_shares_le timeout retries
  have share := two_le_share enough
  rw [Nat.add_mul, Nat.mul_assoc, Nat.one_mul]
  omega

end Arithmetic

/-- What the trimmed backoffs achieve. -/
structure RetryBudgetFits (config : Config) : Prop where
  order : config.gpuRetryConfig.initialBackoff ≤ config.gpuRetryConfig.maxBackoff
  positive : 0 < config.gpuRetryConfig.initialBackoff ∧ 0 < config.gpuRetryConfig.maxBackoff
  sleeps : totalBackoff config.gpuRetryConfig ≤
    config.retryCount * (config.perTryBudget / 2)
  half : config.retryCount * (config.perTryBudget / 2) < config.controlTimeout / 2
  /-- an attempt whose calls keep to half a share ends by itself, with its trip -/
  inTime : ∀ client ctx addr start,
    CallsWithin (callResult client ctx addr .gpu) (config.perTryBudget / 2) 0
      (forwardWithRetry client config.gpuRetryConfig ctx addr .gpu start).effects →
    ∃ time result,
      (forwardWithRetry client config.gpuRetryConfig ctx addr .gpu start).finish =
        some (time, result) ∧
      time < start + config.controlTimeout ∧
      (gpuAttempt client config.retryConfig config.controlTimeout ctx addr start).finish =
        some (time, some result) ∧
      selected tripOf
        (gpuAttempt client config.retryConfig config.controlTimeout ctx addr start).effects =
          if isRetryable result then [(time, addr, config.cooldown)] else []

section Accepted

variable {lookup : String → Option String} {config : Config}

/-- With at most twenty retries the number of tries is in range. -/
theorem Config.gpuRetryConfig_eq (few : config.retryCount ≤ maxRetryCount) :
    config.gpuRetryConfig =
      { maxRetries := config.retryCount
        initialBackoff := min config.retryInitialBackoff (config.perTryBudget / 2)
        maxBackoff := min config.retryMaxBackoff (config.perTryBudget / 2)
        cooldown := config.cooldown } := by
  have inRange : config.retryConfig.maxRetries + 1 ≤ u32Max :=
    Nat.le_trans (Nat.succ_le_succ few) (by decide)
  simp only [gpuRetryConfig, attemptCfg, if_pos inRange]
  rfl

theorem Config.enough_of_fromLookup (accepted : fromLookup lookup = .ok config) :
    2 * (config.retryCount + 1) ≤ config.controlTimeout := by
  have bounds := withinBounds_of_fromLookup accepted
  obtain ⟨millis, -, timeout⟩ := (readFrom_of_fromLookup accepted).controlTimeout
  have positive := bounds.controlTimeout
  rw [timeout] at positive ⊢
  calc 2 * (config.retryCount + 1)
      ≤ 2 * (maxRetryCount + 1) :=
        Nat.mul_le_mul_left _ (Nat.succ_le_succ bounds.retryCount)
    _ ≤ 1000000 := by decide
    _ ≤ millis * 1000000 :=
        Nat.le_mul_of_pos_left _ (Nat.pos_of_mul_pos_right positive)

/-- The backoffs are positive and in order, and keep to half a share. -/
theorem Config.gpuBackoffs_of_fromLookup (accepted : fromLookup lookup = .ok config) :
    0 < config.gpuRetryConfig.initialBackoff ∧
      config.gpuRetryConfig.initialBackoff ≤ config.gpuRetryConfig.maxBackoff ∧
      config.gpuRetryConfig.maxBackoff ≤ config.perTryBudget / 2 := by
  have bounds := withinBounds_of_fromLookup accepted
  have halfShare : 0 < config.perTryBudget / 2 :=
    Nat.div_pos (two_le_share (enough_of_fromLookup accepted)) (by decide)
  rw [gpuRetryConfig_eq bounds.retryCount]
  refine ⟨Nat.lt_min.mpr ⟨bounds.initialBackoff, halfShare⟩, ?_, Nat.min_le_right _ _⟩
  exact Nat.le_min.mpr
    ⟨Nat.le_trans (Nat.min_le_left _ _) bounds.backoffOrder, Nat.min_le_right _ _⟩

/-- The loop of a GPU attempt whose calls keep to half a share is through before
the timeout. -/
theorem Config.gpuRetry_inTime (accepted : fromLookup lookup = .ok config) {client : Client}
    {ctx : ForwardCtx} {addr : SocketAddr} {start : Instant}
    (prompt : CallsWithin (callResult client ctx addr .gpu) (config.perTryBudget / 2) 0
      (forwardWithRetry client config.gpuRetryConfig ctx addr .gpu start).effects) :
    ∃ time result,
      (forwardWithRetry client config.gpuRetryConfig ctx addr .gpu start).finish =
        some (time, result) ∧
      time < start + config.controlTimeout := by
  obtain ⟨-, order, trimmed⟩ := gpuBackoffs_of_fromLookup accepted
  have course := forwardWithRetry_course client config.gpuRetryConfig ctx addr .gpu start
  obtain ⟨time, result, finished, spent⟩ := course.finish_le prompt trimmed
    (Nat.le_trans order trimmed) config.retryCount (Nat.zero_add _)
  have early := tries_lt_timeout (enough_of_fromLookup accepted)
  exact ⟨time, result, finished, Nat.lt_of_le_of_lt spent (Nat.add_lt_add_left early start)⟩

/-- **The trimmed retry budget fits the control timeout** of every accepted
configuration. -/
theorem retryBudgetFits_of_fromLookup (accepted : Config.fromLookup lookup = .ok config) :
    RetryBudgetFits config := by
  obtain ⟨positive, order, trimmed⟩ := Config.gpuBackoffs_of_fromLookup accepted
  constructor
  · exact order
  · exact ⟨positive, Nat.lt_of_lt_of_le positive order⟩
  · exact backoffSum_le trimmed _ (Nat.le_trans order trimmed)
  · exact mul_half_share_lt (Config.enough_of_fromLookup accepted)
  · intro client ctx addr start prompt
    obtain ⟨time, result, finished, early⟩ := Config.gpuRetry_inTime accepted prompt
    obtain ⟨attemptFinished, sameEffects⟩ := gpuAttempt_of_inTime finished (Nat.le_of_lt early)
    have course := forwardWithRetry_course client config.gpuRetryConfig ctx addr .gpu start
    refine ⟨time, result, finished, early, attemptFinished, ?_⟩
    calc selected tripOf (gpuAttempt client config.retryConfig config.controlTimeout ctx addr
          start).effects
        = selected tripOf (forwardWithRetry client config.gpuRetryConfig ctx addr .gpu
            start).effects := congrArg (selected tripOf) sameEffects
      _ = tripAtFinish addr config.gpuRetryConfig.cooldown (some (time, result)) := by
        rw [course.trips, finished]

end Accepted

/-- The default configuration: three retries within a second. -/
theorem retryBudgetFits_default : RetryBudgetFits .default :=
  retryBudgetFits_of_fromLookup Config.fromLookup_empty

end BgeRouter
