import BgeRouter.FrontEnd
import BgeRouter.RaceSpecification
import BgeRouter.RetryBudget

/-!
# When a client gets its answer

A control-plane request is answered within three control timeouts, whatever the
upstreams do.  The hedged strategy has no timeout of its own: it answers as
soon as its upstreams do, retries and sleeps included, and a request whose
upstreams stay silent is never answered.
-/

namespace BgeRouter

/-- Whatever is sent is answered within a limit. -/
def Client.AnswersWithin (client : Client) (limit : Duration) : Prop :=
  ∀ call request, ∃ elapsed result,
    (client.send call request).completion = some (elapsed, result) ∧ elapsed ≤ limit

def Client.Silent (client : Client) : Prop :=
  ∀ call request, (client.send call request).completion = none

/-- The longest that a retry loop takes if its calls keep to a limit. -/
def retryTime (cfg : RetryConfig) (limit : Duration) : Duration :=
  (cfg.maxRetries + 1) * limit + totalBackoff cfg

section Loop

variable {client : Client} {cfg : RetryConfig} {ctx : ForwardCtx} {addr : SocketAddr}
  {poolType : PoolType} {limit : Duration}

theorem Client.AnswersWithin.callResult (prompt : client.AnswersWithin limit)
    (attempt : Nat) (start : Instant) :
    ∃ elapsed result,
      BgeRouter.callResult client ctx addr poolType attempt start = some (elapsed, result) ∧
        elapsed ≤ limit := by
  obtain ⟨elapsed, result, sent, inTime⟩ :=
    prompt ⟨poolType, attempt, start⟩ (outgoingRequest ctx addr)
  refine ⟨elapsed, forwardResult addr poolType result, ?_, inTime⟩
  rw [BgeRouter.callResult, sent]
  rfl

theorem add_call_le_tries {start elapsed : Nat} (inTime : elapsed ≤ limit)
    (left sleeps : Nat) : start + elapsed ≤ start + ((left + 1) * limit + sleeps) :=
  Nat.add_le_add_left (Nat.le_add_right_of_le
    (Nat.le_trans inTime (Nat.le_mul_of_pos_left limit (Nat.succ_pos left)))) start

/-- A loop whose calls keep to a limit takes one such call per try, and its
sleeps.  The induction is on the course. -/
theorem RetryCourse.finish_inTime {attempt : Nat} {backoff : Duration} {start : Instant}
    {effects : List (Instant × RouterEffect)} {finish : Option (Instant × RouteResult)}
    (course : RetryCourse cfg addr poolType (callResult client ctx addr poolType) attempt
      backoff start effects finish)
    (prompt : client.AnswersWithin limit) (left : Nat)
    (counted : attempt + left = cfg.maxRetries) :
    ∃ time result, finish = some (time, result) ∧
      time ≤ start + ((left + 1) * limit + backoffSum cfg left backoff) := by
  induction course generalizing left with
  | @silent attempt _ start unanswered =>
      obtain ⟨elapsed, result, answered, -⟩ := prompt.callResult attempt start
      cases unanswered.symm.trans answered
  | @kept attempt _ start _ _ answered =>
      obtain ⟨elapsed, result, again, inTime⟩ := prompt.callResult attempt start
      cases answered.symm.trans again
      exact ⟨_, _, rfl, add_call_le_tries inTime left _⟩
  | @exhausted attempt _ start _ _ answered =>
      obtain ⟨elapsed, result, again, inTime⟩ := prompt.callResult attempt start
      cases answered.symm.trans again
      exact ⟨_, _, rfl, add_call_le_tries inTime left _⟩
  | @retried attempt backoff start elapsed _ _ _ answered failed more rest ih =>
      obtain ⟨_, _, again, inTime⟩ := prompt.callResult attempt start
      cases answered.symm.trans again
      obtain ⟨fewer, rfl⟩ : ∃ fewer, left = fewer + 1 :=
        Nat.exists_eq_succ_of_ne_zero (by omega)
      obtain ⟨time, finalResult, finished, spent⟩ := ih fewer (by omega)
      refine ⟨time, finalResult, finished, Nat.le_trans spent ?_⟩
      calc start + elapsed + backoff +
            ((fewer + 1) * limit + backoffSum cfg fewer (nextBackoff cfg backoff))
          = start + (elapsed + (fewer + 1) * limit +
              (backoff + backoffSum cfg fewer (nextBackoff cfg backoff))) := by
            simp only [Nat.add_assoc, Nat.add_left_comm]
        _ ≤ start + (limit + (fewer + 1) * limit + backoffSum cfg (fewer + 1) backoff) :=
          Nat.add_le_add_left (Nat.add_le_add_right (Nat.add_le_add_right inTime _) _) _
        _ = start + ((fewer + 1 + 1) * limit + backoffSum cfg (fewer + 1) backoff) := by
            rw [Nat.succ_mul (fewer + 1), Nat.add_comm limit]

theorem forwardWithRetry_inTime (prompt : client.AnswersWithin limit) (start : Instant) :
    ∃ time result,
      (forwardWithRetry client cfg ctx addr poolType start).finish = some (time, result) ∧
        time ≤ start + retryTime cfg limit :=
  (forwardWithRetry_course client cfg ctx addr poolType start).finish_inTime prompt _
    (Nat.zero_add _)

/-- Without an answer to its first call a loop waits forever. -/
theorem forwardWithRetry_silent (silent : client.Silent) (start : Instant) :
    (forwardWithRetry client cfg ctx addr poolType start).finish = none := by
  have unanswered : callResult client ctx addr poolType 0 start = none := by
    rw [callResult, silent]
    rfl
  have course := forwardWithRetry_course client cfg ctx addr poolType start
  generalize (forwardWithRetry client cfg ctx addr poolType start).finish = finish at course ⊢
  generalize (forwardWithRetry client cfg ctx addr poolType start).effects = effects at course
  cases course with
  | silent => rfl
  | kept answered => cases unanswered.symm.trans answered
  | exhausted answered => cases unanswered.symm.trans answered
  | retried answered => cases unanswered.symm.trans answered

end Loop

section Race

variable {client : Client} {cfg : RetryConfig} {ctx : ForwardCtx} {limit hedgeDelay : Duration}
  {start : Instant} {plan : HedgedPlan}

/-- A race of two legs that both end is over by the end of the later one. -/
theorem RaceEnd.finish_inTime {secondaryStarted : Instant → Bool}
    {gpuTime secondaryTime deadline : Instant} {gpuResult secondaryResult : RouteResult}
    {outcome : RaceOutcome}
    (ends : RaceEnd start secondaryStarted (some (gpuTime, gpuResult))
      (some (secondaryTime, secondaryResult)) outcome)
    (gpuInTime : gpuTime ≤ deadline) (secondaryInTime : secondaryTime ≤ deadline) :
    ∃ time result, outcome.finish = some (time, result) ∧ time ≤ deadline := by
  cases ends with
  | gpuFirst finished | gpuLast finished =>
      cases finished
      exact ⟨_, _, rfl, gpuInTime⟩
  | secondaryFirst finished | secondaryLast finished =>
      cases finished
      exact ⟨_, _, rfl, secondaryInTime⟩
  | bothFailed gpuFinished finished _ _ later =>
      cases gpuFinished
      cases finished
      exact ⟨_, _, rfl, later ▸ Nat.max_le.mpr ⟨gpuInTime, secondaryInTime⟩⟩
  | pending _ _ missing => simp at missing

theorem RaceEnd.finish_of_silent {secondaryStarted : Instant → Bool} {outcome : RaceOutcome}
    (ends : RaceEnd start secondaryStarted none none outcome) : outcome.finish = none := by
  cases ends with
  | gpuFirst finished | gpuLast finished => cases finished
  | secondaryFirst finished | secondaryLast finished => cases finished
  | bothFailed finished => cases finished
  | pending => rfl

theorem HedgedPlan.run_inTime (prompt : client.AnswersWithin limit) :
    ∃ time result,
      (plan.run client cfg ctx hedgeDelay start).finish = some (time, result) ∧
        time ≤ start + (hedgeDelay + retryTime cfg limit) := by
  have delayed : start + retryTime cfg limit ≤ start + (hedgeDelay + retryTime cfg limit) :=
    Nat.add_le_add_left (Nat.le_add_left _ _) _
  cases plan with
  | nothing => exact ⟨start, _, rfl, Nat.le_add_right _ _⟩
  | direct addr poolType =>
      obtain ⟨time, result, finished, spent⟩ := forwardWithRetry_inTime prompt start
      exact ⟨time, result, finished, Nat.le_trans spent delayed⟩
  | race gpuAddr secondaryAddr secondaryPool =>
      let leg := forwardWithRetry client cfg ctx secondaryAddr secondaryPool
      have ends := hedgedRace_ends (forwardWithRetry client cfg ctx gpuAddr .gpu) leg
        hedgeDelay start
      obtain ⟨gpuTime, _, gpuFinished, gpuSpent⟩ :=
        @forwardWithRetry_inTime client cfg ctx gpuAddr .gpu limit prompt start
      obtain ⟨time, _, finished, spent⟩ :=
        @forwardWithRetry_inTime client cfg ctx secondaryAddr secondaryPool limit prompt
          (start + hedgeDelay)
      rw [gpuFinished, finished] at ends
      refine ends.finish_inTime (Nat.le_trans gpuSpent delayed) ?_
      rw [← Nat.add_assoc]
      exact spent

/-- No timeout ends a hedged request whose upstreams stay silent. -/
theorem HedgedPlan.run_silent (silent : client.Silent) (some : plan ≠ .nothing) :
    (plan.run client cfg ctx hedgeDelay start).finish = none := by
  cases plan with
  | nothing => exact absurd rfl some
  | direct addr poolType => exact forwardWithRetry_silent silent start
  | race gpuAddr secondaryAddr secondaryPool =>
      let leg := forwardWithRetry client cfg ctx secondaryAddr secondaryPool
      have ends := hedgedRace_ends (forwardWithRetry client cfg ctx gpuAddr .gpu) leg
        hedgeDelay start
      rw [forwardWithRetry_silent silent, forwardWithRetry_silent silent] at ends
      exact ends.finish_of_silent

end Race

section Answers

variable {client : Client} {config : Config} {describe : ReqwestError → String}
  {reads : PoolReads} {request : ClientRequest} {start : Instant} {limit arrival : Duration}

/-- Control-plane requests end under the timeouts of their attempts. -/
theorem dispatch_sequential_inTime (cfg : RetryConfig) (ctx : ForwardCtx)
    (perUpstream : Duration) :
    ∃ time result,
      (dispatch client cfg ctx reads (.sequentialTimeout perUpstream) start).finish =
          some (time, result) ∧
        time ≤ start + 3 * perUpstream := by
  obtain ⟨finish, report, gpu, cpu, ended, spec⟩ :=
    sequentialTimeout_meetsSpec client cfg perUpstream ctx reads start
  refine ⟨finish, report.result, ?_, spec.bounded⟩
  rw [dispatch, Timed.finish_bind_pure, ended]
  rfl

theorem totalBackoff_retryConfig_le {lookup : String → Option String}
    (accepted : Config.fromLookup lookup = .ok config) :
    totalBackoff config.retryConfig ≤ config.retryCount * config.retryMaxBackoff :=
  backoffSum_le (Nat.le_refl _) _ (Config.withinBounds_of_fromLookup accepted).backoffOrder

/-- The time that the upstreams may keep a client waiting. -/
def ClientRequest.answerTime (request : ClientRequest) (config : Config) (limit : Duration) :
    Duration :=
  if isInferencePath request.pathAndQuery then
    config.hedgeDelay + ((config.retryCount + 1) * limit +
      config.retryCount * config.retryMaxBackoff)
  else 3 * config.controlTimeout

theorem route_of_isInferencePath {body : Bytes}
    (inference : isInferencePath request.pathAndQuery = true) :
    route client (request.ctx config body) reads config start =
      (hedgedPlan (reads 0 []) start).run client config.retryConfig (request.ctx config body)
        config.hedgeDelay start := by
  rw [route, ← hedgedRace_apply,
    show RoutePolicy.forPath (request.ctx config body).pathAndQuery config = _ from
      forPath_of_isInferencePath inference]
  rfl

theorem route_of_not_isInferencePath {body : Bytes}
    (control : isInferencePath request.pathAndQuery = false) :
    route client (request.ctx config body) reads config =
      dispatch client config.retryConfig (request.ctx config body) reads
        (.sequentialTimeout config.controlTimeout) := by
  have policy : RoutePolicy.forPath request.pathAndQuery config =
      .sequentialTimeout config.controlTimeout := by
    rw [RoutePolicy.forPath, if_neg (by simp [control])]
  rw [route, show RoutePolicy.forPath (request.ctx config body).pathAndQuery config = _ from
    policy]

theorem route_inTime {lookup : String → Option String}
    (accepted : Config.fromLookup lookup = .ok config) {body : Bytes}
    (prompt : isInferencePath request.pathAndQuery = true → client.AnswersWithin limit) :
    ∃ time result,
      (route client (request.ctx config body) reads config start).finish =
          some (time, result) ∧
        time ≤ start + request.answerTime config limit := by
  cases inference : isInferencePath request.pathAndQuery with
  | false =>
      rw [ClientRequest.answerTime, if_neg (by simp [inference]),
        route_of_not_isInferencePath inference]
      exact dispatch_sequential_inTime _ _ _
  | true =>
      rw [ClientRequest.answerTime, if_pos inference, route_of_isInferencePath inference]
      obtain ⟨time, result, finished, spent⟩ :=
        @HedgedPlan.run_inTime client config.retryConfig (request.ctx config body) limit
          config.hedgeDelay start (hedgedPlan (reads 0 []) start) (prompt inference)
      refine ⟨time, result, finished, Nat.le_trans spent ?_⟩
      exact Nat.add_le_add_left (Nat.add_le_add_left (Nat.add_le_add_left
        (totalBackoff_retryConfig_le accepted) _) _) _

theorem route_silent {body : Bytes} (silent : client.Silent)
    (inference : isInferencePath request.pathAndQuery = true)
    (routable : hedgedPlan (reads 0 []) start ≠ .nothing) :
    (route client (request.ctx config body) reads config start).finish = none := by
  rw [route_of_isInferencePath inference]
  exact HedgedPlan.run_silent silent routable

/-- **When a client gets its answer.**  A request whose body has arrived is
answered in time, a control-plane request even if the upstreams stay silent.
For an inference request with an upstream to try, silence lasts forever. -/
theorem handleProxy_inTime {lookup : String → Option String}
    (accepted : Config.fromLookup lookup = .ok config) {collected : Option Bytes}
    (arrived : request.body = some (arrival, collected)) :
    ((isInferencePath request.pathAndQuery = true → client.AnswersWithin limit) →
      ∃ time response,
        (handleProxy client config describe reads request start).finish =
            some (time, response) ∧
          time ≤ start + arrival + request.answerTime config limit) ∧
      (isInferencePath request.pathAndQuery = true → collected ≠ none → client.Silent →
        hedgedPlan (reads 0 []) (start + arrival) ≠ .nothing →
          (handleProxy client config describe reads request start).finish = none) := by
  cases collected with
  | none =>
      refine ⟨fun _ => ?_, fun _ failed => absurd rfl failed⟩
      exact ⟨_, _, (handleProxy_of_unread client config describe reads start arrived).1,
        Nat.le_add_right _ _⟩
  | some body =>
      have answers := (handleProxy_of_read client config describe reads start arrived).1
      rw [answers]
      constructor
      · intro prompt
        obtain ⟨time, result, finished, spent⟩ :=
          @route_inTime client config reads request (start + arrival) limit lookup accepted
            body prompt
        rw [finished]
        exact ⟨time, _, rfl, spent⟩
      · intro inference _ silent routable
        rw [route_silent silent inference routable]
        rfl

end Answers

/-- A client request for the list of models, for concrete runs. -/
def ClientRequest.models : ClientRequest where
  method := ⟨"GET"⟩
  pathAndQuery := "/v1/models"
  headers := []
  body := some (0, some [])

/-- With default settings the list of models comes within three seconds, or its
absence is known by then. -/
theorem handleProxy_inTime_models :
    ∃ time response,
      (handleProxy (.uniform none) .default (fun _ => "error") (.alone okGpuOkCpu) .models
          0).finish = some (time, response) ∧
        time ≤ Duration.fromMillis 3000 := by
  obtain ⟨time, response, finished, spent⟩ :=
    (@handleProxy_inTime (.uniform none) .default (fun _ => "error") (.alone okGpuOkCpu)
      .models 0 0 0 _ Config.fromLookup_empty _ rfl).1
      fun inference => absurd inference (by decide +kernel)
  exact ⟨time, response, finished, Nat.le_trans spent (by decide +kernel)⟩

end BgeRouter
