import BgeRouter.EnvironmentFollowed
import BgeRouter.HedgingBenefit
import BgeRouter.ServedRequests
import BgeRouter.StatusTransparency
import BgeRouter.WindowDeadlines

/-!
# Service in a steady environment

Once the snapshot agrees with DNS and the upstreams, requests are sent only to
upstreams that are listed.  If these answer, no request fails on its way and
none of them trips anything.  So windows are no longer opened, those that were
end, and from then on every request gets an answer from its first call.
-/

namespace BgeRouter

open PartialRuns

/-- Whatever this request sends to the upstream is answered within a limit, and
not with 5xx. -/
def Client.Serves (client : Client) (ctx : ForwardCtx) (limit : Duration)
    (addr : SocketAddr) : Prop :=
  ∀ call, ∃ elapsed answer,
    (client.send call (outgoingRequest ctx addr)).completion = some (elapsed, .ok answer) ∧
      answer.status.isServerError = false ∧ elapsed ≤ limit

/-- A request ends in time with an answer other than 5xx. -/
def AnsweredBy (deadline : Instant) (finish : Option (Instant × RouteResult)) : Prop :=
  ∃ time result, finish = some (time, result) ∧ isWinner result = true ∧ time ≤ deadline

section Legs

variable {client : Client} {cfg : RetryConfig} {ctx : ForwardCtx} {limit : Duration}
  {addr : SocketAddr}

/-- The first call of a retry loop is the last one. -/
theorem forwardWithRetry_served (serves : client.Serves ctx limit addr)
    (poolType : PoolType) (start : Instant) :
    AnsweredBy (start + limit)
      (forwardWithRetry client cfg ctx addr poolType start).finish := by
  obtain ⟨elapsed, answer, sent, status, inTime⟩ := serves ⟨poolType, 0, start⟩
  obtain ⟨response, passed⟩ : ∃ response, forwardResult addr poolType (.ok answer) =
      .ok response := ⟨_, rfl⟩
  have answered : callResult client ctx addr poolType 0 start =
      some (elapsed, .ok response) := by
    rw [callResult, sent, ← passed]
    rfl
  have kept : isRetryable (.ok response) = false := by
    obtain ⟨same, isSame, sameStatus, -⟩ := forwardResult_ok_iff.mp passed
    obtain rfl := Except.ok.inj isSame
    rw [isRetryable, sameStatus, status]
  have course := forwardWithRetry_course client cfg ctx addr poolType start
  refine ⟨start + elapsed, .ok response, ?_, by rw [isWinner_eq, kept]; rfl,
    Nat.add_le_add_left inTime start⟩
  exact course.endsWith_iff.mp (.last answered (Or.inl kept))

/-- An upstream that answers is not given up. -/
theorem not_givesUp {poolType : PoolType} {begins time : Instant} {policy : RoutePolicy}
    (serves : client.Serves ctx limit addr)
    (fits : ∀ perUpstream, policy = .sequentialTimeout perUpstream → limit ≤ perUpstream) :
    ¬ GivesUp client cfg ctx (addr, poolType) begins time policy := by
  have neverFails : ∀ ownCfg : RetryConfig, ¬ FailsAt ownCfg
      (callResult client ctx addr poolType) 0 ownCfg.initialBackoff begins time := by
    intro ownCfg fails
    obtain ⟨result, finished, failed⟩ := (failsAt_iff_finish _ _ _ _).mp fails
    obtain ⟨own, answer, ownFinished, winner, -⟩ :=
      @forwardWithRetry_served client ownCfg ctx limit addr serves poolType begins
    cases finished.symm.trans ownFinished
    rw [isWinner_eq, failed] at winner
    cases winner
  intro givesUp
  cases givesUp with
  | hedged fails => exact neverFails cfg fails
  | sequential inTime fails => exact neverFails _ fails
  | @timedOut perUpstream gpu late unfinished =>
      obtain ⟨own, answer, finished, -, inTime⟩ :=
        @forwardWithRetry_served client (attemptCfg cfg perUpstream) ctx limit addr serves
          poolType begins
      have course := forwardWithRetry_course client (attemptCfg cfg perUpstream) ctx addr
        poolType begins
      refine unfinished ((course.completesBy_iff time).mpr ⟨own, answer, finished, ?_⟩)
      rw [late]
      exact Nat.le_trans inTime (Nat.add_le_add_left (fits perUpstream rfl) begins)

end Legs

section Requests

variable {dns : PoolType → List SocketAddr} {health : SocketAddr → HealthReport → Prop}
  {client : Client} {cfg : RetryConfig} {ctx : ForwardCtx} {reads : PoolReads}
  {limit : Duration} {policy : RoutePolicy} {start : Instant}

/-- What is selected for a request is listed if all its loads agree with the
environment. -/
theorem listed_of_selectedBy (agree : ∀ loads history, AgreesWith dns health (reads loads history))
    {selection : Instant} {chosen : SocketAddr × PoolType}
    (selected : SelectedBy reads selection chosen) : chosen.1 ∈ dns chosen.2 := by
  obtain ⟨loads, history, selectedAt⟩ := selected
  exact (((agree loads history).routes selection).selected chosen selectedAt).1

/-- A request calls listed upstreams only. -/
theorem dispatch_listed (agree : ∀ loads history, AgreesWith dns health (reads loads history))
    {time : Instant} {addr : SocketAddr} {poolType : PoolType}
    (called : (time, .forward addr poolType) ∈
      (dispatch client cfg ctx reads policy start).effects) : addr ∈ dns poolType := by
  cases effectOrigin_of_dispatch policy called with
  | forward selected => exact listed_of_selectedBy agree selected

/-- It trips nothing if these answer. -/
theorem dispatch_harmless (agree : ∀ loads history, AgreesWith dns health (reads loads history))
    (serves : ∀ poolType, ∀ addr ∈ dns poolType, client.Serves ctx limit addr)
    (fits : ∀ perUpstream, policy = .sequentialTimeout perUpstream → limit ≤ perUpstream)
    (time : Instant) (addr : SocketAddr) (duration : Duration) :
    (time, .trip addr duration) ∉ (dispatch client cfg ctx reads policy start).effects := by
  intro tripped
  cases effectOrigin_of_dispatch policy tripped with
  | trip selected after order order' givesUp =>
      have listed := listed_of_selectedBy agree selected
      exact not_givesUp (serves _ _ listed) fits givesUp

/-- The legs of a hedged request answer it, if there are any. -/
theorem answeredBy_run {plan : HedgedPlan} {hedgeDelay : Duration} (some : plan ≠ .nothing)
    (serves : ∀ leg ∈ plan.legs, client.Serves ctx limit leg.1) :
    AnsweredBy (start + limit) (plan.run client cfg ctx hedgeDelay start).finish := by
  cases plan with
  | nothing => exact absurd rfl some
  | direct addr poolType =>
      exact forwardWithRetry_served (serves _ List.mem_cons_self) poolType start
  | race gpuAddr secondaryAddr secondaryPool =>
      let leg := forwardWithRetry client cfg ctx secondaryAddr secondaryPool
      have ends := hedgedRace_ends (forwardWithRetry client cfg ctx gpuAddr .gpu) leg
        hedgeDelay start
      obtain ⟨time, result, finished, winner, inTime⟩ :=
        @forwardWithRetry_served client cfg ctx limit gpuAddr (serves _ List.mem_cons_self) .gpu
          start
      obtain ⟨sooner, own, ended, ownWinner, order⟩ := ends.no_later_than_gpu finished winner
      exact ⟨sooner, own, ended, ownWinner, Nat.le_trans order inTime⟩

/-- An attempt on an upstream that answers succeeds. -/
theorem IsNextAttempt.answered {perUpstream : Duration} {earlier : List Attempt}
    {pool : List UpstreamInfo} {excluded : List SocketAddr} {attempt : Attempt}
    (next : IsNextAttempt client cfg perUpstream ctx start earlier pool excluded attempt)
    (serves : client.Serves ctx limit attempt.addr) (fits : limit ≤ perUpstream) :
    ∃ result, attempt.outcome = some result ∧ isWinner result = true ∧
      attempt.ends client cfg perUpstream ctx ≤ attempt.started + limit := by
  obtain ⟨time, result, finished, winner, inTime⟩ :=
    @forwardWithRetry_served client (Attempt.retryCfg cfg perUpstream attempt.poolType) ctx limit
      attempt.addr serves attempt.poolType attempt.started
  have early : time ≤ attempt.started + perUpstream :=
    Nat.le_trans inTime (Nat.add_le_add_left fits _)
  have ended : attempt.inTime client cfg perUpstream ctx = some (time, result) :=
    Course.finishedBy_eq_some_iff.mpr ⟨finished, early⟩
  refine ⟨result, ?_, winner, ?_⟩
  · rw [next.outcome, ended]
    rfl
  · rw [Attempt.ends, ended]
    exact inTime

/-- Attempts that all failed are none at all. -/
theorem GpuTrials.eq_nil_of_failed {perUpstream : Duration} {earlier later : List Attempt}
    (trials : GpuTrials client cfg perUpstream ctx reads start (earlier ++ later))
    (serves : ∀ attempt ∈ earlier, client.Serves ctx limit attempt.addr)
    (fits : limit ≤ perUpstream) (failed : ∀ attempt ∈ earlier, attempt.Failed) :
    earlier = [] := by
  cases earlier with
  | nil => rfl
  | cons first rest =>
      obtain ⟨-, next⟩ := trials.each [] first (rest ++ later) rfl
      obtain ⟨result, answered, winner, -⟩ :=
        next.answered (serves first List.mem_cons_self) fits
      have lost : first.outcome.filter isWinner = none := failed first List.mem_cons_self
      rw [answered, Option.filter_some, if_pos winner] at lost
      cases lost

/-- An upstream that always accepts can be selected wherever its entry is idle. -/
theorem AgreesWith.offered {snapshot : PoolSnapshot} (agrees : AgreesWith dns health snapshot)
    (idle : ∀ upstream ∈ snapshot.entries, upstream.isInCooldown start = false)
    {poolType : PoolType} {addr : SocketAddr} (listed : addr ∈ dns poolType)
    (accepts : ∀ report, health addr report → report.Accepting) :
    ∃ upstream ∈ snapshot.pool poolType, ∃ tier, selectionTier upstream start = some tier := by
  obtain ⟨upstream, member, rfl⟩ :=
    mem_addresses.mp ((agrees.lists poolType).mem_iff.mpr listed)
  have accepting := accepts upstream.report (agrees.reports poolType upstream member)
  have cold := idle upstream (PoolSnapshot.mem_entries.mpr ⟨poolType, member⟩)
  refine ⟨upstream, member, ?_⟩
  rcases routable_iff.mpr ⟨accepting, cold⟩ with ok | loading
  · exact ⟨.ok, Tier.eligible_iff.mp ok⟩
  · exact ⟨.loading, Tier.eligible_iff.mp loading⟩

/-- Some listed upstream accepts requests by all reports that it may give. -/
def Offers (dns : PoolType → List SocketAddr) (health : SocketAddr → HealthReport → Prop) :
    Prop :=
  ∃ poolType, ∃ addr ∈ dns poolType, ∀ report, health addr report → report.Accepting

/-- The loads of a request agree with the environment, and nothing that they
show is cooling down when the request starts. -/
structure ShowsSteady (dns : PoolType → List SocketAddr)
    (health : SocketAddr → HealthReport → Prop) (reads : PoolReads) (start : Instant) :
    Prop where
  agree : ∀ loads history, AgreesWith dns health (reads loads history)
  idle : ∀ loads history, ∀ upstream ∈ (reads loads history).entries,
    upstream.isInCooldown start = false

/-- What the environment offers is there to be tried, on the GPU path or else on
the CPU path. -/
theorem ShowsSteady.offered (shows : ShowsSteady dns health reads start)
    (offers : Offers dns health) :
    (∃ upstream ∈ (reads 0 []).gpu, ∃ tier, selectionTier upstream start = some tier) ∨
      ∃ upstream ∈ (reads 1 []).cpu, ∃ tier, selectionTier upstream start = some tier := by
  obtain ⟨poolType, addr, listed, accepts⟩ := offers
  cases poolType with
  | gpu => exact Or.inl ((shows.agree 0 []).offered (shows.idle 0 []) listed accepts)
  | cpu => exact Or.inr ((shows.agree 1 []).offered (shows.idle 1 []) listed accepts)

/-- A sequential dispatch returns what its first attempt is answered. -/
theorem MeetsSequentialSpec.answered {perUpstream : Duration} {finish : Instant}
    {effects : List (Instant × RouterEffect)} {report : SequentialReport}
    {gpu : List Attempt} {cpu : Option Attempt}
    (spec : MeetsSequentialSpec client cfg perUpstream ctx reads start finish effects report
      gpu cpu)
    (shows : ShowsSteady dns health reads start) (offers : Offers dns health)
    (served : ∀ attempt ∈ gpu ++ cpu.toList, client.Serves ctx limit attempt.addr)
    (fits : limit ≤ perUpstream) :
    isWinner report.result = true ∧ finish ≤ start + limit := by
  have servedGpu : ∀ attempt ∈ gpu, client.Serves ctx limit attempt.addr :=
    fun attempt member => served attempt (List.mem_append_left _ member)
  have noneFailed : (∀ attempt ∈ gpu, attempt.Failed) → gpu = [] := by
    have trials : GpuTrials client cfg perUpstream ctx reads start (gpu ++ []) := by
      rw [List.append_nil]
      exact spec.gpuTrials
    exact trials.eq_nil_of_failed servedGpu fits
  rw [spec.finishes, spec.attempts]
  have ending := spec.ending
  generalize report.result = result at ending ⊢
  cases ending with
  | @won earlier attempt _ last answered winner =>
      subst last
      obtain ⟨-, next⟩ := spec.gpuTrials.each earlier attempt [] rfl
      obtain rfl : earlier = [] := by
        refine spec.gpuTrials.eq_nil_of_failed (fun other member => ?_) fits next.failed
        exact servedGpu other (List.mem_append_left _ member)
      obtain ⟨own, -, -, inTime⟩ := next.answered (servedGpu attempt (by simp)) fits
      rw [next.started] at inTime
      exact ⟨winner, inTime⟩
  | @cpu attempt exhausted poolType next =>
      obtain rfl := noneFailed exhausted.failed
      obtain ⟨own, answered, winner, inTime⟩ := next.answered (served attempt (by simp)) fits
      rw [next.started] at inTime
      rw [answered]
      exact ⟨winner, inTime⟩
  | noUpstream exhausted noCpu =>
      obtain rfl := noneFailed exhausted.failed
      rcases shows.offered offers with ⟨upstream, member, tier, eligible⟩ |
        ⟨upstream, member, tier, eligible⟩
      · have noGpu := exhausted.noOther.resolve_left (by simp)
        cases eligible.symm.trans (noGpu upstream member (by simp))
      · cases eligible.symm.trans (noCpu upstream member)

theorem answeredBy_sequential {perUpstream : Duration}
    (shows : ShowsSteady dns health reads start)
    (serves : ∀ poolType, ∀ addr ∈ dns poolType, client.Serves ctx limit addr)
    (offers : Offers dns health) (fits : limit ≤ perUpstream) :
    AnsweredBy (start + limit)
      (dispatch client cfg ctx reads (.sequentialTimeout perUpstream) start).finish := by
  obtain ⟨finish, report, gpu, cpu, ended, spec⟩ :=
    sequentialTimeout_meetsSpec client cfg perUpstream ctx reads start
  have served : ∀ attempt ∈ gpu ++ cpu.toList, client.Serves ctx limit attempt.addr := by
    intro attempt member
    rw [← spec.attempts] at member
    exact serves _ _ (listed_of_selectedBy shows.agree (spec.selected member).2)
  refine ⟨finish, report.result, ?_, spec.answered shows offers served fits⟩
  rw [dispatch, Timed.finish_bind_pure, ended]
  rfl

/-- The first leg of a hedged request is answered. -/
theorem answeredBy_hedged {hedgeDelay : Duration} (shows : ShowsSteady dns health reads start)
    (serves : ∀ poolType, ∀ addr ∈ dns poolType, client.Serves ctx limit addr)
    (offers : Offers dns health) :
    AnsweredBy (start + limit)
      (dispatch client cfg ctx reads (.hedged hedgeDelay) start).finish := by
  have choice := hedgedPlan_choice (reads 0 []) start
  have some : hedgedPlan (reads 0 []) start ≠ .nothing := by
    intro nothing
    rw [nothing] at choice
    cases choice with
    | nothing noGpu noCpu =>
        obtain ⟨chosen, found⟩ :=
          ((shows.agree 0 []).routes start).found (shows.idle 0 []) offers
        have none : pick (reads 0 []) start = none :=
          pick_eq_none_iff.mpr (by rw [noGpu, noCpu]; rfl)
        cases found.symm.trans none
  rw [dispatch, hedgedRace_apply]
  refine answeredBy_run some fun leg member => serves leg.2 leg.1 ?_
  exact listed_of_selectedBy shows.agree ⟨0, [], choice.selectedAt member⟩

theorem answeredBy_dispatch (shows : ShowsSteady dns health reads start)
    (serves : ∀ poolType, ∀ addr ∈ dns poolType, client.Serves ctx limit addr)
    (offers : Offers dns health)
    (fits : ∀ perUpstream, policy = .sequentialTimeout perUpstream → limit ≤ perUpstream) :
    AnsweredBy (start + limit) (dispatch client cfg ctx reads policy start).finish := by
  cases policy with
  | hedged delay => exact answeredBy_hedged shows serves offers
  | sequentialTimeout perUpstream =>
      exact answeredBy_sequential shows serves offers (fits perUpstream rfl)

end Requests

/-- The `trip` calls among the actions are made by the requests. -/
def TripsMadeBy (client : Client) (config : Config) (requests : List ServedRequest)
    (actions : List LoopsAction) : Prop :=
  ∀ addr duration, 0 < duration → .tripStart addr duration ∈ actions →
    ∃ request ∈ requests, ∃ time, (time, .trip addr duration) ∈ request.effects client config

/-- The requests are served while the loops run on from a state. -/
structure ServedSince (client : Client) (config : Config) (interval : Interval)
    (lag : Duration) (settled : LoopsState) (actions : List LoopsAction)
    (requests : List ServedRequest) : Prop where
  /-- a load shows a snapshot that the run has visited -/
  shown : ∀ request ∈ requests, ∀ loads history, ∃ earlier later state,
    actions = earlier ++ later ∧
      run (loopsStep config interval lag) settled earlier = some state ∧
        request.reads loads history = state.router.snapshot
  called : TripsMadeBy client config requests actions

/-- All listed upstreams answer a request, on the control plane within the timeout
of an attempt. -/
structure UpstreamsServe (dns : PoolType → List SocketAddr) (client : Client)
    (config : Config) (callTime : Duration) (request : ServedRequest) : Prop where
  serves : ∀ poolType, ∀ addr ∈ dns poolType, client.Serves request.ctx callTime addr
  fits : isInferencePath request.ctx.pathAndQuery = false → callTime ≤ config.controlTimeout

/-- How requests fare after the actions `former`. -/
structure FareWell (dns : PoolType → List SocketAddr)
    (health : SocketAddr → HealthReport → Prop) (client : Client) (config : Config)
    (callTime : ForwardCtx → Duration) (former : List LoopsAction) (quiet : Instant)
    (requests : List ServedRequest) : Prop where
  /-- they call listed upstreams only -/
  listed : ∀ request ∈ requests, ∀ time addr poolType,
    (time, .forward addr poolType) ∈ request.effects client config → addr ∈ dns poolType
  /-- they trip nothing if these answer -/
  harmless : ∀ request ∈ requests,
    UpstreamsServe dns client config (callTime request.ctx) request →
      ∀ time addr duration, (time, .trip addr duration) ∉ request.effects client config
  /-- once what requests have tripped before is over, they are answered within the
  time of a call if some upstream accepts requests -/
  answered : (∀ request ∈ requests,
      UpstreamsServe dns client config (callTime request.ctx) request) →
    Offers dns health →
    (∃ formerClient formerRequests, TripsMadeBy formerClient config formerRequests former) →
      ∀ request ∈ requests, quiet ≤ request.start →
        AnsweredBy (request.start + callTime request.ctx)
          (route client request.ctx request.reads config request.start).finish

section Runs

variable {dns : PoolType → List SocketAddr} {health : SocketAddr → HealthReport → Prop}
  {client : Client} {config : Config} {interval : Interval} {limit lag : Duration}
  {state settled : LoopsState} {before settling serving : List LoopsAction}
  {requests : List ServedRequest}

/-- A request trips for as long as the configuration says. -/
theorem TripsMadeBy.within (made : TripsMadeBy client config requests serving) :
    ∀ action ∈ serving, TripsWithin config.cooldown action := by
  rintro action member addr duration rfl positive
  obtain ⟨request, -, time, tripped⟩ := made addr duration positive member
  cases effectOrigin_of_dispatch _ tripped with
  | trip => exact Nat.le_refl _

theorem UpstreamsServe.fitsPolicy {callTime : Duration} {request : ServedRequest}
    (upstreams : UpstreamsServe dns client config callTime request) (perUpstream : Duration)
    (policy : RoutePolicy.forPath request.ctx.pathAndQuery config =
      .sequentialTimeout perUpstream) : callTime ≤ perUpstream := by
  rw [RoutePolicy.forPath] at policy
  split_ifs at policy with inference
  obtain rfl := RoutePolicy.sequentialTimeout.inj policy
  exact upstreams.fits (Bool.eq_false_of_not_eq_true inference)

/-- Where everything that is loaded agrees with the environment, requests that are
served trip nothing, so that the known windows are those from before. -/
theorem ServedSince.windows
    (served : ServedSince client config interval lag settled serving requests)
    (callTime : ForwardCtx → Duration)
    (agree : ∀ request ∈ requests, ∀ loads history,
      AgreesWith dns health (request.reads loads history))
    (upstreams : ∀ request ∈ requests,
      UpstreamsServe dns client config (callTime request.ctx) request)
    {deadline : Instant} (windows : WindowsEndBy deadline settled.router)
    {request : ServedRequest} (member : request ∈ requests) (loads : Nat)
    (history : List (Instant × RouterEffect)) :
    EndsBy deadline (request.reads loads history) := by
  have quiet : ∀ action ∈ serving, TripsWithin 0 action := by
    rintro action own addr duration rfl positive
    obtain ⟨other, ofRequests, time, tripped⟩ := served.called addr duration positive own
    exact absurd tripped (dispatch_harmless (agree other ofRequests)
      (upstreams other ofRequests).serves (upstreams other ofRequests).fitsPolicy time addr
      duration)
  obtain ⟨earlier, later, visited, rfl, onward, shows⟩ :=
    served.shown request member loads history
  rw [shows]
  exact (windows.run (fun action own => quiet action (List.mem_append_left _ own))
    onward).pool.current

/-- **Service in a steady environment.**  DNS and the upstreams have stayed as
they are for the time of a refresh and a round of polls, and requests from
before have ended.  Later requests go to listed upstreams alone, whatever the
loops do meanwhile.  If these answer a request, it trips nothing.  If they answer
all of them and the cooldowns from before have passed, all are answered within
the time of one call. -/
theorem requests_fareWell (callTime : ForwardCtx → Duration)
    (ticking : healthRun config = .ticking interval)
    (answered : ∀ action ∈ before, AnsweredWithin limit action)
    (reached : run (loopsStep config interval lag) .initial before = some state)
    (steady : Along (loopsStep config interval lag) (SteadyStep dns health limit) state
      (settling ++ serving))
    (settles : run (loopsStep config interval lag) state settling = some settled)
    (passed : state.clock + (refreshBound config limit lag + roundBound config lag) <
      settled.clock)
    (served : ServedSince client config interval lag settled serving requests) :
    FareWell dns health client config callTime (before ++ settling)
      (settled.clock + config.cooldown) requests := by
  have agree : ∀ request ∈ requests, ∀ loads history,
      AgreesWith dns health (request.reads loads history) := by
    intro request member loads history
    obtain ⟨earlier, later, visited, rfl, onward, shows⟩ :=
      served.shown request member loads history
    rw [shows]
    rw [← List.append_assoc] at steady
    obtain ⟨steps, writes⟩ := writerRun_of_loopsRun onward
    exact agreesWith_of_steady ticking answered reached steady.of_append
      (run_append.mpr ⟨settled, settles, onward⟩)
      (Nat.lt_of_lt_of_le passed (clock_le_of_run writes))
  refine ⟨?_, ?_, ?_⟩
  · intro request member time addr poolType called
    exact dispatch_listed (agree request member) called
  · intro request member upstreams
    exact dispatch_harmless (agree request member) upstreams.serves upstreams.fitsPolicy
  · rintro upstreams offers ⟨formerClient, formerRequests, former⟩ request member late
    have known : WindowsEndBy (settled.clock + config.cooldown) settled.router :=
      windowsEndBy_of_run former.within (run_append.mpr ⟨state, reached, settles⟩)
    have windows := served.windows callTime agree upstreams known member
    have own := upstreams request member
    refine answeredBy_dispatch ⟨agree request member, ?_⟩ own.serves offers own.fitsPolicy
    exact fun loads history upstream entry => (windows loads history).idle late entry

end Runs

/-- A GPU upstream of the fleet refuses a request. -/
def refusedByPeer : ServedRequest where
  ctx := .get "/v1/embeddings"
  reads := fun _ _ => ⟨[⟨.samplePeer, .gpu, .ok, 0, 1, 0, none⟩], [], 0⟩
  start := Duration.fromSecs 25

/-- The fleet is followed and asked again, and the trip takes effect. -/
def peerCoolingDown : List LoopsAction :=
  fleetFollowed ++ roundWith [.samplePeer, .sampleCpu] ++
    [.tripStart .samplePeer (.fromSecs 1), .tripFastPath 0, .tripRcu 0]

theorem requests_fareWell_afterCooldown :
    ∃ interval state settled later,
      let config : Config :=
        { Config.default with dnsRefresh := .fromSecs 10, cooldown := .fromSecs 1, retryCount := 0 }
      let client : Client := .uniform (some (.fromSecs 1, .ok ⟨.ok, [], []⟩))
      let request : ServedRequest :=
        ⟨.get "/health", fun _ _ => later.router.snapshot, later.clock⟩
      run (loopsStep config interval 0) .initial otherLookup = some state ∧
        run (loopsStep config interval 0) state peerCoolingDown = some settled ∧
        run (loopsStep config interval 0) settled [.tick (.fromSecs 1)] = some later ∧
        (∃ upstream ∈ settled.router.snapshot.gpu,
          upstream.isInCooldown settled.clock = true) ∧
        AnsweredBy (later.clock + Duration.fromSecs 1)
          (route client request.ctx request.reads config request.start).finish := by
  let config : Config :=
    { Config.default with dnsRefresh := .fromSecs 10, cooldown := .fromSecs 1, retryCount := 0 }
  let client : Client := .uniform (some (.fromSecs 1, .ok ⟨.ok, [], []⟩))
  let interval : Interval := ⟨.fromSecs 5, by decide⟩
  let state := (run (loopsStep config interval 0) .initial otherLookup).get (by decide +kernel)
  let settled := (run (loopsStep config interval 0) state peerCoolingDown).get
    (by decide +kernel)
  let later := (run (loopsStep config interval 0) settled [.tick (.fromSecs 1)]).get
    (by decide +kernel)
  have reached : run (loopsStep config interval 0) .initial otherLookup = some state :=
    (Option.some_get _).symm
  have settles : run (loopsStep config interval 0) state peerCoolingDown = some settled :=
    (Option.some_get _).symm
  have reaches : run (loopsStep config interval 0) settled [.tick (.fromSecs 1)] = some later :=
    (Option.some_get _).symm
  have steady : Along (loopsStep config interval 0)
      (SteadyStep twoHealthy (fun _ report => report.status = .ok) (.fromSecs 1)) state
      (peerCoolingDown ++ [.tick (.fromSecs 1)]) := by
    decide +kernel
  let request : ServedRequest := ⟨.get "/health", fun _ _ => later.router.snapshot, later.clock⟩
  have former : TripsMadeBy (.uniform (some (0, .error .request))) config [refusedByPeer]
      (otherLookup ++ peerCoolingDown) := by
    intro addr duration positive member
    obtain ⟨rfl, rfl⟩ : addr = .samplePeer ∧ duration = .fromSecs 1 := by
      simpa [otherLookup, peerCoolingDown, fleetFollowed, roundWith, refreshWith] using member
    exact ⟨refusedByPeer, List.mem_singleton_self _, refusedByPeer.start, by decide +kernel⟩
  have served : ServedSince client config interval 0 settled [.tick (.fromSecs 1)] [request] := by
    refine ⟨?_, fun _ _ _ member => by simp at member⟩
    intro own member loads history
    obtain rfl := List.mem_singleton.mp member
    exact ⟨_, [], later, rfl, reaches, rfl⟩
  have upstreams : ∀ own ∈ [request],
      UpstreamsServe twoHealthy client config (.fromSecs 1) own := fun _ _ =>
    ⟨fun _ _ _ _ => ⟨.fromSecs 1, _, rfl, rfl, Nat.le_refl _⟩, fun _ => by decide⟩
  have offers : Offers twoHealthy fun _ report => report.status = .ok :=
    ⟨.gpu, .samplePeer, by decide, fun _ ok => Or.inl ok⟩
  refine ⟨interval, state, settled, later, reached, settles, reaches, by decide +kernel, ?_⟩
  exact (requests_fareWell (fun _ => .fromSecs 1) rfl (by simp [otherLookup, AnsweredWithin])
    reached steady settles (by decide +kernel) served).answered upstreams offers
    ⟨_, _, former⟩ request (List.mem_singleton_self _) (by decide +kernel)

end BgeRouter
