import BgeRouter.Recovery
import BgeRouter.TimedLoops

/-!
# How soon the router follows its environment

When DNS and the upstreams change and then stay as they are, the next refresh
and the next round of polls that begin afterwards bring the snapshot into
agreement with them.  The configuration says how soon that is.
-/

namespace BgeRouter

open PartialRuns

section Environment

variable (dns : PoolType → List SocketAddr) (health : SocketAddr → HealthReport → Prop)

/-- The upstreams give such reports as they may give. -/
def SteadyResults (results : List PollResult) : Prop :=
  ∀ result ∈ results, health result.addr result.report

def HearsFrom (addrs : List SocketAddr) (results : List PollResult) : Prop :=
  ∀ addr ∈ addrs, ∃ result ∈ results, result.addr = addr

/-- DNS and the upstreams are as they are, every poll hears from all upstreams
it asks, and no loop stores while the other one is between its load and its
store. -/
def SteadyStep (limit : Duration) (state : LoopsState) : LoopsAction → Prop
  | .resolve takes gpuResult cpuResult =>
      takes ≤ limit ∧ Resolves dns (resultFor gpuResult cpuResult)
  | .pollStart _ results =>
      SteadyResults health results ∧
        HearsFrom (addresses state.router.snapshot.entries) results
  | .refreshStore => state.router.pool.loaded .health = none
  | .pollStore => state.router.pool.loaded .discovery = none
  | _ => True

instance (answer : PoolType → ResolveResult) (poolType : PoolType) :
    Decidable (∃ addrs, answer poolType = .resolved addrs ∧ addrs.Perm (dns poolType)) :=
  match answered : answer poolType with
  | .resolved addrs =>
      decidable_of_iff (addrs.Perm (dns poolType)) (by simp)
  | .failed => isFalse (by simp)

instance (answer : PoolType → ResolveResult) : Decidable (Resolves dns answer) :=
  decidable_of_iff
    ((∃ addrs, answer .gpu = .resolved addrs ∧ addrs.Perm (dns .gpu)) ∧
      ∃ addrs, answer .cpu = .resolved addrs ∧ addrs.Perm (dns .cpu))
    ⟨fun both poolType => by cases poolType <;> simp [both], fun all => ⟨all .gpu, all .cpu⟩⟩

instance [∀ addr report, Decidable (health addr report)] (limit : Duration)
    (state : LoopsState) (action : LoopsAction) :
    Decidable (SteadyStep dns health limit state action) :=
  match action with
  | .resolve takes gpuResult cpuResult =>
      inferInstanceAs (Decidable (takes ≤ limit ∧ Resolves dns (resultFor gpuResult cpuResult)))
  | .pollStart _ results =>
      inferInstanceAs (Decidable ((∀ result ∈ results, health result.addr result.report) ∧
        ∀ addr ∈ addresses state.router.snapshot.entries, ∃ result ∈ results,
          result.addr = addr))
  | .refreshStore => inferInstanceAs (Decidable (state.router.pool.loaded .health = none))
  | .pollStore => inferInstanceAs (Decidable (state.router.pool.loaded .discovery = none))
  | .tick _ | .refreshLoad | .pollLoad | .tripStart _ _ | .tripFastPath _ | .tripRcu _ =>
      isTrue trivial

/-- The refresh under way has found, or will find, what DNS says. -/
def AsksDns (state : LoopsState) : Prop :=
  match state.discovery with
  | .sleeping _ => False
  | .resolving _ gpuResult cpuResult => Resolves dns (resultFor gpuResult cpuResult)
  | .storing _ => Resolves dns state.router.answer

/-- The round of polls under way hears from all upstreams. -/
def AsksAll (state : LoopsState) : Prop :=
  match state.health with
  | .waiting _ => False
  | .polling _ _ results =>
      SteadyResults health results ∧ ∀ poolType, HearsFrom (dns poolType) results
  | .storing _ _ =>
      SteadyResults health state.router.pollResults ∧
        ∀ poolType, HearsFrom (dns poolType) state.router.pollResults

/-- A lookup under way does not answer wrongly. -/
def ResolvesRightly (state : LoopsState) : Prop :=
  ∀ answered gpuResult cpuResult,
    state.discovery = .resolving answered gpuResult cpuResult →
      RightAnswers dns (resultFor gpuResult cpuResult)

/-- A poll under way hears such reports as may be given. -/
def HearsRightly (state : LoopsState) : Prop :=
  ∀ begun heard results, state.health = .polling begun heard results →
    SteadyResults health results

/-- How far the router is, and by when it is to be there. -/
inductive Stage (config : Config) (limit lag : Duration) (listedBy heardBy : Instant)
    (state : LoopsState) : Prop where
  | outdated (renewed : state.discovery.renewedBy config limit lag ≤ listedBy) :
      Stage config limit lag listedBy heardBy state
  | asking (asks : AsksDns dns state) (inTime : state.discovery.storedBy limit lag ≤ listedBy) :
      Stage config limit lag listedBy heardBy state
  | listed (lists : Listed dns state.router) (resolves : ResolvesRightly dns state)
      (renewed : (∃ poolType, dns poolType ≠ []) →
        state.health.renewedBy config lag ≤ heardBy) :
      Stage config limit lag listedBy heardBy state
  | hearing (lists : Listed dns state.router) (resolves : ResolvesRightly dns state)
      (asks : AsksAll dns health state) (inTime : state.health.storedBy lag ≤ heardBy) :
      Stage config limit lag listedBy heardBy state
  | agreed (converged : Converged dns health state.router)
      (resolves : ResolvesRightly dns state) (hears : HearsRightly health state) :
      Stage config limit lag listedBy heardBy state

end Environment

section Steps

variable {dns : PoolType → List SocketAddr} {health : SocketAddr → HealthReport → Prop}
  {config : Config} {interval : Interval} {limit lag : Duration} {listedBy heardBy : Instant}
  {state next : LoopsState} {action : LoopsAction}

theorem Resolves.rightAnswers {answer : PoolType → ResolveResult} (resolves : Resolves dns answer) :
    RightAnswers dns answer := by
  intro poolType addrs answered
  obtain ⟨own, ownAnswered, listed⟩ := resolves poolType
  obtain rfl := ResolveResult.resolved.inj (ownAnswered.symm.trans answered)
  exact listed

theorem ResolvesRightly.step (resolves : ResolvesRightly dns state)
    (enabled : loopsStep config interval lag state action = some next)
    (steady : SteadyStep dns health limit state action) : ResolvesRightly dns next := by
  intro answered gpuResult cpuResult phase
  cases loopsStep_transition enabled with
  | resolve takes gpuAnswer cpuAnswer =>
      obtain ⟨-, rfl, rfl⟩ := DiscoveryPhase.resolving.inj phase
      exact steady.2.rightAnswers
  | refreshLoad => cases phase
  | refreshStore => cases phase
  | _ => exact resolves answered gpuResult cpuResult phase

theorem HearsRightly.step (hears : HearsRightly health state)
    (enabled : loopsStep config interval lag state action = some next)
    (steady : SteadyStep dns health limit state action) : HearsRightly health next := by
  intro begun heard results phase
  cases loopsStep_transition enabled with
  | @pollStart tick router answers own =>
      have round : roundBegun interval state.clock answers own router.polled =
          .polling begun heard results := phase
      cases polled : router.polled with
      | none =>
          rw [polled] at round
          cases round
      | some addrs =>
          rw [polled] at round
          obtain ⟨-, -, rfl⟩ := HealthPhase.polling.inj round
          exact steady.1
  | pollLoad => cases phase
  | pollStore => cases phase
  | _ => exact hears begun heard results phase

theorem loadsRightly_of_writes (resolves : ResolvesRightly dns state) :
    ∀ step ∈ action.writes state, LoadsRightly dns step := by
  rintro step member gpuResult cpuResult rfl
  cases action with
  | refreshLoad =>
      cases phase : state.discovery with
      | resolving answered gpuAnswer cpuAnswer =>
          rw [LoopsAction.writes, phase] at member
          obtain ⟨rfl, rfl⟩ := WriterAction.refreshLoad.inj (List.mem_singleton.mp member)
          exact resolves answered gpuResult cpuResult phase
      | _ =>
          rw [LoopsAction.writes, phase] at member
          cases member
  | pollLoad =>
      cases phase : state.health <;> simp [LoopsAction.writes, phase] at member
  | _ => simp [LoopsAction.writes] at member

theorem stableAction_of_writes (resolves : ResolvesRightly dns state)
    (hears : HearsRightly health state) :
    ∀ step ∈ action.writes state, StableAction dns health step := by
  intro step member
  cases step with
  | refreshLoad gpuResult cpuResult =>
      exact loadsRightly_of_writes resolves _ member gpuResult cpuResult rfl
  | pollLoad results =>
      cases action with
      | pollLoad =>
          cases phase : state.health with
          | polling begun heard own =>
              rw [LoopsAction.writes, phase] at member
              obtain rfl := WriterAction.pollLoad.inj (List.mem_singleton.mp member)
              exact hears begun heard results phase
          | _ =>
              rw [LoopsAction.writes, phase] at member
              cases member
      | refreshLoad =>
          cases phase : state.discovery <;> simp [LoopsAction.writes, phase] at member
      | _ => simp [LoopsAction.writes] at member
  | _ => trivial

theorem Listed.loops_step (lists : Listed dns state.router)
    (resolves : ResolvesRightly dns state)
    (enabled : loopsStep config interval lag state action = some next) :
    Listed dns next.router :=
  lists.run (loadsRightly_of_writes resolves) (loopsStep_writes enabled)

theorem Converged.loops_step (converged : Converged dns health state.router)
    (resolves : ResolvesRightly dns state) (hears : HearsRightly health state)
    (enabled : loopsStep config interval lag state action = some next) :
    Converged dns health next.router :=
  converged.run (stableAction_of_writes resolves hears) (loopsStep_writes enabled)

theorem OnTime.clock_le_storedBy (onTime : OnTime config limit lag state) :
    state.clock ≤ state.discovery.storedBy limit lag ∧ state.clock ≤ state.health.storedBy lag := by
  have discovery := onTime.discovery
  have health := onTime.health
  constructor
  · cases phase : state.discovery <;>
      grind [DiscoveryPhase.due, DiscoveryPhase.storedBy, refreshTime]
  · cases phase : state.health <;> grind [HealthPhase.due, HealthPhase.storedBy, roundTime]

theorem OnTime.clock_le_renewedBy (onTime : OnTime config limit lag state) :
    state.clock ≤ state.discovery.renewedBy config limit lag ∧
      state.clock ≤ state.health.renewedBy config lag := by
  have discovery := onTime.discovery
  have health := onTime.health
  have inTime := onTime.endsInTime
  constructor
  · cases phase : state.discovery <;>
      grind [DiscoveryPhase.due, DiscoveryPhase.renewedBy, refreshTime]
  · cases phase : state.health <;>
      grind [HealthPhase.due, HealthPhase.renewedBy, HealthPhase.EndsInTime, roundTime, roundGap]

/-- Only the load of a refresh changes the answers it is to store. -/
theorem AsksDns.of_other (asks : AsksDns dns state) {router : RouterState}
    {step : WriterAction} {phase : HealthPhase}
    (enabled : writerStep state.router step = some router)
    (other : ∀ gpuResult cpuResult, step ≠ .refreshLoad gpuResult cpuResult) :
    AsksDns dns { state with router := router, health := phase } := by
  have same : router.answer = state.router.answer := by
    rcases answer_of_step enabled with same | ⟨gpuResult, cpuResult, loads, -⟩
    · exact same
    · exact absurd loads (other gpuResult cpuResult)
  rw [AsksDns] at asks ⊢
  rw [same]
  exact asks

theorem AsksAll.of_other (asks : AsksAll dns health state) {router : RouterState}
    {step : WriterAction} {loop : DiscoveryLoop} {phase : DiscoveryPhase}
    (enabled : writerStep state.router step = some router)
    (other : ∀ results, step ≠ .pollLoad results) :
    AsksAll dns health ⟨router, loop, phase, state.health⟩ := by
  have same : router.pollResults = state.router.pollResults := by
    rcases pollResults_of_step enabled with same | loads
    · exact same
    · exact absurd loads (other router.pollResults)
  rw [AsksAll] at asks ⊢
  rw [same]
  exact asks

/-- Until a lookup begins, the next one is still to be stored in time. -/
theorem Stage.of_outdated (renewed : state.discovery.renewedBy config limit lag ≤ listedBy)
    (onTime : OnTime config limit lag state)
    (enabled : loopsStep config interval lag state action = some next)
    (steady : SteadyStep dns health limit state action) :
    Stage dns health config limit lag listedBy heardBy next := by
  have clock := onTime.discovery
  cases loopsStep_transition enabled with
  | resolve takes gpuResult cpuResult phase due =>
      obtain ⟨inTime, resolves⟩ := steady
      refine .asking resolves ?_
      rw [phase] at clock renewed
      grind [DiscoveryPhase.due, DiscoveryPhase.renewedBy, DiscoveryPhase.storedBy, refreshTime]
  | refreshLoad phase due steps =>
      refine .outdated (Nat.le_trans ?_ renewed)
      rw [phase] at clock ⊢
      grind [DiscoveryPhase.due, DiscoveryPhase.renewedBy]
  | refreshStore phase steps loop sleeps =>
      refine .outdated (Nat.le_trans ?_ renewed)
      rw [phase] at clock ⊢
      grind [DiscoveryPhase.due, DiscoveryPhase.renewedBy]
  | _ => exact .outdated renewed

/-- The lookup that has begun is stored in time. -/
theorem Stage.of_asking (asks : AsksDns dns state)
    (inTime : state.discovery.storedBy limit lag ≤ listedBy)
    (onTime : OnTime config limit lag state)
    (order : listedBy + roundBound config lag ≤ heardBy)
    (enabled : loopsStep config interval lag state action = some next)
    (steady : SteadyStep dns health limit state action) :
    Stage dns health config limit lag listedBy heardBy next := by
  have clock := onTime.discovery
  cases loopsStep_transition enabled with
  | resolve _ _ _ phase =>
      rw [AsksDns, phase] at asks
      cases asks
  | refreshLoad phase due steps =>
      rw [AsksDns, phase] at asks
      rw [phase] at clock inTime
      cases writerStep_transition steps with
      | refreshLoad =>
          refine .asking asks ?_
          grind [DiscoveryPhase.due, DiscoveryPhase.storedBy]
  | refreshStore phase steps loop sleeps =>
      rw [AsksDns, phase] at asks
      have stores : StoresDns dns state.router _ := ⟨steps, steady, asks⟩
      refine .listed stores.listed (fun _ _ _ resolving => ?_) fun _ => ?_
      · cases resolving
      · have rounds := onTime.rounds
        have stored := onTime.clock_le_storedBy.1
        grind
  | tick _ _ steps => exact .asking (asks.of_other steps (by simp)) inTime
  | pollStart _ _ _ _ steps => exact .asking (asks.of_other steps (by simp)) inTime
  | pollLoad _ _ steps => exact .asking (asks.of_other steps (by simp)) inTime
  | pollStore _ steps => exact .asking (asks.of_other steps (by simp)) inTime
  | trip isTrip writes steps =>
      exact .asking (asks.of_other steps (isTrip_writes isTrip writes).2.1) inTime

theorem Listed.mem_entries (lists : Listed dns state.router) {poolType : PoolType}
    {addr : SocketAddr} (member : addr ∈ dns poolType) :
    addr ∈ addresses state.router.snapshot.entries := by
  have listed := (lists.pool.current poolType).mem_iff.mpr member
  obtain ⟨upstream, ofPool, same⟩ := mem_addresses.mp listed
  exact mem_addresses.mpr ⟨upstream, PoolSnapshot.mem_entries.mpr ⟨poolType, ofPool⟩, same⟩

theorem Listed.dns_ne_nil (lists : Listed dns state.router)
    (listed : addresses state.router.snapshot.entries ≠ []) :
    ∃ poolType, dns poolType ≠ [] := by
  obtain ⟨addr, member⟩ := List.exists_mem_of_ne_nil _ listed
  obtain ⟨upstream, ofEntries, same⟩ := mem_addresses.mp member
  obtain ⟨poolType, ofPool⟩ := PoolSnapshot.mem_entries.mp ofEntries
  have ofDns := (lists.pool.current poolType).mem_iff.mp
    (mem_addresses.mpr ⟨upstream, ofPool, same⟩)
  exact ⟨poolType, List.ne_nil_of_mem ofDns⟩

/-- The pools list what DNS does, so a poll that begins now asks every upstream. -/
theorem Stage.of_listed (lists : Listed dns state.router) (resolves : ResolvesRightly dns state)
    (renewed : (∃ poolType, dns poolType ≠ []) →
      state.health.renewedBy config lag ≤ heardBy)
    (onTime : OnTime config limit lag state) (period : interval.period = config.healthPoll)
    (enabled : loopsStep config interval lag state action = some next)
    (steady : SteadyStep dns health limit state action) :
    Stage dns health config limit lag listedBy heardBy next := by
  have listsNext := lists.loops_step resolves enabled
  have resolvesNext := resolves.step enabled steady
  have clock := onTime.health
  have inTime := onTime.endsInTime
  cases loopsStep_transition enabled with
  | pollStart answers results phase due steps =>
      cases writerStep_transition steps with
      | pollSkip idle empty =>
          refine .listed listsNext resolvesNext fun nonempty => ?_
          obtain ⟨poolType, nonempty⟩ := nonempty
          obtain ⟨addr, member⟩ := List.exists_mem_of_ne_nil _ nonempty
          have listed := lists.mem_entries member
          rw [empty] at listed
          cases listed
      | pollStart idle listed =>
          have asks : AsksAll dns health { state with
              router := { state.router with
                polled := some (addresses state.router.snapshot.entries) }
              health := .polling state.clock (state.clock + pollAllTakes answers) results } :=
            ⟨steady.1, fun _ _ member => steady.2 _ (lists.mem_entries member)⟩
          refine .hearing listsNext resolvesNext asks ?_
          have ahead := renewed (lists.dns_ne_nil listed)
          have takes := pollAllTakes_le answers
          rw [phase] at ahead clock
          grind [HealthPhase.due, HealthPhase.renewedBy, HealthPhase.storedBy, roundBegun,
            roundTime]
  | pollLoad phase due steps =>
      rw [phase] at renewed
      exact .listed listsNext resolvesNext renewed
  | pollStore phase steps =>
      rw [phase] at renewed clock inTime
      refine .listed listsNext resolvesNext fun nonempty => ?_
      exact Nat.le_trans (renewedBy_waiting_le period inTime clock) (renewed nonempty)
  | _ => exact .listed listsNext resolvesNext renewed

theorem Stage.of_hearing (lists : Listed dns state.router) (resolves : ResolvesRightly dns state)
    (asks : AsksAll dns health state) (inTime : state.health.storedBy lag ≤ heardBy)
    (onTime : OnTime config limit lag state)
    (enabled : loopsStep config interval lag state action = some next)
    (steady : SteadyStep dns health limit state action) :
    Stage dns health config limit lag listedBy heardBy next := by
  have listsNext := lists.loops_step resolves enabled
  have resolvesNext := resolves.step enabled steady
  have clock := onTime.health
  cases loopsStep_transition enabled with
  | pollStart _ _ phase =>
      rw [AsksAll, phase] at asks
      cases asks
  | pollLoad phase due steps =>
      rw [AsksAll, phase] at asks
      rw [phase] at clock inTime
      cases writerStep_transition steps with
      | pollLoad =>
          refine .hearing listsNext resolvesNext asks ?_
          grind [HealthPhase.due, HealthPhase.storedBy]
  | pollStore phase steps =>
      rw [AsksAll, phase] at asks
      have stores : StoresHealth dns health state.router _ := ⟨steps, steady, asks.1, asks.2⟩
      refine .agreed (stores.converged lists) resolvesNext fun _ _ _ polling => ?_
      cases polling
  | tick _ _ steps =>
      exact .hearing listsNext resolvesNext (asks.of_other steps (by simp)) inTime
  | resolve => exact .hearing listsNext resolvesNext asks inTime
  | refreshLoad _ _ steps =>
      exact .hearing listsNext resolvesNext (asks.of_other steps (by simp)) inTime
  | refreshStore _ steps =>
      exact .hearing listsNext resolvesNext (asks.of_other steps (by simp)) inTime
  | trip isTrip writes steps =>
      exact .hearing listsNext resolvesNext
        (asks.of_other steps (isTrip_writes isTrip writes).2.2) inTime

theorem SteadyStep.answeredWithin (steady : SteadyStep dns health limit state action) :
    AnsweredWithin limit action := by
  cases action with
  | resolve => exact steady.1
  | _ => trivial

theorem Stage.step (stage : Stage dns health config limit lag listedBy heardBy state)
    (onTime : OnTime config limit lag state) (period : interval.period = config.healthPoll)
    (order : listedBy + roundBound config lag ≤ heardBy)
    (enabled : loopsStep config interval lag state action = some next)
    (steady : SteadyStep dns health limit state action) :
    Stage dns health config limit lag listedBy heardBy next := by
  cases stage with
  | outdated renewed => exact .of_outdated renewed onTime enabled steady
  | asking asks inTime => exact .of_asking asks inTime onTime order enabled steady
  | listed lists resolves renewed =>
      exact .of_listed lists resolves renewed onTime period enabled steady
  | hearing lists resolves asks inTime =>
      exact .of_hearing lists resolves asks inTime onTime enabled steady
  | agreed converged resolves hears =>
      exact .agreed (converged.loops_step resolves hears enabled)
        (resolves.step enabled steady) (hears.step enabled steady)

/-- When the time has passed, nothing is left to wait for. -/
theorem Stage.agrees (stage : Stage dns health config limit lag listedBy heardBy state)
    (onTime : OnTime config limit lag state) (order : listedBy ≤ heardBy)
    (passed : heardBy < state.clock) : AgreesWith dns health state.router.snapshot := by
  obtain ⟨refreshed, polled⟩ := onTime.clock_le_storedBy
  obtain ⟨renewed, repolled⟩ := onTime.clock_le_renewedBy
  have late : listedBy < state.clock := Nat.lt_of_le_of_lt order passed
  cases stage with
  | outdated inTime => exact absurd (Nat.le_trans renewed inTime) (Nat.not_le_of_lt late)
  | asking _ inTime => exact absurd (Nat.le_trans refreshed inTime) (Nat.not_le_of_lt late)
  | listed lists _ inTime =>
      refine ⟨lists.pool.current, fun poolType upstream member => ?_⟩
      -- a fleet without upstreams is never heard from
      have listed := mem_addresses.mpr ⟨upstream, member, rfl⟩
      have ofDns := (lists.pool.current poolType).mem_iff.mp listed
      have inTime := inTime ⟨poolType, List.ne_nil_of_mem ofDns⟩
      exact absurd (Nat.le_trans repolled inTime) (Nat.not_le_of_lt passed)
  | hearing _ _ _ inTime => exact absurd (Nat.le_trans polled inTime) (Nat.not_le_of_lt passed)
  | agreed converged => exact converged.pool.current

end Steps

section Runs

variable {dns : PoolType → List SocketAddr} {health : SocketAddr → HealthReport → Prop}
  {config : Config} {interval : Interval} {limit lag : Duration} {state later : LoopsState}
  {before after : List LoopsAction}

theorem onTime_of_run (period : interval.period = config.healthPoll)
    (answered : ∀ action ∈ before, AnsweredWithin limit action)
    (reached : run (loopsStep config interval lag) .initial before = some state) :
    OnTime config limit lag state :=
  invariant_of_actions (OnTime config limit lag) (AnsweredWithin limit)
    (fun _ _ _ onTime enabled answered => onTime.step enabled period answered)
    onTime_initial answered reached

/-- Once the time of a refresh and a round of polls has passed, the snapshot
says what DNS and the upstreams do. -/
theorem agreesWith_of_steady (ticking : healthRun config = .ticking interval)
    (answered : ∀ action ∈ before, AnsweredWithin limit action)
    (reached : run (loopsStep config interval lag) .initial before = some state)
    (steady : Along (loopsStep config interval lag) (SteadyStep dns health limit) state after)
    (reaches : run (loopsStep config interval lag) state after = some later)
    (passed : state.clock + (refreshBound config limit lag + roundBound config lag) <
      later.clock) : AgreesWith dns health later.router.snapshot := by
  have period : interval.period = config.healthPoll := period_of_timeInterval ticking
  have onTime := onTime_of_run period answered reached
  let listedBy := state.clock + refreshBound config limit lag
  let heardBy := state.clock + (refreshBound config limit lag + roundBound config lag)
  have order : listedBy + roundBound config lag ≤ heardBy := by grind
  have followed : OnTime config limit lag later ∧
      Stage dns health config limit lag listedBy heardBy later := by
    refine invariant_of_along (fun state => OnTime config limit lag state ∧
      Stage dns health config limit lag listedBy heardBy state) ?_
      ⟨onTime, .outdated onTime.refreshes⟩ steady reaches
    intro state action next invariant enabled steady
    obtain ⟨onTime, stage⟩ := invariant
    exact ⟨onTime.step enabled period steady.answeredWithin,
      stage.step onTime period order enabled steady⟩
  exact followed.2.agrees followed.1 (by grind) passed

/-- **The router follows its environment.**  From any state of the running
loops on, if DNS and the upstreams stay as they are for the time of a refresh
and a round of polls, the snapshot agrees with them and requests are routed by
what they say, as long as they stay so. -/
theorem environment_followed (ticking : healthRun config = .ticking interval)
    (answered : ∀ action ∈ before, AnsweredWithin limit action)
    (reached : run (loopsStep config interval lag) .initial before = some state)
    (steady : Along (loopsStep config interval lag) (SteadyStep dns health limit) state after)
    (reaches : run (loopsStep config interval lag) state after = some later)
    (passed : state.clock + (refreshBound config limit lag + roundBound config lag) <
      later.clock) :
    AgreesWith dns health later.router.snapshot ∧
      ∀ now, RoutesByEnvironment dns health later.router.snapshot now := by
  have agrees := agreesWith_of_steady ticking answered reached steady reaches passed
  exact ⟨agrees, agrees.routes⟩

end Runs

/-- A refresh that is answered at once. -/
def refreshWith (gpuAddrs cpuAddrs : List SocketAddr) : List LoopsAction :=
  [.resolve 0 (.resolved gpuAddrs) (.resolved cpuAddrs), .refreshLoad, .refreshStore]

/-- A round of polls in which these upstreams answer at once. -/
def roundWith (addrs : List SocketAddr) : List LoopsAction :=
  [.pollStart [some 0] (addrs.map fun addr => ⟨addr, .ok, .ofNat addrs.length, 1⟩),
    .pollLoad, .pollStore]

/-- A lookup under way is to find another fleet. -/
def otherLookup : List LoopsAction :=
  [.pollStart [] [], .resolve (.fromSecs 1) (.resolved [.sampleGpu]) .failed]

/-- The other fleet is found and polled, then this one is. -/
def fleetFollowed : List LoopsAction :=
  [.tick (.fromSecs 1), .refreshLoad, .refreshStore, .tick (.fromSecs 4)] ++
    roundWith [.sampleGpu] ++ [.tick (.fromSecs 5)] ++ roundWith [.sampleGpu] ++
    [.tick (.fromSecs 1)] ++ refreshWith [.samplePeer] [.sampleCpu] ++ [.tick (.fromSecs 4)] ++
    roundWith [.sampleCpu, .samplePeer] ++ [.tick (.fromSecs 5)] ++
    roundWith [.samplePeer, .sampleCpu] ++ [.tick (.fromSecs 1)] ++
    refreshWith [.samplePeer] [.sampleCpu] ++ [.tick (.fromSecs 4)]

theorem environment_followed_twoHealthy :
    ∃ interval state later,
      run (loopsStep { Config.default with dnsRefresh := .fromSecs 10 } interval 0) .initial
          otherLookup = some state ∧
      run (loopsStep { Config.default with dnsRefresh := .fromSecs 10 } interval 0) state
          fleetFollowed = some later ∧
      AgreesWith twoHealthy (fun _ report => report.status = .ok) later.router.snapshot := by
  let config : Config := { Config.default with dnsRefresh := .fromSecs 10 }
  let interval : Interval := ⟨.fromSecs 5, by decide⟩
  let state := (run (loopsStep config interval 0) .initial otherLookup).get (by decide +kernel)
  let later := (run (loopsStep config interval 0) state fleetFollowed).get (by decide +kernel)
  have reached : run (loopsStep config interval 0) .initial otherLookup = some state :=
    (Option.some_get _).symm
  have reaches : run (loopsStep config interval 0) state fleetFollowed = some later :=
    (Option.some_get _).symm
  have steady : Along (loopsStep config interval 0)
      (SteadyStep twoHealthy (fun _ report => report.status = .ok) (.fromSecs 1)) state
      fleetFollowed := by
    decide +kernel
  refine ⟨interval, state, later, reached, reaches, ?_⟩
  refine (environment_followed rfl ?_ reached steady reaches (by decide +kernel)).1
  simp [otherLookup, AnsweredWithin]

end BgeRouter
