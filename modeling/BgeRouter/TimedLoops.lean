import BgeRouter.PollCadence
import BgeRouter.WriterTransitions

/-!
# The background loops over the shared pool

`discovery::run` sleeps, resolves both names and ends a refresh; `health::run`
waits for its timer, asks the upstreams and ends a poll.  Here both loops run
over the one pool, beside any number of `trip` calls.  A loop is at most `lag`
late for a step that it could take, however busy the runtime is.
-/

namespace BgeRouter

open PartialRuns SkippedTicks

/-- Where `discovery::run` is in its loop. -/
inductive DiscoveryPhase where
  | sleeping (wake : Instant)
  | resolving (answered : Instant) (gpuResult cpuResult : ResolveResult)
  | storing (loaded : Instant)

/-- Where `health::run` is in its loop. -/
inductive HealthPhase where
  | waiting (tick : Instant)
  | polling (begun heard : Instant) (results : List PollResult)
  | storing (begun loaded : Instant)

/-- When the loop can take its next step. -/
def DiscoveryPhase.due : DiscoveryPhase → Instant
  | .sleeping wake => wake
  | .resolving answered _ _ => answered
  | .storing loaded => loaded

def HealthPhase.due : HealthPhase → Instant
  | .waiting tick => tick
  | .polling _ heard _ => heard
  | .storing _ loaded => loaded

structure LoopsState where
  router : RouterState
  loop : DiscoveryLoop
  discovery : DiscoveryPhase
  health : HealthPhase

namespace LoopsState

def clock (state : LoopsState) : Instant := state.router.clock

/-- At startup the first refresh and the first tick are due at once. -/
def initial : LoopsState := ⟨.initial, .initial, .sleeping 0, .waiting 0⟩

end LoopsState

/-- A step of a loop, or of a `trip` call.  The environment decides how long
lookups and polls take, and what they yield. -/
inductive LoopsAction where
  | tick (elapsed : Duration)
  | resolve (takes : Duration) (gpuResult cpuResult : ResolveResult)
  | refreshLoad
  | refreshStore
  | pollStart (answers : List (Option Duration)) (results : List PollResult)
  | pollLoad
  | pollStore
  | tripStart (addr : SocketAddr) (duration : Duration)
  | tripFastPath (call : Nat)
  | tripRcu (call : Nat)

section Steps

variable (config : Config) (interval : Interval) (lag : Duration)

/-- The phase in which a round of polls begins: without upstreams it is over. -/
def roundBegun (now : Instant) (answers : List (Option Duration)) (results : List PollResult) :
    Option (List SocketAddr) → HealthPhase
  | none => .waiting (dueAfter interval.period 0 now)
  | some _ => .polling now (now + pollAllTakes answers) results

/-- The effect of a step, or `none` where it is not due. -/
def loopsStep (state : LoopsState) : LoopsAction → Option LoopsState
  | .tick elapsed =>
      if state.clock + elapsed ≤ min state.discovery.due state.health.due + lag then
        (writerStep state.router (.tick elapsed)).map fun router =>
          { state with router := router }
      else none
  | .resolve takes gpuResult cpuResult =>
      match state.discovery with
      | .sleeping wake =>
          if wake ≤ state.clock then
            some { state with
              discovery := .resolving (state.clock + takes) gpuResult cpuResult }
          else none
      | _ => none
  | .refreshLoad =>
      match state.discovery with
      | .resolving answered gpuResult cpuResult =>
          if answered ≤ state.clock then
            (writerStep state.router (.refreshLoad gpuResult cpuResult)).map fun router =>
              { state with router := router, discovery := .storing state.clock }
          else none
      | _ => none
  | .refreshStore =>
      match state.discovery with
      | .storing _ =>
          (writerStep state.router .refreshStore).map fun router =>
            let loop := state.loop.next config.dnsRefresh (router.gpuResult, router.cpuResult)
            { state with
              router := router
              loop := loop
              discovery := .sleeping (state.clock + loop.sleepFor) }
      | _ => none
  | .pollStart answers results =>
      match state.health with
      | .waiting tick =>
          if tick ≤ state.clock then
            (writerStep state.router .pollStart).map fun router =>
              { state with
                router := router
                health := roundBegun interval state.clock answers results router.polled }
          else none
      | _ => none
  | .pollLoad =>
      match state.health with
      | .polling begun heard results =>
          if heard ≤ state.clock then
            (writerStep state.router (.pollLoad results)).map fun router =>
              { state with router := router, health := .storing begun state.clock }
          else none
      | _ => none
  | .pollStore =>
      match state.health with
      | .storing begun _ =>
          (writerStep state.router .pollStore).map fun router =>
            { state with
              router := router
              health := .waiting (max (dueAfter interval.period 0 begun) state.clock) }
      | _ => none
  | .tripStart addr duration =>
      (writerStep state.router (.tripStart addr duration)).map fun router =>
        { state with router := router }
  | .tripFastPath call =>
      (writerStep state.router (.tripFastPath call)).map fun router =>
        { state with router := router }
  | .tripRcu call =>
      (writerStep state.router (.tripRcu call)).map fun router =>
        { state with router := router }

end Steps

namespace LoopsAction

/-- The steps of the pool's writers that a step of the loops consists of. -/
def writes (state : LoopsState) : LoopsAction → List WriterAction
  | .tick elapsed => [.tick elapsed]
  | .resolve _ _ _ => []
  | .refreshLoad =>
      match state.discovery with
      | .resolving _ gpuResult cpuResult => [.refreshLoad gpuResult cpuResult]
      | _ => []
  | .refreshStore => [.refreshStore]
  | .pollStart _ _ => [.pollStart]
  | .pollLoad =>
      match state.health with
      | .polling _ _ results => [.pollLoad results]
      | _ => []
  | .pollStore => [.pollStore]
  | .tripStart addr duration => [.tripStart addr duration]
  | .tripFastPath call => [.tripFastPath call]
  | .tripRcu call => [.tripRcu call]

def isTrip : LoopsAction → Bool
  | .tripStart _ _ | .tripFastPath _ | .tripRcu _ => true
  | _ => false

end LoopsAction

/-- One constructor for each way a step can go. -/
inductive LoopsTransition (config : Config) (interval : Interval) (lag : Duration)
    (state : LoopsState) : LoopsAction → LoopsState → Prop where
  | tick {elapsed : Duration} {router : RouterState}
      (discovery : state.clock + elapsed ≤ state.discovery.due + lag)
      (health : state.clock + elapsed ≤ state.health.due + lag)
      (enabled : writerStep state.router (.tick elapsed) = some router) :
      LoopsTransition config interval lag state (.tick elapsed) { state with router := router }
  | resolve {wake : Instant} (takes : Duration) (gpuResult cpuResult : ResolveResult)
      (phase : state.discovery = .sleeping wake) (due : wake ≤ state.clock) :
      LoopsTransition config interval lag state (.resolve takes gpuResult cpuResult)
        { state with discovery := .resolving (state.clock + takes) gpuResult cpuResult }
  | refreshLoad {answered : Instant} {gpuResult cpuResult : ResolveResult}
      {router : RouterState} (phase : state.discovery = .resolving answered gpuResult cpuResult)
      (due : answered ≤ state.clock)
      (enabled : writerStep state.router (.refreshLoad gpuResult cpuResult) = some router) :
      LoopsTransition config interval lag state .refreshLoad
        { state with router := router, discovery := .storing state.clock }
  | refreshStore {loaded : Instant} {router : RouterState}
      (phase : state.discovery = .storing loaded)
      (enabled : writerStep state.router .refreshStore = some router) (loop : DiscoveryLoop)
      (sleeps : loop.sleepFor ≤ config.dnsRefresh) :
      LoopsTransition config interval lag state .refreshStore
        { state with
          router := router
          loop := loop
          discovery := .sleeping (state.clock + loop.sleepFor) }
  | pollStart {tick : Instant} {router : RouterState} (answers : List (Option Duration))
      (results : List PollResult) (phase : state.health = .waiting tick)
      (due : tick ≤ state.clock) (enabled : writerStep state.router .pollStart = some router) :
      LoopsTransition config interval lag state (.pollStart answers results)
        { state with
          router := router
          health := roundBegun interval state.clock answers results router.polled }
  | pollLoad {begun heard : Instant} {results : List PollResult} {router : RouterState}
      (phase : state.health = .polling begun heard results) (due : heard ≤ state.clock)
      (enabled : writerStep state.router (.pollLoad results) = some router) :
      LoopsTransition config interval lag state .pollLoad
        { state with router := router, health := .storing begun state.clock }
  | pollStore {begun loaded : Instant} {router : RouterState}
      (phase : state.health = .storing begun loaded)
      (enabled : writerStep state.router .pollStore = some router) :
      LoopsTransition config interval lag state .pollStore
        { state with
          router := router
          health := .waiting (max (dueAfter interval.period 0 begun) state.clock) }
  | trip {action : LoopsAction} {step : WriterAction} {router : RouterState}
      (isTrip : action.isTrip = true) (writes : action.writes state = [step])
      (enabled : writerStep state.router step = some router) :
      LoopsTransition config interval lag state action { state with router := router }

section Transitions

variable {config : Config} {interval : Interval} {lag : Duration} {state next : LoopsState}
  {action : LoopsAction}

theorem loopsStep_transition (enabled : loopsStep config interval lag state action = some next) :
    LoopsTransition config interval lag state action next := by
  cases action with
  | tick elapsed =>
      simp only [loopsStep] at enabled
      split_ifs at enabled with inTime
      obtain ⟨router, steps, rfl⟩ := Option.map_eq_some_iff.mp enabled
      have discovery : min state.discovery.due state.health.due + lag ≤
          state.discovery.due + lag := Nat.add_le_add_right (Nat.min_le_left _ _) _
      have health : min state.discovery.due state.health.due + lag ≤
          state.health.due + lag := Nat.add_le_add_right (Nat.min_le_right _ _) _
      exact .tick (Nat.le_trans inTime discovery) (Nat.le_trans inTime health) steps
  | resolve takes gpuResult cpuResult =>
      simp only [loopsStep] at enabled
      split at enabled
      · rename_i wake phase
        split_ifs at enabled with due
        obtain rfl := Option.some.inj enabled
        exact .resolve takes gpuResult cpuResult phase due
      · cases enabled
  | refreshLoad =>
      simp only [loopsStep] at enabled
      split at enabled
      · rename_i answered gpuResult cpuResult phase
        split_ifs at enabled with due
        obtain ⟨router, steps, rfl⟩ := Option.map_eq_some_iff.mp enabled
        exact .refreshLoad phase due steps
      · cases enabled
  | refreshStore =>
      simp only [loopsStep] at enabled
      split at enabled
      · rename_i loaded phase
        obtain ⟨router, steps, rfl⟩ := Option.map_eq_some_iff.mp enabled
        exact .refreshStore phase steps _ computeNextInterval_bounds.2
      · cases enabled
  | pollStart answers results =>
      simp only [loopsStep] at enabled
      split at enabled
      · rename_i tick phase
        split_ifs at enabled with due
        obtain ⟨router, steps, rfl⟩ := Option.map_eq_some_iff.mp enabled
        exact .pollStart answers results phase due steps
      · cases enabled
  | pollLoad =>
      simp only [loopsStep] at enabled
      split at enabled
      · rename_i begun heard results phase
        split_ifs at enabled with due
        obtain ⟨router, steps, rfl⟩ := Option.map_eq_some_iff.mp enabled
        exact .pollLoad phase due steps
      · cases enabled
  | pollStore =>
      simp only [loopsStep] at enabled
      split at enabled
      · rename_i begun loaded phase
        obtain ⟨router, steps, rfl⟩ := Option.map_eq_some_iff.mp enabled
        exact .pollStore phase steps
      · cases enabled
  | tripStart addr duration =>
      obtain ⟨router, steps, rfl⟩ := Option.map_eq_some_iff.mp enabled
      exact .trip rfl rfl steps
  | tripFastPath call =>
      obtain ⟨router, steps, rfl⟩ := Option.map_eq_some_iff.mp enabled
      exact .trip rfl rfl steps
  | tripRcu call =>
      obtain ⟨router, steps, rfl⟩ := Option.map_eq_some_iff.mp enabled
      exact .trip rfl rfl steps

/-- The loops do nothing to the pool that its writers could not do. -/
theorem loopsStep_writes (enabled : loopsStep config interval lag state action = some next) :
    run writerStep state.router (action.writes state) = some next.router := by
  cases loopsStep_transition enabled with
  | resolve => rfl
  | refreshLoad phase _ steps =>
      rw [LoopsAction.writes, phase]
      exact run_singleton.trans steps
  | pollLoad phase _ steps =>
      rw [LoopsAction.writes, phase]
      exact run_singleton.trans steps
  | trip _ writes steps =>
      rw [writes]
      exact run_singleton.trans steps
  | tick _ _ steps => exact run_singleton.trans steps
  | refreshStore _ steps => exact run_singleton.trans steps
  | pollStart _ _ _ _ steps => exact run_singleton.trans steps
  | pollStore _ steps => exact run_singleton.trans steps

/-- What is known of the writers' runs holds of the running loops. -/
theorem writerRun_of_loopsRun {actions : List LoopsAction}
    (reaches : run (loopsStep config interval lag) state actions = some next) :
    ∃ steps, run writerStep state.router steps = some next.router := by
  refine invariant_of_step (fun reached => ∃ steps,
    run writerStep state.router steps = some reached.router) ?_ ⟨[], rfl⟩ reaches
  rintro reached action following ⟨steps, sofar⟩ enabled
  exact ⟨steps ++ action.writes reached,
    run_append.mpr ⟨reached.router, sofar, loopsStep_writes enabled⟩⟩

end Transitions

section Deadlines

variable (config : Config) (limit lag : Duration)

/-- How long a refresh takes at most, once it is due. -/
def refreshTime : Duration := limit + 3 * lag

/-- How long a round of polls takes at most, once it is due. -/
def roundTime : Duration := pollTimeout + 3 * lag

/-- How far apart rounds of polls are due, at most. -/
def roundGap : Duration := max config.healthPoll (pollTimeout + 2 * lag)

/-- By when the refresh under way is stored, or the next one if there is none. -/
def DiscoveryPhase.storedBy : DiscoveryPhase → Instant
  | .sleeping wake => wake + refreshTime limit lag
  | .resolving answered _ _ => answered + 2 * lag
  | .storing loaded => loaded + lag

/-- By when a refresh is stored that has not begun yet. -/
def DiscoveryPhase.renewedBy : DiscoveryPhase → Instant
  | .sleeping wake => wake + refreshTime limit lag
  | .resolving answered _ _ => answered + 2 * lag + config.dnsRefresh + refreshTime limit lag
  | .storing loaded => loaded + lag + config.dnsRefresh + refreshTime limit lag

def HealthPhase.storedBy : HealthPhase → Instant
  | .waiting tick => tick + roundTime lag
  | .polling _ heard _ => heard + 2 * lag
  | .storing _ loaded => loaded + lag

/-- By when the results of a round are stored that has not begun yet. -/
def HealthPhase.renewedBy : HealthPhase → Instant
  | .waiting tick => tick + roundTime lag
  | .polling begun _ _ | .storing begun _ => begun + roundGap config lag + roundTime lag

/-- A round that is under way ends in time. -/
def HealthPhase.EndsInTime : HealthPhase → Prop
  | .waiting _ => True
  | .polling begun heard _ => heard ≤ begun + pollTimeout
  | .storing begun loaded => loaded ≤ begun + (pollTimeout + lag)

/-- How long it takes at most until a refresh is stored that has begun since. -/
def refreshBound : Duration := limit + 2 * lag + config.dnsRefresh + refreshTime limit lag

/-- The same of a round of polls. -/
def roundBound : Duration := roundGap config lag + roundTime lag

/-- What is known of the time in every state of the loops. -/
structure OnTime (state : LoopsState) : Prop where
  discovery : state.clock ≤ state.discovery.due + lag
  health : state.clock ≤ state.health.due + lag
  endsInTime : state.health.EndsInTime lag
  refreshes : state.discovery.renewedBy config limit lag ≤
    state.clock + refreshBound config limit lag
  rounds : state.health.renewedBy config lag ≤ state.clock + roundBound config lag

/-- A lookup takes no longer than that. -/
def AnsweredWithin : LoopsAction → Prop
  | .resolve takes _ _ => takes ≤ limit
  | _ => True

end Deadlines

section Time

variable {config : Config} {interval : Interval} {limit lag : Duration}
  {state next : LoopsState} {action : LoopsAction}

theorem clock_of_writerStep {router later : RouterState} {step : WriterAction}
    (enabled : writerStep router step = some later) (still : ∀ elapsed, step ≠ .tick elapsed) :
    later.clock = router.clock := by
  cases writerStep_transition enabled with
  | tick elapsed => exact absurd rfl (still elapsed)
  | _ => rfl

theorem isTrip_writes {step : WriterAction} (isTrip : action.isTrip = true)
    (writes : action.writes state = [step]) :
    (∀ elapsed, step ≠ .tick elapsed) ∧
      (∀ gpuResult cpuResult, step ≠ .refreshLoad gpuResult cpuResult) ∧
      ∀ results, step ≠ .pollLoad results := by
  cases action with
  | tripStart =>
      obtain rfl := List.singleton_inj.mp writes
      simp
  | tripFastPath =>
      obtain rfl := List.singleton_inj.mp writes
      simp
  | tripRcu =>
      obtain rfl := List.singleton_inj.mp writes
      simp
  | _ => cases isTrip

theorem onTime_initial : OnTime config limit lag .initial := by
  have waits : (LoopsState.initial).health.renewedBy config lag = 0 + roundTime lag := rfl
  have sleeps : (LoopsState.initial).discovery.renewedBy config limit lag =
      0 + refreshTime limit lag := rfl
  refine ⟨Nat.zero_le _, Nat.zero_le _, trivial, ?_, ?_⟩
  · rw [sleeps, refreshBound]
    grind
  · rw [waits, roundBound]
    grind

/-- A tick within the lag moves the clock only. -/
theorem OnTime.tick (onTime : OnTime config limit lag state) {elapsed : Duration}
    {router : RouterState} (discovery : state.clock + elapsed ≤ state.discovery.due + lag)
    (health : state.clock + elapsed ≤ state.health.due + lag)
    (clock : router.clock = state.clock + elapsed) :
    OnTime config limit lag { state with router := router } := by
  have moved : LoopsState.clock { state with router := router } = state.clock + elapsed := clock
  have later : state.clock ≤ LoopsState.clock { state with router := router } := by
    rw [moved]
    exact Nat.le_add_right _ _
  constructor
  · rw [moved]
    exact discovery
  · rw [moved]
    exact health
  · exact onTime.endsInTime
  · exact Nat.le_trans onTime.refreshes (Nat.add_le_add_right later _)
  · exact Nat.le_trans onTime.rounds (Nat.add_le_add_right later _)

/-- A step of discovery leaves the polls on time. -/
theorem OnTime.discovery_step (onTime : OnTime config limit lag state) {router : RouterState}
    {loop : DiscoveryLoop} {phase : DiscoveryPhase} (clock : router.clock = state.clock)
    (due : state.clock ≤ phase.due + lag)
    (refreshes : phase.renewedBy config limit lag ≤
      state.clock + refreshBound config limit lag) :
    OnTime config limit lag ⟨router, loop, phase, state.health⟩ := by
  have same : LoopsState.clock ⟨router, loop, phase, state.health⟩ = state.clock := clock
  constructor
  · rw [same]
    exact due
  · rw [same]
    exact onTime.health
  · exact onTime.endsInTime
  · rw [same]
    exact refreshes
  · rw [same]
    exact onTime.rounds

theorem OnTime.health_step (onTime : OnTime config limit lag state) {router : RouterState}
    {phase : HealthPhase} (clock : router.clock = state.clock)
    (due : state.clock ≤ phase.due + lag) (endsInTime : phase.EndsInTime lag)
    (rounds : phase.renewedBy config lag ≤ state.clock + roundBound config lag) :
    OnTime config limit lag { state with router := router, health := phase } := by
  have same : LoopsState.clock { state with router := router, health := phase } =
      state.clock := clock
  constructor
  · rw [same]
    exact onTime.discovery
  · rw [same]
    exact due
  · exact endsInTime
  · rw [same]
    exact onTime.refreshes
  · rw [same]
    exact rounds

/-- Rounds are due at most a gap after they have begun. -/
theorem dueAfter_le_gap (period : interval.period = config.healthPoll) (begun : Instant) :
    dueAfter interval.period 0 begun ≤ begun + roundGap config lag := by
  have due : dueAfter interval.period 0 begun ≤ begun + interval.period :=
    dueAfter_le (Nat.zero_le _)
  have gap : config.healthPoll ≤ roundGap config lag := Nat.le_max_left _ _
  grind

theorem roundBegun_onTime (period : interval.period = config.healthPoll) (now : Instant)
    (answers : List (Option Duration)) (results : List PollResult)
    (polled : Option (List SocketAddr)) :
    let phase := roundBegun interval now answers results polled
    now ≤ phase.due + lag ∧ phase.EndsInTime lag ∧
      phase.renewedBy config lag ≤ now + roundBound config lag := by
  cases polled with
  | none =>
      have ahead : now < dueAfter interval.period 0 now := lt_dueAfter interval.positive now
      have due : dueAfter interval.period 0 now ≤ now + roundGap config lag :=
        dueAfter_le_gap period now
      refine ⟨?_, trivial, ?_⟩
      · grind [roundBegun, HealthPhase.due]
      · grind [roundBegun, HealthPhase.renewedBy, roundBound]
  | some addrs =>
      have takes := pollAllTakes_le answers
      refine ⟨?_, ?_, ?_⟩
      · grind [roundBegun, HealthPhase.due]
      · grind [roundBegun, HealthPhase.EndsInTime]
      · grind [roundBegun, HealthPhase.renewedBy, roundBound]

/-- The round after one that ends in time is not due later than was known. -/
theorem renewedBy_waiting_le (period : interval.period = config.healthPoll)
    {begun loaded now : Instant} (inTime : (HealthPhase.storing begun loaded).EndsInTime lag)
    (stored : now ≤ loaded + lag) :
    (HealthPhase.waiting (max (dueAfter interval.period 0 begun) now)).renewedBy config lag ≤
      (HealthPhase.storing begun loaded).renewedBy config lag := by
  have due : dueAfter interval.period 0 begun ≤ begun + roundGap config lag :=
    dueAfter_le_gap period begun
  have gap : pollTimeout + 2 * lag ≤ roundGap config lag := Nat.le_max_right _ _
  have stored : now ≤ begun + roundGap config lag := by grind [HealthPhase.EndsInTime]
  exact Nat.add_le_add_right (Nat.max_le.mpr ⟨due, stored⟩) _

theorem OnTime.step (onTime : OnTime config limit lag state)
    (enabled : loopsStep config interval lag state action = some next)
    (period : interval.period = config.healthPoll) (answered : AnsweredWithin limit action) :
    OnTime config limit lag next := by
  have healthDue := onTime.health
  have rounds := onTime.rounds
  have inTime := onTime.endsInTime
  cases loopsStep_transition enabled with
  | tick discovery health steps =>
      obtain rfl := Option.some.inj steps
      exact onTime.tick discovery health rfl
  | resolve takes gpuResult cpuResult phase due =>
      apply onTime.discovery_step rfl
      · grind [DiscoveryPhase.due]
      · grind [DiscoveryPhase.renewedBy, refreshBound, AnsweredWithin]
  | refreshLoad phase due steps =>
      apply onTime.discovery_step (clock_of_writerStep steps (by simp))
      · grind [DiscoveryPhase.due]
      · grind [DiscoveryPhase.renewedBy, refreshBound]
  | refreshStore phase steps loop sleeps =>
      apply onTime.discovery_step (clock_of_writerStep steps (by simp))
      · grind [DiscoveryPhase.due]
      · grind [DiscoveryPhase.renewedBy, refreshBound]
  | pollStart answers results phase due steps =>
      obtain ⟨due, inTime, rounds⟩ := roundBegun_onTime period state.clock answers results _
      exact onTime.health_step (clock_of_writerStep steps (by simp)) due inTime rounds
  | pollLoad phase due steps =>
      rw [phase] at healthDue rounds inTime
      apply onTime.health_step (clock_of_writerStep steps (by simp))
      · grind [HealthPhase.due]
      · grind [HealthPhase.EndsInTime, HealthPhase.due]
      · exact rounds
  | pollStore phase steps =>
      rw [phase] at healthDue rounds inTime
      apply onTime.health_step (clock_of_writerStep steps (by simp))
      · grind [HealthPhase.due]
      · trivial
      · exact Nat.le_trans (renewedBy_waiting_le period inTime healthDue) rounds
  | trip isTrip writes steps =>
      have clock := clock_of_writerStep steps (isTrip_writes isTrip writes).1
      exact onTime.health_step clock healthDue inTime rounds

end Time

end BgeRouter
