import BgeRouter.HedgeLog
import BgeRouter.RequestLegs

/-!
# What the log of a hedged request tells

Each event of the log stands for something that the request has done: it has
fired its second leg, a leg has failed and tripped its upstream, the race was
won or lost, or the only upstream has answered.  Nothing of the kind goes
unlogged, so that the calls, the trips and the answer can be told from the log.
-/

namespace BgeRouter

namespace RaceFields

def upstream (race : RaceFields) : RaceSide → SocketAddr
  | .primaryGpu => race.primaryGpuUpstream
  | .secondary => race.secondaryUpstream

/-- The name of the side in the events about failed legs. -/
def poolName (race : RaceFields) : RaceSide → String
  | .primaryGpu => "GPU"
  | .secondary => race.secondaryPool.asStr

def plan (race : RaceFields) : HedgedPlan :=
  .race race.primaryGpuUpstream race.secondaryUpstream race.secondaryPool

end RaceFields

section Specification

variable (client : Client) (cfg : RetryConfig) (ctx : ForwardCtx)
  (describe : ReqwestError → String) (hedgeDelay : Duration) (start : Instant)

/-- The GPU leg of the race. -/
def RaceFields.gpuLeg (race : RaceFields) : Course RouterEffect RouteResult start :=
  forwardWithRetry client cfg ctx race.primaryGpuUpstream .gpu start

/-- The secondary leg of the race, from its first call on. -/
def RaceFields.secondaryLeg (race : RaceFields) :
    Course RouterEffect RouteResult (start + hedgeDelay) :=
  forwardWithRetry client cfg ctx race.secondaryUpstream race.secondaryPool
    (start + hedgeDelay)

/-- When the leg on one side completes, and with what. -/
def RaceFields.completion (race : RaceFields) (side : RaceSide) :
    Option (Instant × RouteResult) :=
  side.completion (race.gpuLeg client cfg ctx start).finish
    (race.secondaryLeg client cfg ctx hedgeDelay start).finish

/-- **Reference specification.**  What an event stands for if the request has
these legs and takes this course. -/
inductive Records (plan : HedgedPlan) (request : Course RouterEffect RouteResult start) :
    Instant → HedgeEvent → Prop where
  /-- the answer of the only upstream is the answer to the request -/
  | direct {addr poolType time resp} (planned : plan = .direct addr poolType)
      (answered : request.finish = some (time, .ok resp)) :
      Records plan request time
        (.direct ctx.pathAndQuery addr poolType.asStr resp.status.code
          (xHeadersOf ctx.headers))
  /-- the second leg has begun -/
  | firing {race : RaceFields} {time} (path : race.path = ctx.pathAndQuery)
      (planned : plan = race.plan) (begun : (time, .secondaryStarted) ∈ request.effects) :
      Records plan request time (.firing race (ms hedgeDelay))
  /-- a leg has failed, and its upstream is tripped -/
  | lost {race : RaceFields} {side time result} (path : race.path = ctx.pathAndQuery)
      (planned : plan = race.plan)
      (tripped : (time, .trip (race.upstream side) cfg.cooldown) ∈ request.effects)
      (completed : race.completion client cfg ctx hedgeDelay start side =
        some (time, result))
      (failed : isWinner result = false) :
      Records plan request time
        (logLoserAttempt describe (race.poolName side) (race.upstream side) (time - start)
          result)
  /-- a leg has won, and its answer is the answer to the request -/
  | won {race : RaceFields} {side time result} (path : race.path = ctx.pathAndQuery)
      (planned : plan = race.plan) (answered : request.finish = some (time, result))
      (completed : race.completion client cfg ctx hedgeDelay start side =
        some (time, result))
      (winner : isWinner result = true)
      (ahead : side = .secondary → ¬ WonBy (race.gpuLeg client cfg ctx start) time) :
      Records plan request time
        (.won side race (ms (time - start))
          (loserStatusSpec (start + hedgeDelay) (race.gpuLeg client cfg ctx start).finish
            (race.secondaryLeg client cfg ctx hedgeDelay start).finish time side)
          (xHeadersOf ctx.headers))
  /-- both legs have failed, and so has the request -/
  | bothFailed {race : RaceFields} {time result} (path : race.path = ctx.pathAndQuery)
      (planned : plan = race.plan) (answered : request.finish = some (time, result))
      (failed : isWinner result = false) :
      Records plan request time (.bothFailed race)

end Specification

section Race

variable {client : Client} {cfg : RetryConfig} {ctx : ForwardCtx}
  {describe : ReqwestError → String} {hedgeDelay : Duration} {start time : Instant}
  {event : HedgeEvent}

theorem mem_lossLog {pool : String} {addr : SocketAddr}
    {leg : Option (Instant × RouteResult)} :
    (time, event) ∈ lossLog describe start pool addr leg ↔
      ∃ result, leg = some (time, result) ∧ isWinner result = false ∧
        event = logLoserAttempt describe pool addr (time - start) result := by
  constructor
  · intro member
    obtain ⟨⟨ended, result⟩, kept, same⟩ := List.mem_map.mp member
    obtain ⟨finished, failed⟩ := Option.filter_eq_some_iff.mp (Option.mem_toList.mp kept)
    obtain ⟨rfl, rfl⟩ := Prod.mk.inj same
    exact ⟨result, finished, by simpa using failed, rfl⟩
  · rintro ⟨result, rfl, failed, rfl⟩
    simp [failed]

/-- The leg on this side is polled at this instant. -/
def RaceOutcome.polls (outcome : RaceOutcome) : RaceSide → Instant → Bool
  | .primaryGpu => outcome.pollsGpu
  | .secondary => outcome.pollsSecondary

variable (client cfg ctx hedgeDelay start) in
/-- How the race with these fields goes. -/
def RaceFields.outcome (race : RaceFields) : RaceOutcome :=
  raceOutcome (race.gpuLeg client cfg ctx start)
    (hedged hedgeDelay
      (forwardWithRetry client cfg ctx race.secondaryUpstream race.secondaryPool) start)

variable (client cfg ctx hedgeDelay start) in
theorem RaceFields.ends (race : RaceFields) :
    RaceEnd start (fun time => decide (start + hedgeDelay < time))
      (race.gpuLeg client cfg ctx start).finish
      (race.secondaryLeg client cfg ctx hedgeDelay start).finish
      (race.outcome client cfg ctx hedgeDelay start) :=
  hedgedRace_ends (forwardWithRetry client cfg ctx race.primaryGpuUpstream .gpu)
    (forwardWithRetry client cfg ctx race.secondaryUpstream race.secondaryPool)
    hedgeDelay start

variable (client cfg ctx describe hedgeDelay start) in
theorem runRaceLog_eq (race : RaceFields) (path : race.path = ctx.pathAndQuery) :
    runRaceLog client cfg ctx describe hedgeDelay race.primaryGpuUpstream
        race.secondaryUpstream race.secondaryPool start =
      interleave
        ((gpuLog describe race start (race.gpuLeg client cfg ctx start).finish).filter
          fun event => (race.outcome client cfg ctx hedgeDelay start).pollsGpu event.1)
        ((secondaryLog describe race hedgeDelay start
            (race.secondaryLeg client cfg ctx hedgeDelay start).finish).filter
          fun event => (race.outcome client cfg ctx hedgeDelay start).pollsSecondary event.1) ++
      closingLog race (xHeadersOf ctx.headers)
        (race.outcome client cfg ctx hedgeDelay start) := by
  obtain ⟨_, gpuAddr, secondaryAddr, secondaryPool⟩ := race
  obtain rfl := path
  let race : RaceFields := ⟨ctx.pathAndQuery, gpuAddr, secondaryAddr, secondaryPool⟩
  let gpu := race.gpuLeg client cfg ctx start
  let secondary := race.secondaryLeg client cfg ctx hedgeDelay start
  have flag : startedBefore (hedged hedgeDelay
      (forwardWithRetry client cfg ctx secondaryAddr secondaryPool) start) =
      fun time => decide (start + hedgeDelay < time) :=
    funext fun _ => startedBefore_hedged
  have outcome : (selectWinnerLogged describe race (xHeadersOf ctx.headers) hedgeDelay start
      raceFuel (.initial start gpu.finish secondary.finish)).1 =
        race.outcome client cfg ctx hedgeDelay start := by
    rw [selectWinnerLogged_outcome, ← flag]
    rfl
  have log := selectWinnerLogged_log describe race (xHeadersOf ctx.headers)
    (fun done finished => (gpu.ended done.1 done.2 finished).1)
    (fun done finished => (secondary.ended done.1 done.2 finished).1)
  simp only [outcome] at log
  exact log

/-- The trips of the race are those of the legs that have failed in time. -/
theorem mem_trip_iff {race : RaceFields} {addr : SocketAddr} :
    (time, .trip addr cfg.cooldown) ∈
        (race.plan.run client cfg ctx hedgeDelay start).effects ↔
      (addr = race.primaryGpuUpstream ∧
          (race.outcome client cfg ctx hedgeDelay start).pollsGpu time = true ∧
          ∃ result, (race.gpuLeg client cfg ctx start).finish = some (time, result) ∧
            isWinner result = false) ∨
        (addr = race.secondaryUpstream ∧
          (race.outcome client cfg ctx hedgeDelay start).pollsSecondary time = true ∧
          ∃ result, (race.secondaryLeg client cfg ctx hedgeDelay start).finish =
              some (time, result) ∧ isWinner result = false) := by
  have asTrip : (time, .trip addr cfg.cooldown) ∈
        (race.plan.run client cfg ctx hedgeDelay start).effects ↔
      (time, addr, cfg.cooldown) ∈
        selected tripOf (race.plan.run client cfg ctx hedgeDelay start).effects := by
    rw [mem_selected]
    constructor
    · intro member
      exact ⟨_, member, rfl⟩
    · rintro ⟨effect, member, chosen⟩
      cases effect with
      | trip addr duration =>
          cases chosen
          exact member
      | forward => cases chosen
      | secondaryStarted => cases chosen
  rw [asTrip, RaceFields.plan, HedgedPlan.run, trips_runRace, mem_interleave, List.mem_filter,
    List.mem_filter, mem_tripAtFinish_iff, mem_tripAtFinish_iff]
  simp only [isWinner_eq_false_iff, true_and, and_assoc]
  exact or_congr (and_congr_right fun _ => And.comm) (and_congr_right fun _ => And.comm)

/-- A failed leg trips its upstream unless the other leg has won before. -/
theorem tripped_iff {race : RaceFields} {side : RaceSide} {result : RouteResult}
    (completed : race.completion client cfg ctx hedgeDelay start side = some (time, result))
    (failed : isWinner result = false) :
    (time, .trip (race.upstream side) cfg.cooldown) ∈
        (race.plan.run client cfg ctx hedgeDelay start).effects ↔
      (race.outcome client cfg ctx hedgeDelay start).polls side time = true := by
  have ends := race.ends client cfg ctx hedgeDelay start
  rw [mem_trip_iff]
  cases side with
  | primaryGpu =>
      constructor
      · rintro (⟨-, polled, -⟩ | ⟨-, -, other, otherFinished, otherFailed⟩)
        · exact polled
        · refine (ends.pollsGpu_iff completed failed).mpr (forall_win_of_finished otherFinished ?_)
          exact fun winner => absurd winner (Bool.eq_false_iff.mp otherFailed)
      · intro polled
        exact Or.inl ⟨rfl, polled, result, completed, failed⟩
  | secondary =>
      constructor
      · rintro (⟨-, -, other, otherFinished, otherFailed⟩ | ⟨-, polled, -⟩)
        · refine (ends.pollsSecondary_iff completed failed).mpr
            (forall_win_of_finished otherFinished ?_)
          exact fun winner => absurd winner (Bool.eq_false_iff.mp otherFailed)
        · exact polled
      · intro polled
        exact Or.inr ⟨rfl, polled, result, completed, failed⟩

theorem mem_secondaryStarted_iff {race : RaceFields} :
    (time, .secondaryStarted) ∈ (race.plan.run client cfg ctx hedgeDelay start).effects ↔
      time = start + hedgeDelay ∧
        (race.outcome client cfg ctx hedgeDelay start).pollsSecondary time = true := by
  have silent : ∀ {addr : SocketAddr} {poolType : PoolType} {begins : Instant},
      (time, .secondaryStarted) ∉
        (forwardWithRetry client cfg ctx addr poolType begins).effects := by
    intro addr poolType begins member
    rcases (mem_effects_forwardWithRetry member).2 with same | ⟨same, -⟩
    · cases same
    · cases same
  constructor
  · intro member
    rcases mem_interleave.mp member with ofGpu | ofSecondary
    · exact absurd (List.mem_of_mem_filter ofGpu) silent
    · obtain ⟨inLeg, polled⟩ := List.mem_filter.mp ofSecondary
      rw [effects_hedged] at inLeg
      rcases List.mem_cons.mp inLeg with same | ofLeg
      · exact ⟨(Prod.mk.inj same).1, polled⟩
      · exact absurd ofLeg silent
  · rintro ⟨rfl, polled⟩
    refine mem_interleave.mpr (Or.inr (List.mem_filter.mpr ⟨?_, polled⟩))
    rw [effects_hedged]
    exact List.mem_cons_self

theorem RaceFields.eq_of_plan {race other : RaceFields} (path : race.path = other.path)
    (planned : race.plan = other.plan) : race = other := by
  obtain ⟨_, gpuAddr, secondaryAddr, secondaryPool⟩ := race
  obtain ⟨_, otherGpu, otherSecondary, otherPool⟩ := other
  obtain rfl := path
  cases planned
  rfl

/-- A secondary leg that has won was ahead of the GPU leg. -/
theorem RaceEnd.ahead {gpu secondary : Option (Instant × RouteResult)}
    {secondaryStarted : Instant → Bool} {result : RouteResult} {log : WinnerLog}
    (ends : RaceEnd start secondaryStarted gpu secondary (.won time result log))
    (side : log.side = .secondary) {wonAt : Instant} {other : RouteResult}
    (finished : gpu = some (wonAt, other)) (winner : isWinner other = true) : time < wonAt := by
  cases ends with
  | gpuFirst => cases side
  | gpuLast => cases side
  | secondaryFirst ofSecondary _ first => exact first _ finished
  | secondaryLast ofSecondary _ ofGpu failed =>
      cases ofGpu.symm.trans finished
      rw [failed] at winner
      cases winner

/-- The closing event tells how the race has ended. -/
theorem records_of_mem_closingLog {race : RaceFields} (path : race.path = ctx.pathAndQuery)
    (member : (time, event) ∈ closingLog race (xHeadersOf ctx.headers)
      (race.outcome client cfg ctx hedgeDelay start)) :
    Records client cfg ctx describe hedgeDelay start race.plan
      (race.plan.run client cfg ctx hedgeDelay start) time event := by
  have ends := race.ends client cfg ctx hedgeDelay start
  have finish : (race.plan.run client cfg ctx hedgeDelay start).finish =
      (race.outcome client cfg ctx hedgeDelay start).finish := rfl
  generalize race.outcome client cfg ctx hedgeDelay start = outcome at ends finish member
  cases outcome with
  | won last result log =>
      obtain ⟨completed, winner, elapsed, status⟩ := ends.log_eq
      obtain ⟨rfl, rfl⟩ := Prod.mk.inj (List.mem_singleton.mp member)
      rw [logWinner, elapsed, status]
      refine .won path rfl finish completed winner ?_
      rintro side ⟨wonAt, other, ofGpu, otherWinner, early⟩
      exact absurd early (Nat.not_le.mpr (ends.ahead side ofGpu otherWinner))
  | bothFailed last failure =>
      obtain ⟨rfl, rfl⟩ := Prod.mk.inj (List.mem_singleton.mp member)
      cases ends with
      | bothFailed _ _ gpuFailed => exact .bothFailed path rfl finish gpuFailed
  | pending => cases member
  | panicked => cases member
  | outOfFuel => cases member

theorem mem_closingLog_of_won {race : RaceFields} {side : RaceSide} {result : RouteResult}
    {xHeaders : Option XHeaders}
    (answered : (race.outcome client cfg ctx hedgeDelay start).finish = some (time, result))
    (completed : race.completion client cfg ctx hedgeDelay start side = some (time, result))
    (winner : isWinner result = true)
    (ahead : side = .secondary → ¬ WonBy (race.gpuLeg client cfg ctx start) time) :
    (time, .won side race (ms (time - start))
        (loserStatusSpec (start + hedgeDelay) (race.gpuLeg client cfg ctx start).finish
          (race.secondaryLeg client cfg ctx hedgeDelay start).finish time side) xHeaders) ∈
      closingLog race xHeaders (race.outcome client cfg ctx hedgeDelay start) := by
  have ends := race.ends client cfg ctx hedgeDelay start
  generalize race.outcome client cfg ctx hedgeDelay start = outcome at ends answered
  cases outcome with
  | won last ownResult log =>
      obtain ⟨rfl, rfl⟩ := Prod.mk.inj (Option.some.inj answered)
      obtain ⟨ownCompleted, -, elapsed, status⟩ := ends.log_eq
      have sameSide : log.side = side := by
        cases own : log.side with
        | primaryGpu =>
            cases side with
            | primaryGpu => rfl
            | secondary =>
                rw [own] at ownCompleted
                exact absurd ⟨_, _, ownCompleted, winner, Nat.le_refl last⟩ (ahead rfl)
        | secondary =>
            cases side with
            | primaryGpu => exact absurd (ends.ahead own completed winner) (Nat.lt_irrefl last)
            | secondary => rfl
      rw [closingLog, logWinner, elapsed, status, sameSide]
      exact List.mem_singleton_self _
  | bothFailed last failure =>
      cases ends with
      | bothFailed _ _ gpuFailed =>
          obtain ⟨rfl, rfl⟩ := Prod.mk.inj (Option.some.inj answered)
          exact absurd winner (Bool.eq_false_iff.mp gpuFailed)
  | pending => cases answered
  | panicked => cases answered
  | outOfFuel => cases answered

theorem mem_closingLog_of_failed {race : RaceFields} {result : RouteResult}
    {xHeaders : Option XHeaders}
    (answered : (race.outcome client cfg ctx hedgeDelay start).finish = some (time, result))
    (failed : isWinner result = false) :
    (time, .bothFailed race) ∈
      closingLog race xHeaders (race.outcome client cfg ctx hedgeDelay start) := by
  have ends := race.ends client cfg ctx hedgeDelay start
  generalize race.outcome client cfg ctx hedgeDelay start = outcome at ends answered
  cases outcome with
  | won last ownResult log =>
      obtain ⟨rfl, rfl⟩ := Prod.mk.inj (Option.some.inj answered)
      exact absurd ends.log_eq.2.1 (Bool.eq_false_iff.mp failed)
  | bothFailed last failure =>
      obtain ⟨rfl, -⟩ := Prod.mk.inj (Option.some.inj answered)
      exact List.mem_singleton_self _
  | pending => cases answered
  | panicked => cases answered
  | outOfFuel => cases answered

/-- The log of a race has the events that the specification asks for. -/
theorem mem_runRaceLog_iff {race : RaceFields} (path : race.path = ctx.pathAndQuery) :
    (time, event) ∈ runRaceLog client cfg ctx describe hedgeDelay race.primaryGpuUpstream
        race.secondaryUpstream race.secondaryPool start ↔
      Records client cfg ctx describe hedgeDelay start race.plan
        (race.plan.run client cfg ctx hedgeDelay start) time event := by
  rw [runRaceLog_eq client cfg ctx describe hedgeDelay start race path, List.mem_append,
    mem_interleave, List.mem_filter, List.mem_filter]
  constructor
  · rintro ((⟨ofGpu, polled⟩ | ⟨ofSecondary, polled⟩) | closing)
    · obtain ⟨result, completed, failed, rfl⟩ := mem_lossLog.mp ofGpu
      have leg : race.completion client cfg ctx hedgeDelay start .primaryGpu =
          some (time, result) := completed
      exact .lost path rfl ((tripped_iff leg failed).mpr polled) leg failed
    · rcases List.mem_cons.mp ofSecondary with same | ofLeg
      · obtain ⟨rfl, rfl⟩ := Prod.mk.inj same
        exact .firing path rfl (mem_secondaryStarted_iff.mpr ⟨rfl, polled⟩)
      · obtain ⟨result, completed, failed, rfl⟩ := mem_lossLog.mp ofLeg
        have leg : race.completion client cfg ctx hedgeDelay start .secondary =
            some (time, result) := completed
        exact .lost path rfl ((tripped_iff leg failed).mpr polled) leg failed
    · exact records_of_mem_closingLog path closing
  · intro records
    cases records with
    | direct planned => cases planned
    | firing ownPath planned begun =>
        obtain rfl := RaceFields.eq_of_plan (path.trans ownPath.symm) planned
        obtain ⟨rfl, polled⟩ := mem_secondaryStarted_iff.mp begun
        exact Or.inl (Or.inr ⟨List.mem_cons_self, polled⟩)
    | @lost own side _ result ownPath planned tripped completed failed =>
        obtain rfl := RaceFields.eq_of_plan (path.trans ownPath.symm) planned
        have polled := (tripped_iff completed failed).mp tripped
        cases side with
        | primaryGpu =>
            exact Or.inl (Or.inl ⟨mem_lossLog.mpr ⟨result, completed, failed, rfl⟩, polled⟩)
        | secondary =>
            refine Or.inl (Or.inr ⟨List.mem_cons_of_mem _ ?_, polled⟩)
            exact mem_lossLog.mpr ⟨result, completed, failed, rfl⟩
    | won ownPath planned answered completed winner ahead =>
        obtain rfl := RaceFields.eq_of_plan (path.trans ownPath.symm) planned
        exact Or.inr (mem_closingLog_of_won answered completed winner ahead)
    | bothFailed ownPath planned answered failed =>
        obtain rfl := RaceFields.eq_of_plan (path.trans ownPath.symm) planned
        exact Or.inr (mem_closingLog_of_failed answered failed)

end Race

section Reading

variable {client : Client} {cfg : RetryConfig} {ctx : ForwardCtx}
  {describe : ReqwestError → String} {hedgeDelay : Duration} {start time : Instant}
  {event : HedgeEvent} {race : RaceFields}

@[simp]
theorem level_logLoserAttempt {pool : String} {addr : SocketAddr} {elapsed : Duration}
    {result : RouteResult} :
    (logLoserAttempt describe pool addr elapsed result).level = .warn := by
  cases result <;> rfl

/-- A leg fails at most once. -/
theorem lossLog_pairwise {pool : String} {addr : SocketAddr}
    {leg : Option (Instant × RouteResult)}
    {relation : Instant × HedgeEvent → Instant × HedgeEvent → Prop} :
    (lossLog describe start pool addr leg).Pairwise relation := by
  rw [lossLog]
  cases leg.filter fun done => !isWinner done.2 with
  | none => exact List.Pairwise.nil
  | some done => exact List.pairwise_singleton _ _

theorem closingLog_pairwise {xHeaders : Option XHeaders} {outcome : RaceOutcome}
    {relation : Instant × HedgeEvent → Instant × HedgeEvent → Prop} :
    (closingLog race xHeaders outcome).Pairwise relation := by
  cases outcome with
  | won => exact List.pairwise_singleton _ _
  | bothFailed => exact List.pairwise_singleton _ _
  | pending => exact List.Pairwise.nil
  | panicked => exact List.Pairwise.nil
  | outOfFuel => exact List.Pairwise.nil

theorem secondaryLog_ordered :
    (secondaryLog describe race hedgeDelay start
      (race.secondaryLeg client cfg ctx hedgeDelay start).finish).Pairwise NotLater := by
  refine List.pairwise_cons.mpr ⟨?_, lossLog_pairwise⟩
  rintro ⟨other, event⟩ member
  obtain ⟨result, finished, -⟩ := mem_lossLog.mp member
  exact ((race.secondaryLeg client cfg ctx hedgeDelay start).ended _ _ finished).1

/-- The closing event comes when the race returns. -/
theorem finish_of_mem_closingLog {xHeaders : Option XHeaders} {outcome : RaceOutcome}
    (member : (time, event) ∈ closingLog race xHeaders outcome) :
    ∃ result, outcome.finish = some (time, result) := by
  cases outcome with
  | won last result log =>
      obtain ⟨rfl, -⟩ := Prod.mk.inj (List.mem_singleton.mp member)
      exact ⟨_, rfl⟩
  | bothFailed last failure =>
      obtain ⟨rfl, -⟩ := Prod.mk.inj (List.mem_singleton.mp member)
      exact ⟨_, rfl⟩
  | pending => cases member
  | panicked => cases member
  | outOfFuel => cases member

def lossMessages (pool : String) : List String :=
  [pool ++ " upstream returned 5xx in race", pool ++ " upstream errored in race"]

/-- The messages about the race as a whole. -/
def raceMessages : List String :=
  ["hedge: firing secondary race", "hedge: primary_gpu won", "hedge: secondary won",
    "hedge: both failed"]

theorem message_mem_lossMessages {pool : String} {addr : SocketAddr}
    {leg : Option (Instant × RouteResult)} {event : Instant × HedgeEvent}
    (member : event ∈ lossLog describe start pool addr leg) :
    event.2.message ∈ lossMessages pool := by
  obtain ⟨result, -, -, same⟩ := mem_lossLog.mp member
  rw [same]
  cases result with
  | ok => exact List.mem_cons_self
  | error => exact List.mem_cons_of_mem _ List.mem_cons_self

theorem message_mem_closing {xHeaders : Option XHeaders} {outcome : RaceOutcome}
    {event : Instant × HedgeEvent} (member : event ∈ closingLog race xHeaders outcome) :
    event.2.message ∈ raceMessages.tail := by
  cases outcome with
  | won time result log =>
      obtain rfl := List.mem_singleton.mp member
      obtain ⟨side, elapsed, loserStatus⟩ := log
      cases side with
      | primaryGpu => exact List.mem_cons_self
      | secondary => exact List.mem_cons_of_mem _ List.mem_cons_self
  | bothFailed time failure =>
      obtain rfl := List.mem_singleton.mp member
      exact List.mem_cons_of_mem _ (List.mem_cons_of_mem _ List.mem_cons_self)
  | pending => cases member
  | panicked => cases member
  | outOfFuel => cases member

theorem messages_disjoint (poolType : PoolType) :
    (∀ first ∈ lossMessages "GPU", first ∉ lossMessages poolType.asStr) ∧
      (∀ first ∈ lossMessages "GPU", first ∉ raceMessages) ∧
      ∀ first ∈ lossMessages poolType.asStr, first ∉ raceMessages := by
  cases poolType <;> decide

variable (client cfg ctx describe hedgeDelay start race) in
/-- No message comes twice. -/
theorem runRaceLog_distinguished (path : race.path = ctx.pathAndQuery) :
    (runRaceLog client cfg ctx describe hedgeDelay race.primaryGpuUpstream
        race.secondaryUpstream race.secondaryPool start).Pairwise
      fun first second => first.2.message ≠ second.2.message := by
  obtain ⟨apart, gpuApart, secondaryApart⟩ := messages_disjoint race.secondaryPool
  have fromSecondary : ∀ event ∈ secondaryLog describe race hedgeDelay start
      (race.secondaryLeg client cfg ctx hedgeDelay start).finish,
      event.2.message = "hedge: firing secondary race" ∨
        event.2.message ∈ lossMessages race.secondaryPool.asStr := by
    intro event member
    rcases List.mem_cons.mp member with rfl | ofLeg
    · exact Or.inl rfl
    · exact Or.inr (message_mem_lossMessages ofLeg)
  rw [runRaceLog_eq client cfg ctx describe hedgeDelay start race path]
  refine List.pairwise_append.mpr ⟨?_, closingLog_pairwise, ?_⟩
  · refine (interleave_perm _ _).symm.pairwise ?_ fun different => different.symm
    refine List.pairwise_append.mpr
      ⟨lossLog_pairwise.filter _, List.Pairwise.filter _ ?_, ?_⟩
    · refine List.pairwise_cons.mpr ⟨?_, lossLog_pairwise⟩
      intro event ofLeg same
      have member := message_mem_lossMessages ofLeg
      rw [← same] at member
      exact secondaryApart _ member List.mem_cons_self
    · intro first ofGpu second ofSecondary same
      have member := message_mem_lossMessages (List.mem_of_mem_filter ofGpu)
      rw [same] at member
      rcases fromSecondary second (List.mem_of_mem_filter ofSecondary) with firing | ofLeg
      · rw [firing] at member
        exact gpuApart _ member List.mem_cons_self
      · exact apart _ member ofLeg
  · intro first before second closing same
    have last := message_mem_closing closing
    rw [← same] at last
    rcases mem_interleave.mp before with ofGpu | ofSecondary
    · have member := message_mem_lossMessages (List.mem_of_mem_filter ofGpu)
      exact gpuApart _ member (List.mem_of_mem_tail last)
    · rcases fromSecondary first (List.mem_of_mem_filter ofSecondary) with firing | ofLeg
      · rw [firing] at last
        revert last
        decide
      · exact secondaryApart _ ofLeg (List.mem_of_mem_tail last)

/-- Nothing is logged of a leg after the race has returned. -/
theorem le_of_mem_legs {last : Instant} {result : RouteResult}
    (finished : (race.outcome client cfg ctx hedgeDelay start).finish = some (last, result))
    (member : (time, event) ∈ interleave
      ((gpuLog describe race start (race.gpuLeg client cfg ctx start).finish).filter
        fun event => (race.outcome client cfg ctx hedgeDelay start).pollsGpu event.1)
      ((secondaryLog describe race hedgeDelay start
          (race.secondaryLeg client cfg ctx hedgeDelay start).finish).filter
        fun event => (race.outcome client cfg ctx hedgeDelay start).pollsSecondary event.1)) :
    time ≤ last := by
  rcases mem_interleave.mp member with ofGpu | ofSecondary
  · exact RaceOutcome.le_of_pollsGpu finished (List.mem_filter.mp ofGpu).2
  · exact RaceOutcome.le_of_pollsSecondary finished (List.mem_filter.mp ofSecondary).2

variable (client cfg ctx describe hedgeDelay start race) in
theorem runRaceLog_ordered (path : race.path = ctx.pathAndQuery) :
    (runRaceLog client cfg ctx describe hedgeDelay race.primaryGpuUpstream
      race.secondaryUpstream race.secondaryPool start).Pairwise NotLater := by
  rw [runRaceLog_eq client cfg ctx describe hedgeDelay start race path]
  refine List.pairwise_append.mpr
    ⟨interleave_ordered (secondaryLog_ordered.filter _), closingLog_pairwise, ?_⟩
  intro first before second closing
  obtain ⟨result, finished⟩ := finish_of_mem_closingLog closing
  exact le_of_mem_legs finished before

theorem le_of_mem_runRaceLog (path : race.path = ctx.pathAndQuery) {last : Instant}
    {result : RouteResult}
    (finished : (race.outcome client cfg ctx hedgeDelay start).finish = some (last, result))
    (member : (time, event) ∈ runRaceLog client cfg ctx describe hedgeDelay
      race.primaryGpuUpstream race.secondaryUpstream race.secondaryPool start) :
    time ≤ last := by
  rw [runRaceLog_eq client cfg ctx describe hedgeDelay start race path] at member
  rcases List.mem_append.mp member with before | closing
  · exact le_of_mem_legs finished before
  · obtain ⟨other, ends⟩ := finish_of_mem_closingLog closing
    rw [finished] at ends
    exact Nat.le_of_eq (Prod.mk.inj (Option.some.inj ends)).1.symm

/-- A failed leg on one side, while it was still polled. -/
def LostIn (outcome : RaceOutcome) (gpu secondary : Option (Instant × RouteResult)) : Prop :=
  ∃ side lost failure, side.completion gpu secondary = some (lost, failure) ∧
    isWinner failure = false ∧ outcome.polls side lost = true

/-- What is reported of the leg that has not won is what has happened to it. -/
theorem RaceEnd.loserStatus_iff {fires : Instant} {gpu secondary : Option (Instant × RouteResult)}
    {result : RouteResult} {log : WinnerLog}
    (ends : RaceEnd start (fun time => decide (fires < time)) gpu secondary
      (.won time result log))
    (later : ∀ done, secondary = some done → fires ≤ done.1) :
    (log.loserStatus = .notStarted ↔
        (RaceOutcome.won time result log).pollsSecondary fires = false) ∧
      (log.loserStatus = .errored ↔ LostIn (.won time result log) gpu secondary) := by
  cases ends with
  | gpuFirst finished winner first =>
      constructor
      · by_cases fired : fires < time <;> simp [RaceOutcome.pollsSecondary, fired]
      · have notErrored : (if decide (fires < time) = true then LoserStatus.cancelled
            else .notStarted) ≠ .errored := by
          split_ifs <;> simp
        refine iff_of_false notErrored ?_
        rintro ⟨side, lost, failure, completed, failed, polled⟩
        cases side with
        | primaryGpu =>
            cases finished.symm.trans completed
            exact Bool.eq_false_iff.mp failed winner
        | secondary =>
            exact absurd (of_decide_eq_true polled) (Nat.not_lt.mpr (first _ completed))
  | gpuLast finished winner otherFinished failed order =>
      have fired : fires < time := Nat.lt_of_le_of_lt (later _ otherFinished) order
      constructor
      · simp [RaceOutcome.pollsSecondary, fired]
      · exact iff_of_true rfl ⟨.secondary, _, _, otherFinished, failed, decide_eq_true order⟩
  | secondaryFirst finished winner first =>
      constructor
      · simp [RaceOutcome.pollsSecondary, later _ finished]
      · refine iff_of_false (by simp) ?_
        rintro ⟨side, lost, failure, completed, failed, polled⟩
        cases side with
        | primaryGpu =>
            exact absurd (of_decide_eq_true polled) (Nat.not_le.mpr (first _ completed))
        | secondary =>
            cases finished.symm.trans completed
            exact Bool.eq_false_iff.mp failed winner
  | secondaryLast finished winner otherFinished failed order =>
      constructor
      · simp [RaceOutcome.pollsSecondary, later _ finished]
      · exact iff_of_true rfl ⟨.primaryGpu, _, _, otherFinished, failed, decide_eq_true order⟩

/-- The event of a winner is the closing one. -/
theorem won_of_mem {pool : RaceSide} {other : RaceFields} {latencyMs : Nat}
    {loserStatus : LoserStatus} {xHeaders : Option XHeaders}
    (path : race.path = ctx.pathAndQuery)
    (member : (time, .won pool other latencyMs loserStatus xHeaders) ∈
      runRaceLog client cfg ctx describe hedgeDelay race.primaryGpuUpstream
        race.secondaryUpstream race.secondaryPool start) :
    ∃ result log, race.outcome client cfg ctx hedgeDelay start = .won time result log ∧
      log.loserStatus = loserStatus := by
  have noLoss : ∀ {name : String} {addr : SocketAddr} {leg : Option (Instant × RouteResult)},
      (time, .won pool other latencyMs loserStatus xHeaders) ∉
        lossLog describe start name addr leg := by
    intro name addr leg ofLeg
    obtain ⟨result, -, -, same⟩ := mem_lossLog.mp ofLeg
    have level := congrArg HedgeEvent.level same
    rw [level_logLoserAttempt] at level
    cases level
  rw [runRaceLog_eq client cfg ctx describe hedgeDelay start race path] at member
  rcases List.mem_append.mp member with before | closing
  · rcases mem_interleave.mp before with ofGpu | ofSecondary
    · exact absurd (List.mem_of_mem_filter ofGpu) noLoss
    · rcases List.mem_cons.mp (List.mem_of_mem_filter ofSecondary) with same | ofLeg
      · cases same
      · exact absurd ofLeg noLoss
  · cases ended : race.outcome client cfg ctx hedgeDelay start with
    | won last result log =>
        rw [ended] at closing
        cases List.mem_singleton.mp closing
        exact ⟨result, log, rfl, rfl⟩
    | bothFailed =>
        rw [ended] at closing
        cases List.mem_singleton.mp closing
    | pending =>
        rw [ended] at closing
        cases closing
    | panicked =>
        rw [ended] at closing
        cases closing
    | outOfFuel =>
        rw [ended] at closing
        cases closing

/-- The second leg's start is logged if it comes to that. -/
theorem fired_iff (path : race.path = ctx.pathAndQuery) :
    (∃ begun other delayMs, (begun, .firing other delayMs) ∈
        runRaceLog client cfg ctx describe hedgeDelay race.primaryGpuUpstream
          race.secondaryUpstream race.secondaryPool start) ↔
      (race.outcome client cfg ctx hedgeDelay start).pollsSecondary (start + hedgeDelay) =
        true := by
  constructor
  · rintro ⟨begun, other, delayMs, member⟩
    have records := (mem_runRaceLog_iff path).mp member
    generalize logged : HedgeEvent.firing other delayMs = event at records
    cases records with
    | direct planned => cases planned
    | firing ownPath planned fires =>
        obtain rfl := RaceFields.eq_of_plan (path.trans ownPath.symm) planned
        obtain ⟨rfl, polled⟩ := mem_secondaryStarted_iff.mp fires
        exact polled
    | @lost own side _ result =>
        have level := congrArg HedgeEvent.level logged
        rw [level_logLoserAttempt] at level
        cases level
    | won => cases logged
    | bothFailed => cases logged
  · intro polled
    refine ⟨start + hedgeDelay, race, ms hedgeDelay, (mem_runRaceLog_iff path).mpr ?_⟩
    exact .firing path rfl (mem_secondaryStarted_iff.mpr ⟨rfl, polled⟩)

/-- Warnings are about failed legs unless the race has failed as a whole. -/
theorem warned_iff (path : race.path = ctx.pathAndQuery) {result : RouteResult}
    (answered : (race.outcome client cfg ctx hedgeDelay start).finish = some (time, result))
    (winner : isWinner result = true) :
    (∃ event ∈ runRaceLog client cfg ctx describe hedgeDelay race.primaryGpuUpstream
        race.secondaryUpstream race.secondaryPool start, event.2.level = .warn) ↔
      LostIn (race.outcome client cfg ctx hedgeDelay start)
        (race.gpuLeg client cfg ctx start).finish
        (race.secondaryLeg client cfg ctx hedgeDelay start).finish := by
  constructor
  · rintro ⟨⟨logged, event⟩, member, level⟩
    have records := (mem_runRaceLog_iff path).mp member
    cases records with
    | direct planned => cases planned
    | firing => cases level
    | @lost own side _ failure ownPath planned tripped completed failed =>
        obtain rfl := RaceFields.eq_of_plan (path.trans ownPath.symm) planned
        exact ⟨side, logged, failure, completed, failed,
          (tripped_iff completed failed).mp tripped⟩
    | won => cases level
    | bothFailed ownPath planned ownAnswered failed =>
        obtain rfl := RaceFields.eq_of_plan (path.trans ownPath.symm) planned
        cases answered.symm.trans ownAnswered
        rw [winner] at failed
        cases failed
  · rintro ⟨side, lost, failure, completed, failed, polled⟩
    refine ⟨(lost, logLoserAttempt describe (race.poolName side) (race.upstream side)
      (lost - start) failure), (mem_runRaceLog_iff path).mpr ?_, level_logLoserAttempt⟩
    exact .lost path rfl ((tripped_iff completed failed).mpr polled) completed failed

end Reading

/-- What a log owes to its reader. -/
structure TellsRequest (log : HedgeLog) (records : Instant → HedgeEvent → Prop)
    (finish : Option (Instant × RouteResult)) : Prop where
  /-- what happens is logged, and nothing else is -/
  events : ∀ time event, (time, event) ∈ log ↔ records time event
  ordered : log.Pairwise NotLater
  /-- no message comes twice -/
  distinguished : log.Pairwise fun first second => first.2.message ≠ second.2.message
  /-- nothing is logged after the answer -/
  inTime : ∀ last result, finish = some (last, result) → ∀ event ∈ log, event.1 ≤ last
  /-- what a winner's event tells of the other leg agrees with the other events -/
  notStarted : ∀ time pool race latencyMs loserStatus xHeaders,
    (time, .won pool race latencyMs loserStatus xHeaders) ∈ log →
      (loserStatus = .notStarted ↔ ¬ ∃ begun other delayMs, (begun, .firing other delayMs) ∈ log)
  errored : ∀ time pool race latencyMs loserStatus xHeaders,
    (time, .won pool race latencyMs loserStatus xHeaders) ∈ log →
      (loserStatus = .errored ↔ ∃ event ∈ log, event.2.level = .warn)

section Plans

variable (client : Client) (cfg : RetryConfig) (ctx : ForwardCtx)
  (describe : ReqwestError → String) (hedgeDelay : Duration) (start : Instant)

/-- The log of a request with these legs. -/
def HedgedPlan.log : HedgedPlan → HedgeLog
  | nothing => []
  | direct addr poolType => directLog client cfg ctx addr poolType poolType.asStr start
  | race gpuAddr secondaryAddr secondaryPool =>
      runRaceLog client cfg ctx describe hedgeDelay gpuAddr secondaryAddr secondaryPool start

theorem hedgedRaceLog_apply (reads : PoolReads) :
    hedgedRaceLog client cfg ctx describe reads hedgeDelay start =
      (hedgedPlan (reads 0 []) start).log client cfg ctx describe hedgeDelay start := by
  rw [hedgedRaceLog, hedgedPlan]
  cases pickGpu (reads 0 []) start with
  | none => cases secondaryCandidate (reads 0 []) start <;> rfl
  | some gpu => cases secondaryCandidate (reads 0 []) start <;> rfl

variable {client cfg ctx describe hedgeDelay start}

theorem records_direct_iff {addr : SocketAddr} {poolType : PoolType}
    {request : Course RouterEffect RouteResult start} {time : Instant} {event : HedgeEvent} :
    Records client cfg ctx describe hedgeDelay start (.direct addr poolType) request time
        event ↔
      ∃ resp, request.finish = some (time, .ok resp) ∧
        event = logDirect ctx.pathAndQuery addr poolType.asStr resp.status
          (xHeadersOf ctx.headers) := by
  constructor
  · intro records
    cases records with
    | direct planned answered =>
        cases planned
        exact ⟨_, answered, rfl⟩
    | firing path planned => cases planned
    | lost path planned => cases planned
    | won path planned => cases planned
    | bothFailed path planned => cases planned
  · rintro ⟨resp, answered, rfl⟩
    exact .direct rfl answered

theorem tellsRequest_nil {records : Instant → HedgeEvent → Prop}
    {finish : Option (Instant × RouteResult)}
    (unrecorded : ∀ time event, ¬ records time event) : TellsRequest [] records finish where
  events time event := iff_of_false List.not_mem_nil (unrecorded time event)
  ordered := List.Pairwise.nil
  distinguished := List.Pairwise.nil
  inTime _ _ _ _ member := absurd member List.not_mem_nil
  notStarted _ _ _ _ _ _ member := absurd member List.not_mem_nil
  errored _ _ _ _ _ _ member := absurd member List.not_mem_nil

variable (client cfg ctx describe hedgeDelay start) in
theorem tellsRequest_direct (addr : SocketAddr) (poolType : PoolType) :
    TellsRequest (directLog client cfg ctx addr poolType poolType.asStr start)
      (Records client cfg ctx describe hedgeDelay start (.direct addr poolType)
        (forwardWithRetry client cfg ctx addr poolType start))
      (forwardWithRetry client cfg ctx addr poolType start).finish := by
  rw [directLog]
  cases finished : (forwardWithRetry client cfg ctx addr poolType start).finish with
  | none =>
      apply tellsRequest_nil
      intro time event records
      obtain ⟨resp, answered, -⟩ := records_direct_iff.mp records
      cases finished.symm.trans answered
  | some done =>
      obtain ⟨last, error | resp⟩ := done
      · apply tellsRequest_nil
        intro time event records
        obtain ⟨resp, answered, -⟩ := records_direct_iff.mp records
        cases finished.symm.trans answered
      · refine
          { events := ?_
            ordered := List.pairwise_singleton _ _
            distinguished := List.pairwise_singleton _ _
            inTime := ?_
            notStarted := ?_
            errored := ?_ }
        · intro time event
          rw [records_direct_iff, List.mem_singleton]
          constructor
          · intro same
            obtain ⟨rfl, rfl⟩ := Prod.mk.inj same
            exact ⟨resp, finished, rfl⟩
          · rintro ⟨other, answered, rfl⟩
            cases finished.symm.trans answered
            rfl
        · rintro time result ⟨⟩ event member
          rw [List.mem_singleton.mp member]
        · intro time pool race latencyMs loserStatus xHeaders member
          cases List.mem_singleton.mp member
        · intro time pool race latencyMs loserStatus xHeaders member
          cases List.mem_singleton.mp member

variable (client cfg describe hedgeDelay start) in
theorem tellsRequest_race (race : RaceFields) (path : race.path = ctx.pathAndQuery) :
    TellsRequest
      (runRaceLog client cfg ctx describe hedgeDelay race.primaryGpuUpstream
        race.secondaryUpstream race.secondaryPool start)
      (Records client cfg ctx describe hedgeDelay start race.plan
        (race.plan.run client cfg ctx hedgeDelay start))
      (race.plan.run client cfg ctx hedgeDelay start).finish := by
  have ends := race.ends client cfg ctx hedgeDelay start
  have later : ∀ done, (race.secondaryLeg client cfg ctx hedgeDelay start).finish = some done →
      start + hedgeDelay ≤ done.1 :=
    fun done finished => ((race.secondaryLeg client cfg ctx hedgeDelay start).ended _ _ finished).1
  exact
    { events := fun time event => mem_runRaceLog_iff path
      ordered := runRaceLog_ordered client cfg ctx describe hedgeDelay start race path
      distinguished := runRaceLog_distinguished client cfg ctx describe hedgeDelay start race path
      inTime := fun last result finished event member =>
        le_of_mem_runRaceLog path finished member
      notStarted := by
        intro time pool other latencyMs loserStatus xHeaders member
        obtain ⟨result, log, won, rfl⟩ := won_of_mem path member
        rw [fired_iff path, won]
        rw [won] at ends
        rw [(ends.loserStatus_iff later).1, Bool.not_eq_true]
      errored := by
        intro time pool other latencyMs loserStatus xHeaders member
        obtain ⟨result, log, won, rfl⟩ := won_of_mem path member
        have answered : (race.outcome client cfg ctx hedgeDelay start).finish =
            some (time, result) := by
          rw [won]
          rfl
        rw [won] at ends
        rw [warned_iff path answered ends.log_eq.2.1, won]
        exact (ends.loserStatus_iff later).2 }

end Plans

/-- **The log of a hedged request tells its course**, whatever its upstreams do. -/
theorem hedgedRaceLog_tells (client : Client) (cfg : RetryConfig) (ctx : ForwardCtx)
    (describe : ReqwestError → String) (reads : PoolReads) (hedgeDelay : Duration)
    (start : Instant) :
    TellsRequest (hedgedRaceLog client cfg ctx describe reads hedgeDelay start)
      (Records client cfg ctx describe hedgeDelay start (hedgedPlan (reads 0 []) start)
        (hedgedRace client cfg ctx reads hedgeDelay start))
      (hedgedRace client cfg ctx reads hedgeDelay start).finish := by
  rw [hedgedRaceLog_apply, hedgedRace_apply]
  cases hedgedPlan (reads 0 []) start with
  | nothing =>
      apply tellsRequest_nil
      intro time event records
      cases records with
      | direct planned => cases planned
      | firing path planned => cases planned
      | lost path planned => cases planned
      | won path planned => cases planned
      | bothFailed path planned => cases planned
  | direct addr poolType =>
      exact tellsRequest_direct client cfg ctx describe hedgeDelay start addr poolType
  | race gpuAddr secondaryAddr secondaryPool =>
      exact tellsRequest_race client cfg describe hedgeDelay start
        ⟨ctx.pathAndQuery, gpuAddr, secondaryAddr, secondaryPool⟩ rfl

end BgeRouter
