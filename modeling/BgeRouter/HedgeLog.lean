import BgeRouter.FrontEnd
import BgeRouter.HedgedPoolEffect
import BgeRouter.RequestIds

/-!
# The log of a hedged request

The dispatcher of hedged requests logs the start of the secondary leg, every
failed leg of a race and how the race has ended; without a race it logs the
answer.  `selectWinnerLogged` is the loop of the race with the events that come
about while it runs, and its log is shown to be what the two legs log as long as
they are polled, and then the closing event.
-/

namespace BgeRouter

/-- Milliseconds in a log field. -/
def ms (duration : Duration) : Nat :=
  let millis := duration / 1000000
  if millis ≤ u64Max then millis else u64Max

inductive LogLevel where
  | info
  | warn
deriving DecidableEq

/-- The fields that all events about a race have. -/
structure RaceFields where
  path : String
  primaryGpuUpstream : SocketAddr
  secondaryUpstream : SocketAddr
  secondaryPool : PoolType
deriving DecidableEq

/-- The events with the target `bge_router::router::hedge`. -/
inductive HedgeEvent where
  | firing (race : RaceFields) (hedgeDelayMs : Nat)
  | won (pool : RaceSide) (race : RaceFields) (winnerLatencyMs : Nat)
      (loserStatus : LoserStatus) (xHeaders : Option XHeaders)
  | returned5xx (pool : String) (upstream : SocketAddr) (status elapsedMs : Nat)
  | errored (pool : String) (upstream : SocketAddr) (err : String) (elapsedMs : Nat)
  | bothFailed (race : RaceFields)
  | direct (path : String) (upstream : SocketAddr) (pool : String) (status : Nat)
      (xHeaders : Option XHeaders)

namespace HedgeEvent

def level : HedgeEvent → LogLevel
  | firing .. | won .. | direct .. => .info
  | returned5xx .. | errored .. | bothFailed .. => .warn

def message : HedgeEvent → String
  | firing .. => "hedge: firing secondary race"
  | won pool .. => "hedge: " ++ pool.asStr ++ " won"
  | returned5xx pool .. => pool ++ " upstream returned 5xx in race"
  | errored pool .. => pool ++ " upstream errored in race"
  | bothFailed .. => "hedge: both failed"
  | direct _ _ pool .. => "direct: " ++ pool ++ " response"

end HedgeEvent

def logWinner (pool : RaceSide) (race : RaceFields) (elapsed : Duration)
    (loserStatus : LoserStatus) (xHeaders : Option XHeaders) : HedgeEvent :=
  .won pool race (ms elapsed) loserStatus xHeaders

def logDirect (path : String) (addr : SocketAddr) (pool : String) (status : StatusCode)
    (xHeaders : Option XHeaders) : HedgeEvent :=
  .direct path addr pool status.code xHeaders

/-- `describe` is the `Display` of `reqwest::Error`. -/
def logLoserAttempt (describe : ReqwestError → String) (pool : String) (addr : SocketAddr)
    (elapsed : Duration) : RouteResult → HedgeEvent
  | .ok resp => .returned5xx pool addr resp.status.code (ms elapsed)
  | .error error => .errored pool addr (error.display describe) (ms elapsed)

/-- Events with the instants at which they are logged. -/
abbrev HedgeLog := List (Instant × HedgeEvent)

section Loop

variable (describe : ReqwestError → String) (race : RaceFields) (xHeaders : Option XHeaders)
  (hedgeDelay : Duration) (start : Instant)

/-- What the secondary leg logs if it is polled from `now` on at the instants
that `polled` holds of. -/
def firingLog (now : Instant) (polled : Instant → Bool) : HedgeLog :=
  if now ≤ start + hedgeDelay && polled (start + hedgeDelay) then
    [(start + hedgeDelay, .firing race (ms hedgeDelay))]
  else []

/-- The loop of `select_winner` with its outcome and its log. -/
def selectWinnerLogged : (fuel : Nat) → RaceState → RaceOutcome × HedgeLog
  | 0, _ => (.outOfFuel, [])
  | fuel + 1, state =>
      if state.gpuDone && state.secondaryDone then
        (.bothFailed state.now (state.gpuFailure.or state.secondaryFailure),
          [(state.now, .bothFailed race)])
      else
        match biasedSelect state.now state.gpuFut (!state.gpuDone) state.secondaryFut
            (!state.secondaryDone) with
        | .first time result =>
            -- the GPU leg is polled first, so that the other one waits in this poll
            let fired := firingLog race hedgeDelay start state.now fun poll =>
              !state.secondaryDone && decide (poll < time)
            if isWinner result then
              let loserStatus :=
                if state.secondaryDone then .errored
                else if start + hedgeDelay < time then .cancelled
                else .notStarted
              (.won time result
                { side := .primaryGpu, elapsed := time - start, loserStatus := loserStatus },
                fired ++
                  [(time, logWinner .primaryGpu race (time - start) loserStatus xHeaders)])
            else
              let rest := selectWinnerLogged fuel { state with
                now := time
                gpuFut := { state.gpuFut with taken := true }
                gpuDone := true
                gpuFailure := some result }
              (rest.1, fired ++
                (time, logLoserAttempt describe "GPU" race.primaryGpuUpstream (time - start)
                  result) :: rest.2)
        | .second time result =>
            let fired := firingLog race hedgeDelay start state.now fun poll =>
              decide (poll ≤ time)
            if isWinner result then
              let loserStatus := if state.gpuDone then .errored else .cancelled
              (.won time result
                { side := .secondary, elapsed := time - start, loserStatus := loserStatus },
                fired ++
                  [(time, logWinner .secondary race (time - start) loserStatus xHeaders)])
            else
              let rest := selectWinnerLogged fuel { state with
                now := time
                secondaryFut := { state.secondaryFut with taken := true }
                secondaryDone := true
                secondaryFailure := some result }
              (rest.1, fired ++
                (time, logLoserAttempt describe race.secondaryPool.asStr
                  race.secondaryUpstream (time - start) result) :: rest.2)
        | .pending =>
            (.pending,
              firingLog race hedgeDelay start state.now fun _ => !state.secondaryDone)
        | .polledAfterCompletion => (.panicked, [])
        | .allDisabled => (.panicked, [])

/-- What is logged of a leg that completes without winning. -/
def lossLog (pool : String) (addr : SocketAddr) (leg : Option (Instant × RouteResult)) :
    HedgeLog :=
  (leg.filter fun done => !isWinner done.2).toList.map fun done =>
    (done.1, logLoserAttempt describe pool addr (done.1 - start) done.2)

def gpuLog (gpu : Option (Instant × RouteResult)) : HedgeLog :=
  lossLog describe start "GPU" race.primaryGpuUpstream gpu

def secondaryLog (secondary : Option (Instant × RouteResult)) : HedgeLog :=
  (start + hedgeDelay, .firing race (ms hedgeDelay)) ::
    lossLog describe start race.secondaryPool.asStr race.secondaryUpstream secondary

/-- The event that closes a race. -/
def closingLog : RaceOutcome → HedgeLog
  | .won time _ log =>
      [(time, logWinner log.side race log.elapsed log.loserStatus xHeaders)]
  | .bothFailed time _ => [(time, .bothFailed race)]
  | _ => []

end Loop

section Events

variable {describe : ReqwestError → String} {race : RaceFields} {xHeaders : Option XHeaders}
  {hedgeDelay : Duration} {start : Instant} {gpu secondary : Option (Instant × RouteResult)}

/-- The logged loop is the loop of the race. -/
theorem selectWinnerLogged_outcome (fuel : Nat) (state : RaceState) :
    (selectWinnerLogged describe race xHeaders hedgeDelay start fuel state).1 =
      selectWinner start (fun time => decide (start + hedgeDelay < time)) fuel state := by
  induction fuel generalizing state with
  | zero => rfl
  | succ fuel ih =>
      rw [selectWinnerLogged, selectWinner]
      by_cases done : (state.gpuDone && state.secondaryDone) = true
      · rw [if_pos done, if_pos done]
      · rw [if_neg done, if_neg done]
        cases biasedSelect state.now state.gpuFut (!state.gpuDone) state.secondaryFut
            (!state.secondaryDone) with
        | first time result =>
            by_cases winner : isWinner result = true
            · simp only [if_pos winner, decide_eq_true_eq]
            · simp only [if_neg winner, ih]
        | second time result =>
            by_cases winner : isWinner result = true
            · simp only [if_pos winner]
            · simp only [if_neg winner, ih]
        | pending => rfl
        | polledAfterCompletion => rfl
        | allDisabled => rfl

/-- The log of the rounds after the GPU leg has failed. -/
theorem selectWinnerLogged_after_gpu {now : Instant} (failure : RouteResult) (fuel : Nat)
    (gpuFut : SelectLeg RouteResult)
    (later : ∀ done, secondary = some done → now ≤ done.1)
    (fired : ∀ done, secondary = some done → start + hedgeDelay ≤ done.1) :
    (selectWinnerLogged describe race xHeaders hedgeDelay start (fuel + 2)
        { now := now
          gpuFut := gpuFut
          secondaryFut := .fresh secondary
          gpuDone := true
          secondaryDone := false
          gpuFailure := some failure
          secondaryFailure := none }).2 =
      firingLog race hedgeDelay start now (fun _ => true) ++
        (lossLog describe start race.secondaryPool.asStr race.secondaryUpstream secondary ++
          secondary.elim [] fun done =>
            if isWinner done.2 then
              [(done.1, logWinner .secondary race (done.1 - start) .errored xHeaders)]
            else [(done.1, .bothFailed race)]) := by
  have round := biasedSelect_second_only gpuFut later
  rw [selectWinnerLogged]
  simp only [Bool.not_true, Bool.not_false, Bool.and_false, Bool.false_eq_true, if_false,
    round]
  cases secondary with
  | none => simp [SelectResult.earlier, lossLog]
  | some done =>
      have inTime := fired done rfl
      by_cases winner : isWinner done.2 = true
      · simp [SelectResult.earlier, lossLog, Option.filter, winner, firingLog, inTime]
      · simp [SelectResult.earlier, lossLog, Option.filter, winner, firingLog, inTime,
          selectWinnerLogged]

/-- The log of the rounds after the secondary leg has failed. -/
theorem selectWinnerLogged_after_secondary {now : Instant} (failure : RouteResult)
    (fuel : Nat) (secondaryFut : SelectLeg RouteResult)
    (later : ∀ done, gpu = some done → now ≤ done.1) :
    (selectWinnerLogged describe race xHeaders hedgeDelay start (fuel + 2)
        { now := now
          gpuFut := .fresh gpu
          secondaryFut := secondaryFut
          gpuDone := false
          secondaryDone := true
          gpuFailure := none
          secondaryFailure := some failure }).2 =
      lossLog describe start "GPU" race.primaryGpuUpstream gpu ++
        gpu.elim [] fun done =>
          if isWinner done.2 then
            [(done.1, logWinner .primaryGpu race (done.1 - start) .errored xHeaders)]
          else [(done.1, .bothFailed race)] := by
  have round := biasedSelect_first_only secondaryFut later
  rw [selectWinnerLogged]
  simp only [Bool.not_true, Bool.not_false, Bool.false_and, Bool.false_eq_true, if_false,
    round]
  cases gpu with
  | none => simp [SelectResult.earlier, lossLog, firingLog]
  | some done =>
      by_cases winner : isWinner done.2 = true
      · simp [SelectResult.earlier, lossLog, Option.filter, winner, firingLog]
      · simp [SelectResult.earlier, lossLog, Option.filter, winner, firingLog,
          selectWinnerLogged]

/-- The log of a race in which the GPU leg completes first. -/
theorem selectWinnerLogged_gpu_first {time : Instant} {result : RouteResult}
    (later : start ≤ time) (first : ∀ done, secondary = some done → time ≤ done.1) :
    (selectWinnerLogged describe race xHeaders hedgeDelay start raceFuel
        (.initial start (some (time, result)) secondary)).2 =
      firingLog race hedgeDelay start start (fun poll => decide (poll < time)) ++
        if isWinner result then
          [(time, logWinner .primaryGpu race (time - start)
            (if start + hedgeDelay < time then .cancelled else .notStarted) xHeaders)]
        else
          (time, logLoserAttempt describe "GPU" race.primaryGpuUpstream (time - start)
            result) ::
            (selectWinnerLogged describe race xHeaders hedgeDelay start 2
              { now := time
                gpuFut := ⟨some (time, result), true⟩
                secondaryFut := .fresh secondary
                gpuDone := true
                secondaryDone := false
                gpuFailure := some result
                secondaryFailure := none }).2 := by
  rw [raceFuel, selectWinnerLogged]
  simp only [RaceState.initial, Bool.not_false, Bool.and_self, Bool.false_eq_true, if_false,
    biasedSelect_fresh_first later first, Bool.true_and]
  split_ifs with winner
  · rfl
  · rfl
  · rfl

/-- The log of a race in which the secondary leg completes first. -/
theorem selectWinnerLogged_secondary_first {time : Instant} {result : RouteResult}
    (later : start + hedgeDelay ≤ time) (first : ∀ done, gpu = some done → time < done.1) :
    (selectWinnerLogged describe race xHeaders hedgeDelay start raceFuel
        (.initial start gpu (some (time, result)))).2 =
      (start + hedgeDelay, .firing race (ms hedgeDelay)) ::
        if isWinner result then
          [(time, logWinner .secondary race (time - start) .cancelled xHeaders)]
        else
          (time, logLoserAttempt describe race.secondaryPool.asStr race.secondaryUpstream
            (time - start) result) ::
            (selectWinnerLogged describe race xHeaders hedgeDelay start 2
              { now := time
                gpuFut := .fresh gpu
                secondaryFut := ⟨some (time, result), true⟩
                gpuDone := false
                secondaryDone := true
                gpuFailure := none
                secondaryFailure := some result }).2 := by
  have begun : start ≤ time := Nat.le_trans (Nat.le_add_right _ _) later
  rw [raceFuel, selectWinnerLogged]
  simp only [RaceState.initial, Bool.not_false, Bool.and_self, Bool.false_eq_true, if_false,
    biasedSelect_fresh_second begun first]
  have fired : firingLog race hedgeDelay start start (fun poll => decide (poll ≤ time)) =
      [(start + hedgeDelay, .firing race (ms hedgeDelay))] := by
    simp [firingLog, later]
  rw [fired]
  split_ifs with winner
  · rfl
  · rfl

variable (describe start) in
@[simp]
theorem lossLog_none (pool : String) (addr : SocketAddr) :
    lossLog describe start pool addr none = [] :=
  rfl

variable (describe start) in
@[simp]
theorem lossLog_some (pool : String) (addr : SocketAddr) (time : Instant)
    (result : RouteResult) :
    lossLog describe start pool addr (some (time, result)) =
      if isWinner result then []
      else [(time, logLoserAttempt describe pool addr (time - start) result)] := by
  cases winner : isWinner result <;> simp [lossLog, Option.filter, winner]

/-- Whether the GPU leg fails before the secondary leg fires or not, the two events
are logged in the order of time, the failure first if they come at once. -/
theorem firingLog_around {time : Instant} {event : HedgeEvent} {rest : HedgeLog}
    (later : ∀ other ∈ rest, time ≤ other.1) :
    firingLog race hedgeDelay start start (fun poll => decide (poll < time)) ++
        (time, event) :: (firingLog race hedgeDelay start time (fun _ => true) ++ rest) =
      interleave [(time, event)]
        ((start + hedgeDelay, .firing race (ms hedgeDelay)) :: rest) := by
  rw [interleave_cons, interleave_nil]
  by_cases early : start + hedgeDelay < time
  · have before : firingLog race hedgeDelay start start (fun poll => decide (poll < time)) =
        [(start + hedgeDelay, .firing race (ms hedgeDelay))] := by
      simp [firingLog, early]
    have after : firingLog race hedgeDelay start time (fun _ => true) = [] := by
      simp [firingLog, Nat.not_le.mpr early]
    rw [before, after, ← List.singleton_append]
    refine (orderedInsert_between ?_ later).symm
    intro other member
    rw [List.mem_singleton.mp member]
    exact early
  · have order : time ≤ start + hedgeDelay := Nat.not_lt.mp early
    have before : firingLog race hedgeDelay start start (fun poll => decide (poll < time)) =
        [] := by
      simp [firingLog, early]
    have after : firingLog race hedgeDelay start time (fun _ => true) =
        [(start + hedgeDelay, .firing race (ms hedgeDelay))] := by
      simp [firingLog, order]
    have both : ∀ other ∈ (start + hedgeDelay, .firing race (ms hedgeDelay)) :: rest,
        time ≤ other.1 :=
      List.forall_mem_cons.mpr ⟨order, later⟩
    rw [before, after]
    exact (orderedInsert_between (List.forall_mem_nil _) both).symm

variable (describe race xHeaders) in
theorem log_of_gpu_first {time : Instant} {result : RouteResult} (later : start ≤ time)
    (first : ∀ done, secondary = some done → time ≤ done.1)
    (fired : ∀ done, secondary = some done → start + hedgeDelay ≤ done.1) :
    let logged := selectWinnerLogged describe race xHeaders hedgeDelay start raceFuel
      (.initial start (some (time, result)) secondary)
    logged.2 =
      interleave
        ((gpuLog describe race start (some (time, result))).filter
          fun event => logged.1.pollsGpu event.1)
        ((secondaryLog describe race hedgeDelay start secondary).filter
          fun event => logged.1.pollsSecondary event.1) ++
      closingLog race xHeaders logged.1 := by
  intro logged
  have outcome : logged.1 = _ :=
    (selectWinnerLogged_outcome raceFuel _).trans (selectWinner_gpu_first later first)
  have log : logged.2 = _ := selectWinnerLogged_gpu_first later first
  rw [outcome, log]
  clear outcome log logged
  by_cases winner : isWinner result = true
  · rw [if_pos winner, if_pos winner]
    cases secondary with
    | none =>
        by_cases early : start + hedgeDelay < time <;>
          simp [gpuLog, secondaryLog, winner, closingLog, firingLog,
            RaceOutcome.pollsSecondary, early]
    | some done =>
        obtain ⟨other, failure⟩ := done
        have order : time ≤ other := first _ rfl
        have unseen : ¬ other < time := Nat.not_lt.mpr order
        by_cases early : start + hedgeDelay < time <;> cases lost : isWinner failure <;>
          simp [gpuLog, secondaryLog, winner, closingLog, firingLog,
            RaceOutcome.pollsSecondary, early, unseen, lost]
  · rw [if_neg winner, if_neg winner, selectWinnerLogged_after_gpu result 0 _ first fired,
      ← List.append_assoc, ← List.cons_append, ← List.append_assoc]
    have legLater : ∀ other ∈ lossLog describe start race.secondaryPool.asStr
        race.secondaryUpstream secondary, time ≤ other.1 := by
      intro other member
      obtain ⟨done, kept, rfl⟩ := List.mem_map.mp member
      obtain ⟨finished, -⟩ := Option.filter_eq_some_iff.mp (Option.mem_toList.mp kept)
      exact first done finished
    rw [firingLog_around legLater]
    cases secondary with
    | none =>
        simp [gpuLog, secondaryLog, winner, closingLog, RaceOutcome.finish,
          RaceOutcome.pollsSecondary, RaceOutcome.pollsGpu]
    | some done =>
        obtain ⟨other, failure⟩ := done
        have order : time ≤ other := first _ rfl
        have inTime : start + hedgeDelay ≤ other := fired _ rfl
        cases lost : isWinner failure <;>
          simp [gpuLog, secondaryLog, winner, closingLog, RaceOutcome.finish,
            RaceOutcome.pollsSecondary, RaceOutcome.pollsGpu, lost, order, inTime]

variable (describe race xHeaders) in
theorem log_of_secondary_first {time : Instant} {result : RouteResult}
    (later : start + hedgeDelay ≤ time) (first : ∀ done, gpu = some done → time < done.1) :
    let logged := selectWinnerLogged describe race xHeaders hedgeDelay start raceFuel
      (.initial start gpu (some (time, result)))
    logged.2 =
      interleave
        ((gpuLog describe race start gpu).filter
          fun event => logged.1.pollsGpu event.1)
        ((secondaryLog describe race hedgeDelay start (some (time, result))).filter
          fun event => logged.1.pollsSecondary event.1) ++
      closingLog race xHeaders logged.1 := by
  intro logged
  have begun : start ≤ time := Nat.le_trans (Nat.le_add_right _ _) later
  have outcome : logged.1 = _ :=
    (selectWinnerLogged_outcome raceFuel _).trans (selectWinner_secondary_first begun first)
  have log : logged.2 = _ := selectWinnerLogged_secondary_first later first
  rw [outcome, log]
  clear outcome log logged
  by_cases winner : isWinner result = true
  · rw [if_pos winner, if_pos winner]
    cases gpu with
    | none =>
        simp [gpuLog, secondaryLog, winner, closingLog, RaceOutcome.pollsSecondary, later]
    | some done =>
        obtain ⟨other, failure⟩ := done
        have order : ¬ other ≤ time := Nat.not_le.mpr (first _ rfl)
        cases lost : isWinner failure <;>
          simp [gpuLog, secondaryLog, winner, closingLog, RaceOutcome.finish,
            RaceOutcome.pollsSecondary, RaceOutcome.pollsGpu, lost, order, later]
  · have gpuLater : ∀ done, gpu = some done → time ≤ done.1 :=
      fun done finished => Nat.le_of_lt (first done finished)
    rw [if_neg winner, if_neg winner, selectWinnerLogged_after_secondary result 0 _ gpuLater]
    cases gpu with
    | none =>
        simp [gpuLog, secondaryLog, winner, closingLog, RaceOutcome.finish,
          RaceOutcome.pollsSecondary, RaceOutcome.pollsGpu]
    | some done =>
        obtain ⟨other, failure⟩ := done
        have order : time < other := first _ rfl
        have early : start + hedgeDelay < other := Nat.lt_of_le_of_lt later order
        cases lost : isWinner failure with
        | false =>
            have polled := And.intro (Nat.le_of_lt order) (Nat.le_of_lt early)
            have last := And.intro (Nat.not_le.mpr order) (Nat.not_le.mpr early)
            simp [gpuLog, secondaryLog, winner, closingLog, RaceOutcome.finish,
              RaceOutcome.pollsSecondary, RaceOutcome.pollsGpu, lost, polled, last, NotLater]
        | true =>
            simp [gpuLog, secondaryLog, winner, closingLog, RaceOutcome.pollsSecondary, lost,
              order, early]

variable (describe race xHeaders) in
/-- **The log of a race** is what its legs log as long as they are polled, in the
order of time, and then the closing event. -/
theorem selectWinnerLogged_log (gpuLater : ∀ done, gpu = some done → start ≤ done.1)
    (fired : ∀ done, secondary = some done → start + hedgeDelay ≤ done.1) :
    let logged := selectWinnerLogged describe race xHeaders hedgeDelay start raceFuel
      (.initial start gpu secondary)
    logged.2 =
      interleave
        ((gpuLog describe race start gpu).filter fun event => logged.1.pollsGpu event.1)
        ((secondaryLog describe race hedgeDelay start secondary).filter
          fun event => logged.1.pollsSecondary event.1) ++
      closingLog race xHeaders logged.1 := by
  cases gpu with
  | none =>
      cases secondary with
      | none =>
          have polled : start ≤ start + hedgeDelay := Nat.le_add_right _ _
          have log : firingLog race hedgeDelay start start (fun _ => true) =
              [(start + hedgeDelay, .firing race (ms hedgeDelay))] := by
            simp [firingLog, polled]
          exact log
      | some done =>
          exact log_of_secondary_first describe race xHeaders (fired done rfl) nofun
  | some gpuDone =>
      have later := gpuLater gpuDone rfl
      cases secondary with
      | none => exact log_of_gpu_first describe race xHeaders later nofun nofun
      | some done =>
          have inTime := fired done rfl
          rcases Nat.lt_or_ge done.1 gpuDone.1 with secondaryFirst | gpuFirst
          · apply log_of_secondary_first describe race xHeaders inTime
            rintro other ⟨⟩
            exact secondaryFirst
          · apply log_of_gpu_first describe race xHeaders later
            · rintro other ⟨⟩
              exact gpuFirst
            · rintro other ⟨⟩
              exact inTime

end Events

def XHeaders.isEmpty (xHeaders : XHeaders) : Bool := xHeaders.entries.isEmpty

/-- The `x-` headers as they are attached to events, if there are any. -/
def xHeadersOf (headers : HeaderMap) : Option XHeaders :=
  let xHeaders := collectXHeaders headers
  if xHeaders.isEmpty then none else some xHeaders

section Requests

variable (client : Client) (cfg : RetryConfig) (ctx : ForwardCtx)
  (describe : ReqwestError → String)

/-- The log of a request that is forwarded without a race. -/
def directLog (addr : SocketAddr) (poolType : PoolType) (pool : String) (start : Instant) :
    HedgeLog :=
  match (forwardWithRetry client cfg ctx addr poolType start).finish with
  | some (time, .ok resp) =>
      [(time, logDirect ctx.pathAndQuery addr pool resp.status (xHeadersOf ctx.headers))]
  | _ => []

def runRaceLog (hedgeDelay : Duration) (gpuAddr secondaryAddr : SocketAddr)
    (secondaryPool : PoolType) (start : Instant) : HedgeLog :=
  let gpuFut := forwardWithRetry client cfg ctx gpuAddr .gpu
  let secondaryFut :=
    hedged hedgeDelay (forwardWithRetry client cfg ctx secondaryAddr secondaryPool)
  (selectWinnerLogged describe ⟨ctx.pathAndQuery, gpuAddr, secondaryAddr, secondaryPool⟩
    (xHeadersOf ctx.headers) hedgeDelay start raceFuel
    (.initial start (gpuFut start).finish (secondaryFut start).finish)).2

/-- The events that `hedged_race` logs. -/
def hedgedRaceLog (reads : PoolReads) (hedgeDelay : Duration) (start : Instant) : HedgeLog :=
  let snapshot := reads 0 []
  match pickGpu snapshot start, secondaryCandidate snapshot start with
  | none, none => []
  | none, some (secondaryAddr, secondaryPool) =>
      directLog client cfg ctx secondaryAddr secondaryPool secondaryPool.asStr start
  | some (gpuAddr, _), none => directLog client cfg ctx gpuAddr .gpu "gpu" start
  | some (gpuAddr, _), some (secondaryAddr, secondaryPool) =>
      runRaceLog client cfg ctx describe hedgeDelay gpuAddr secondaryAddr secondaryPool start

end Requests

end BgeRouter
