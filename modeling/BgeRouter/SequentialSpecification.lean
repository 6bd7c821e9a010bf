import BgeRouter.SelectionOrder
import BgeRouter.SequentialDispatch

/-!
# What the sequential dispatch guarantees

The attempts of a dispatch follow one another without a gap.  Those on GPU
upstreams come first, at most two on different addresses, each on the best
upstream that the snapshot shows by then among those not yet tried.  The CPU
attempt comes last, and only when no GPU attempt can follow.  At the head of
the loop over GPU upstreams all of this holds of the attempts made so far.
-/

namespace BgeRouter

section Specification

variable (client : Client) (cfg : RetryConfig) (perUpstream : Duration) (ctx : ForwardCtx)
  (reads : PoolReads)

namespace Attempt

/-- The retry configuration that an attempt gets. -/
def retryCfg : PoolType → RetryConfig
  | .gpu => attemptCfg cfg perUpstream
  | .cpu => cfg

/-- What the retry loop of an attempt returns within the timeout, and when. -/
def inTime (attempt : Attempt) : Option (Instant × RouteResult) :=
  (forwardWithRetry client (retryCfg cfg perUpstream attempt.poolType) ctx attempt.addr
    attempt.poolType attempt.started).finishedBy (attempt.started + perUpstream)

def ends (attempt : Attempt) : Instant :=
  ((attempt.inTime client cfg perUpstream ctx).map Prod.fst).getD
    (attempt.started + perUpstream)

def effects (attempt : Attempt) : List (Instant × RouterEffect) :=
  match attempt.poolType with
  | .gpu => (gpuAttempt client cfg perUpstream ctx attempt.addr attempt.started).effects
  | .cpu =>
      (forwardCpuWithTimeout client cfg perUpstream ctx attempt.addr attempt.started).effects

end Attempt

/-- The effects of a list of attempts. -/
def effectsOf (attempts : List Attempt) : List (Instant × RouterEffect) :=
  attempts.flatMap (Attempt.effects client cfg perUpstream ctx)

def endOf (start : Instant) (attempts : List Attempt) : Instant :=
  attempts.getLast?.elim start (Attempt.ends client cfg perUpstream ctx)

/-- `attempt` starts when the attempts before it have ended, none of which
succeeded, on the best upstream of `pool` outside `excluded`. -/
structure IsNextAttempt (start : Instant) (earlier : List Attempt)
    (pool : List UpstreamInfo) (excluded : List SocketAddr) (attempt : Attempt) : Prop where
  failed : ∀ other ∈ earlier, other.Failed
  started : attempt.started = endOf client cfg perUpstream ctx start earlier
  best : ∃ tier position upstream,
    IsBest pool excluded attempt.started tier position upstream ∧ upstream.addr = attempt.addr
  outcome : attempt.outcome = (attempt.inTime client cfg perUpstream ctx).map Prod.snd

/-- The GPU attempts of a dispatch. -/
structure GpuTrials (start : Instant) (gpu : List Attempt) : Prop where
  atMostTwo : gpu.length ≤ 2
  distinct : (gpu.map Attempt.addr).Nodup
  each : ∀ earlier attempt later, gpu = earlier ++ attempt :: later →
    attempt.poolType = .gpu ∧
      IsNextAttempt client cfg perUpstream ctx start earlier
        (reads earlier.length (effectsOf client cfg perUpstream ctx earlier)).gpu
        (earlier.map Attempt.addr) attempt

/-- No GPU attempt can follow: all failed, and there have been two of them or
the snapshot shows no other upstream to try. -/
structure GpuExhausted (start : Instant) (gpu : List Attempt) : Prop where
  failed : ∀ attempt ∈ gpu, attempt.Failed
  noOther : gpu.length = 2 ∨
    ∀ upstream ∈ (reads gpu.length (effectsOf client cfg perUpstream ctx gpu)).gpu,
      upstream.addr ∉ gpu.map Attempt.addr →
        selectionTier upstream (endOf client cfg perUpstream ctx start gpu) = none

/-- How a dispatch ends after its GPU attempts: the last one has an answer to
return, one CPU attempt follows, or there is no CPU upstream either. -/
inductive SequentialEnding (start : Instant) (gpu : List Attempt) :
    Option Attempt → RouteResult → Prop where
  | won {earlier attempt result} (last : gpu = earlier ++ [attempt])
      (answered : attempt.outcome = some result) (winner : isWinner result = true) :
      SequentialEnding start gpu none result
  | cpu {attempt} (exhausted : GpuExhausted client cfg perUpstream ctx reads start gpu)
      (poolType : attempt.poolType = .cpu)
      (next : IsNextAttempt client cfg perUpstream ctx start gpu
        (reads (gpu.length + 1) (effectsOf client cfg perUpstream ctx gpu)).cpu [] attempt) :
      SequentialEnding start gpu (some attempt)
        (attempt.outcome.getD (.error .noUpstreamAvailable))
  | noUpstream (exhausted : GpuExhausted client cfg perUpstream ctx reads start gpu)
      (noCpu : ∀ upstream ∈
          (reads (gpu.length + 1) (effectsOf client cfg perUpstream ctx gpu)).cpu,
        selectionTier upstream (endOf client cfg perUpstream ctx start gpu) = none) :
      SequentialEnding start gpu none (.error .noUpstreamAvailable)

/-- **Reference specification** of the sequential dispatch. -/
structure MeetsSequentialSpec (start finish : Instant)
    (effects : List (Instant × RouterEffect)) (report : SequentialReport)
    (gpu : List Attempt) (cpu : Option Attempt) : Prop where
  attempts : report.attempts = gpu ++ cpu.toList
  gpuTrials : GpuTrials client cfg perUpstream ctx reads start gpu
  ending : SequentialEnding client cfg perUpstream ctx reads start gpu cpu report.result
  performed : effects = effectsOf client cfg perUpstream ctx report.attempts
  finishes : finish = endOf client cfg perUpstream ctx start report.attempts
  bounded : finish ≤ start + 3 * perUpstream

end Specification

section Attempts

variable {client : Client} {cfg : RetryConfig} {perUpstream : Duration} {ctx : ForwardCtx}
  {reads : PoolReads} {start now : Instant} {addr : SocketAddr}

/-- The timeout of an attempt cuts off what its retry loop does not return in
time. -/
theorem finish_timeout_inTime (attempt : Attempt) :
    (Timed.timeout perUpstream
      (forwardWithRetry client (Attempt.retryCfg cfg perUpstream attempt.poolType) ctx
        attempt.addr attempt.poolType) attempt.started).finish =
      some (attempt.ends client cfg perUpstream ctx,
        (attempt.inTime client cfg perUpstream ctx).map Prod.snd) := by
  cases ended : attempt.inTime client cfg perUpstream ctx with
  | none =>
      rw [Attempt.ends, ended, Timed.finish_timeout_of_late ended]
      rfl
  | some finished =>
      obtain ⟨time, result⟩ := finished
      obtain ⟨finished, inTime⟩ := Course.finishedBy_eq_some_iff.mp ended
      rw [Attempt.ends, ended, Timed.finish_timeout finished inTime]
      rfl

variable (client cfg perUpstream ctx) in
theorem Attempt.ends_le (attempt : Attempt) :
    attempt.ends client cfg perUpstream ctx ≤ attempt.started + perUpstream := by
  cases ended : attempt.inTime client cfg perUpstream ctx with
  | none => simp [Attempt.ends, ended]
  | some finished =>
      have inTime := (Course.finishedBy_eq_some_iff.mp ended).2
      simpa [Attempt.ends, ended] using inTime

/-- The attempt on an upstream from `now` on. -/
def Attempt.on (client : Client) (cfg : RetryConfig) (perUpstream : Duration)
    (ctx : ForwardCtx) (addr : SocketAddr) (poolType : PoolType) (now : Instant) : Attempt :=
  let unanswered : Attempt := ⟨addr, poolType, now, none⟩
  { unanswered with
    outcome := (unanswered.inTime client cfg perUpstream ctx).map Prod.snd }

@[simp]
theorem effectsOf_nil : effectsOf client cfg perUpstream ctx [] = [] :=
  rfl

@[simp]
theorem effectsOf_concat (attempts : List Attempt) (attempt : Attempt) :
    effectsOf client cfg perUpstream ctx (attempts ++ [attempt]) =
      effectsOf client cfg perUpstream ctx attempts ++
        attempt.effects client cfg perUpstream ctx := by
  simp [effectsOf]

@[simp]
theorem endOf_nil : endOf client cfg perUpstream ctx start [] = start :=
  rfl

@[simp]
theorem endOf_concat (attempts : List Attempt) (attempt : Attempt) :
    endOf client cfg perUpstream ctx start (attempts ++ [attempt]) =
      attempt.ends client cfg perUpstream ctx := by
  simp [endOf]

/-- What is asked of every element after those before it, asked of the elements
one by one. -/
theorem forall_split_concat_iff {Element : Type} {property : List Element → Element → Prop}
    {elements : List Element} {last : Element} :
    (∀ earlier element later, elements ++ [last] = earlier ++ element :: later →
        property earlier element) ↔
      (∀ earlier element later, elements = earlier ++ element :: later →
        property earlier element) ∧ property elements last := by
  constructor
  · intro each
    refine ⟨?_, each elements last [] rfl⟩
    rintro earlier element later rfl
    exact each earlier element (later ++ [last]) (by simp)
  · rintro ⟨each, atLast⟩ earlier element later split
    rcases List.eq_nil_or_concat later with rfl | ⟨before, other, rfl⟩
    · obtain ⟨rfl, same⟩ := List.append_inj' split rfl
      obtain rfl := List.singleton_inj.mp same
      exact atLast
    · have shorter : elements ++ [last] = (earlier ++ element :: before) ++ [other] := by
        rw [split]
        simp
      exact each earlier element before (List.append_inj' shorter rfl).1

end Attempts

section Trials

variable {client : Client} {cfg : RetryConfig} {perUpstream : Duration} {ctx : ForwardCtx}
  {reads : PoolReads} {start : Instant} {gpu : List Attempt} {attempt : Attempt}

/-- What a selector returns is tried next. -/
theorem isNextAttempt_of_pickTier {pool : List UpstreamInfo} {poolType : PoolType}
    {excluded : List SocketAddr} {chosen : SocketAddr × PoolType} (triedAs : PoolType)
    (failed : ∀ attempt ∈ gpu, attempt.Failed)
    (found : pickTier pool poolType (endOf client cfg perUpstream ctx start gpu)
      (fun upstream => decide (upstream.addr ∈ excluded)) = some chosen) :
    IsNextAttempt client cfg perUpstream ctx start gpu pool excluded
      (Attempt.on client cfg perUpstream ctx chosen.1 triedAs
        (endOf client cfg perUpstream ctx start gpu)) := by
  obtain ⟨tier, position, upstream, best, rfl⟩ := pickTier_eq_some_iff.mp found
  exact ⟨failed, rfl, ⟨tier, position, upstream, best, rfl⟩, rfl⟩

theorem GpuTrials.nil : GpuTrials client cfg perUpstream ctx reads start [] where
  atMostTwo := by simp
  distinct := by simp
  each := by simp

theorem GpuTrials.concat (trials : GpuTrials client cfg perUpstream ctx reads start gpu)
    (room : gpu.length < 2) (poolType : attempt.poolType = .gpu)
    (next : IsNextAttempt client cfg perUpstream ctx start gpu
      (reads gpu.length (effectsOf client cfg perUpstream ctx gpu)).gpu
      (gpu.map Attempt.addr) attempt) :
    GpuTrials client cfg perUpstream ctx reads start (gpu ++ [attempt]) where
  atMostTwo := by
    rw [List.length_append]
    exact room
  distinct := by
    obtain ⟨tier, position, upstream, best, sameAddr⟩ := next.best
    have fresh : attempt.addr ∉ gpu.map Attempt.addr := sameAddr ▸ best.allowed
    rw [List.map_append, List.map_singleton, ← List.concat_eq_append]
    exact trials.distinct.concat fresh
  each := forall_split_concat_iff.mpr ⟨trials.each, poolType, next⟩

/-- An attempt adds at most its timeout to the time spent before. -/
theorem IsNextAttempt.ends_le {pool : List UpstreamInfo} {excluded : List SocketAddr}
    (next : IsNextAttempt client cfg perUpstream ctx start gpu pool excluded attempt)
    (before : endOf client cfg perUpstream ctx start gpu ≤
      start + gpu.length * perUpstream) :
    attempt.ends client cfg perUpstream ctx ≤ start + (gpu.length + 1) * perUpstream :=
  calc attempt.ends client cfg perUpstream ctx
      ≤ attempt.started + perUpstream := attempt.ends_le client cfg perUpstream ctx
    _ ≤ start + gpu.length * perUpstream + perUpstream := by
      rw [next.started]
      exact Nat.add_le_add_right before perUpstream
    _ = start + (gpu.length + 1) * perUpstream := by
      rw [Nat.succ_mul, Nat.add_assoc]

theorem GpuTrials.endOf_le (trials : GpuTrials client cfg perUpstream ctx reads start gpu) :
    endOf client cfg perUpstream ctx start gpu ≤ start + gpu.length * perUpstream := by
  have each := trials.each
  clear trials
  induction gpu using List.reverseRecOn with
  | nil => simp
  | append_singleton earlier last ih =>
      obtain ⟨each, -, next⟩ := forall_split_concat_iff.mp each
      rw [endOf_concat, List.length_append, List.length_singleton]
      exact next.ends_le (ih each)

theorem le_of_three {finish : Instant} {made : Nat} (few : made ≤ 3)
    (spent : finish ≤ start + made * perUpstream) : finish ≤ start + 3 * perUpstream :=
  Nat.le_trans spent (Nat.add_le_add_left (Nat.mul_le_mul_right _ few) _)

theorem GpuTrials.meetsSpec_of_won
    (trials : GpuTrials client cfg perUpstream ctx reads start (gpu ++ [attempt]))
    {result : RouteResult} (won : attempt.outcome.filter isWinner = some result) :
    MeetsSequentialSpec client cfg perUpstream ctx reads start
      (attempt.ends client cfg perUpstream ctx)
      (effectsOf client cfg perUpstream ctx (gpu ++ [attempt]))
      ⟨result, gpu ++ [attempt]⟩ (gpu ++ [attempt]) none where
  attempts := by simp
  gpuTrials := trials
  ending := by
    obtain ⟨answered, winner⟩ := Option.filter_eq_some_iff.mp won
    exact .won rfl answered winner
  performed := rfl
  finishes := (endOf_concat _ _).symm
  bounded := by
    have ends := trials.endOf_le
    rw [endOf_concat] at ends
    exact le_of_three (Nat.le_succ_of_le trials.atMostTwo) ends

theorem GpuTrials.meetsSpec_of_noCpu
    (trials : GpuTrials client cfg perUpstream ctx reads start gpu)
    (exhausted : GpuExhausted client cfg perUpstream ctx reads start gpu)
    (noCpu : pickCpu (reads (gpu.length + 1) (effectsOf client cfg perUpstream ctx gpu))
      (endOf client cfg perUpstream ctx start gpu) = none) :
    MeetsSequentialSpec client cfg perUpstream ctx reads start
      (endOf client cfg perUpstream ctx start gpu)
      (effectsOf client cfg perUpstream ctx gpu)
      ⟨.error .noUpstreamAvailable, gpu⟩ gpu none where
  attempts := by simp
  gpuTrials := trials
  ending := by
    rw [pickCpu_eq_pickTier, pickTier_eq_none_iff] at noCpu
    exact .noUpstream exhausted fun upstream member => noCpu upstream member (by simp)
  performed := rfl
  finishes := rfl
  bounded := le_of_three (Nat.le_succ_of_le trials.atMostTwo) trials.endOf_le

theorem GpuTrials.meetsSpec_of_cpu
    (trials : GpuTrials client cfg perUpstream ctx reads start gpu)
    (exhausted : GpuExhausted client cfg perUpstream ctx reads start gpu)
    (poolType : attempt.poolType = .cpu)
    (next : IsNextAttempt client cfg perUpstream ctx start gpu
      (reads (gpu.length + 1) (effectsOf client cfg perUpstream ctx gpu)).cpu [] attempt) :
    MeetsSequentialSpec client cfg perUpstream ctx reads start
      (attempt.ends client cfg perUpstream ctx)
      (effectsOf client cfg perUpstream ctx (gpu ++ [attempt]))
      ⟨attempt.outcome.getD (.error .noUpstreamAvailable), gpu ++ [attempt]⟩
      gpu (some attempt) where
  attempts := rfl
  gpuTrials := trials
  ending := .cpu exhausted poolType next
  performed := rfl
  finishes := (endOf_concat _ _).symm
  bounded := le_of_three (Nat.succ_le_succ trials.atMostTwo) (next.ends_le trials.endOf_le)

end Trials

section Run

variable {client : Client} {cfg : RetryConfig} {perUpstream : Duration} {ctx : ForwardCtx}
  {reads : PoolReads} {start : Instant} {gpu : List Attempt}

variable (client cfg perUpstream ctx reads start) in
/-- After the effects of earlier attempts, the rest of a dispatch completes it as
specified. -/
def CompletesDispatch (history : List (Instant × RouterEffect)) {now : Instant}
    (rest : Course RouterEffect SequentialReport now) : Prop :=
  ∃ finish report gpu cpu, rest.finish = some (finish, report) ∧
    MeetsSequentialSpec client cfg perUpstream ctx reads start finish
      (history ++ rest.effects) report gpu cpu

theorem cpuFallback_completes
    (trials : GpuTrials client cfg perUpstream ctx reads start gpu)
    (exhausted : GpuExhausted client cfg perUpstream ctx reads start gpu) :
    CompletesDispatch client cfg perUpstream ctx reads start
      (effectsOf client cfg perUpstream ctx gpu)
      (cpuFallback client cfg perUpstream ctx reads (gpu.length + 1)
        (effectsOf client cfg perUpstream ctx gpu) gpu
        (endOf client cfg perUpstream ctx start gpu)) := by
  cases chosen : pickCpu (reads (gpu.length + 1) (effectsOf client cfg perUpstream ctx gpu))
      (endOf client cfg perUpstream ctx start gpu) with
  | none =>
      rw [cpuFallback_of_none gpu chosen, CompletesDispatch, Course.finish_instantly,
        Course.effects_instantly, List.append_nil]
      exact ⟨_, _, gpu, none, rfl, trials.meetsSpec_of_noCpu exhausted chosen⟩
  | some pair =>
      obtain ⟨cpuAddr, poolType⟩ := pair
      let attempt := Attempt.on client cfg perUpstream ctx cpuAddr .cpu
        (endOf client cfg perUpstream ctx start gpu)
      have ended : (forwardCpuWithTimeout client cfg perUpstream ctx cpuAddr
          (endOf client cfg perUpstream ctx start gpu)).finish =
            some (attempt.ends client cfg perUpstream ctx, attempt.outcome) :=
        finish_timeout_inTime attempt
      obtain ⟨finish, effects⟩ := cpuFallback_of_some gpu chosen ended
      have next : IsNextAttempt client cfg perUpstream ctx start gpu
          (reads (gpu.length + 1) (effectsOf client cfg perUpstream ctx gpu)).cpu []
          attempt := by
        rw [pickCpu_eq_pickTier] at chosen
        exact isNextAttempt_of_pickTier .cpu exhausted.failed chosen
      have spec := trials.meetsSpec_of_cpu exhausted rfl next
      rw [effectsOf_concat] at spec
      rw [CompletesDispatch, effects]
      exact ⟨_, _, gpu, some attempt, finish, spec⟩

/-- The loop over GPU upstreams stops, and the CPU pool is tried. -/
theorem gpuAttempts_completes_of_stopped {left : Nat}
    {candidate : Option (SocketAddr × PoolType)} (stopped : left = 0 ∨ candidate = none)
    (trials : GpuTrials client cfg perUpstream ctx reads start gpu)
    (exhausted : GpuExhausted client cfg perUpstream ctx reads start gpu) :
    CompletesDispatch client cfg perUpstream ctx reads start
      (effectsOf client cfg perUpstream ctx gpu)
      (gpuAttempts client cfg perUpstream ctx reads left (gpu.map Attempt.addr)
        (effectsOf client cfg perUpstream ctx gpu) gpu candidate
        (endOf client cfg perUpstream ctx start gpu)) := by
  rw [gpuAttempts_of_stopped stopped, List.length_map]
  exact cpuFallback_completes trials exhausted

/-- From the head of the loop over GPU upstreams on, after attempts that all
failed. -/
theorem gpuAttempts_completes (left : Nat) {candidate : Option (SocketAddr × PoolType)}
    (trials : GpuTrials client cfg perUpstream ctx reads start gpu)
    (failed : ∀ attempt ∈ gpu, attempt.Failed) (counted : left + gpu.length = 2)
    (chosen : pickGpuExcludingSet
      (reads gpu.length (effectsOf client cfg perUpstream ctx gpu))
      (gpu.map Attempt.addr) (endOf client cfg perUpstream ctx start gpu) = candidate) :
    CompletesDispatch client cfg perUpstream ctx reads start
      (effectsOf client cfg perUpstream ctx gpu)
      (gpuAttempts client cfg perUpstream ctx reads left (gpu.map Attempt.addr)
        (effectsOf client cfg perUpstream ctx gpu) gpu candidate
        (endOf client cfg perUpstream ctx start gpu)) := by
  induction left generalizing gpu candidate with
  | zero =>
      have two : gpu.length = 2 := by omega
      exact gpuAttempts_completes_of_stopped (Or.inl rfl) trials ⟨failed, Or.inl two⟩
  | succ left ih =>
      cases candidate with
      | none =>
          have noOther := pickTier_eq_none_iff.mp chosen
          exact gpuAttempts_completes_of_stopped (Or.inr rfl) trials ⟨failed, Or.inr noOther⟩
      | some pair =>
          obtain ⟨gpuAddr, poolType⟩ := pair
          let attempt := Attempt.on client cfg perUpstream ctx gpuAddr .gpu
            (endOf client cfg perUpstream ctx start gpu)
          have ended : (gpuAttempt client cfg perUpstream ctx gpuAddr
              (endOf client cfg perUpstream ctx start gpu)).finish =
                some (attempt.ends client cfg perUpstream ctx, attempt.outcome) :=
            finish_gpuAttempt.trans (finish_timeout_inTime attempt)
          have trialsNext : GpuTrials client cfg perUpstream ctx reads start
              (gpu ++ [attempt]) :=
            trials.concat (by omega) rfl (isNextAttempt_of_pickTier .gpu failed chosen)
          cases won : attempt.outcome.filter isWinner with
          | some result =>
              obtain ⟨finish, effects⟩ := gpuAttempts_of_won ended won
              have spec := trialsNext.meetsSpec_of_won won
              rw [effectsOf_concat] at spec
              rw [CompletesDispatch, effects]
              exact ⟨_, _, _, none, finish, spec⟩
          | none =>
              obtain ⟨finish, effects⟩ := gpuAttempts_of_failed ended won rfl
              have failedNext : ∀ other ∈ gpu ++ [attempt], other.Failed :=
                List.forall_mem_append.mpr ⟨failed, List.forall_mem_singleton.mpr won⟩
              have sameLength : (gpu.map Attempt.addr ++ [gpuAddr]).length =
                  (gpu ++ [attempt]).length := by simp
              have rest := ih trialsNext failedNext
                (by rw [List.length_append, List.length_singleton]; omega) rfl
              rw [effectsOf_concat, endOf_concat, List.map_append, CompletesDispatch] at rest
              rw [CompletesDispatch, finish, effects, ← List.append_assoc, sameLength]
              exact rest

end Run

variable (client : Client) (cfg : RetryConfig) (perUpstream : Duration) (ctx : ForwardCtx)
  (reads : PoolReads) in
/-- **The sequential dispatch meets its specification**, whatever its loads
show and its attempts yield. -/
theorem sequentialTimeout_meetsSpec (start : Instant) :
    ∃ finish report gpu cpu,
      (sequentialTimeout client cfg perUpstream ctx reads start).finish =
        some (finish, report) ∧
      MeetsSequentialSpec client cfg perUpstream ctx reads start finish
        (sequentialTimeout client cfg perUpstream ctx reads start).effects report gpu cpu :=
  gpuAttempts_completes maxGpuAttempts GpuTrials.nil (by simp) rfl
    pickGpu_eq_excludingNothing.symm

end BgeRouter
