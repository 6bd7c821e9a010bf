import BgeRouter.RequestLegs

/-!
# How many upstream calls a request makes

Retries and hedging multiply the load of a client request.  Each leg of a
request makes at most one call per try, no two legs are on the same upstream of
the same pool, and a leg that is dropped or timed out makes no further calls.
So the load is bounded by the retry count and the number of legs.
-/

namespace BgeRouter

/-- The upstreams that are called, in order and with repetitions. -/
def calls (effects : List (Instant × RouterEffect)) : List (SocketAddr × PoolType) :=
  (selected forwardOf effects).map Prod.snd

/-- The number of legs a request may have. -/
def RoutePolicy.maxLegs : RoutePolicy → Nat
  | .hedged _ => 2
  | .sequentialTimeout _ => maxGpuAttempts + 1

/-- The calls are those of these legs, at most `tries` for each of them. -/
structure CallsOfLegs (tries : Nat) (legs : List (SocketAddr × PoolType))
    (effects : List (Instant × RouterEffect)) : Prop where
  distinct : legs.Nodup
  made : (calls effects).Subperm (legs.flatMap (List.replicate tries))

section Lists

variable {tries : Nat} {legs : List (SocketAddr × PoolType)}
  {effects earlier later : List (Instant × RouterEffect)}

@[simp]
theorem calls_append : calls (earlier ++ later) = calls earlier ++ calls later := by
  simp [calls]

@[simp]
theorem calls_forward (time : Instant) (addr : SocketAddr) (poolType : PoolType) :
    calls ((time, .forward addr poolType) :: effects) = (addr, poolType) :: calls effects :=
  rfl

theorem calls_sublist (part : earlier.Sublist effects) :
    (calls earlier).Sublist (calls effects) :=
  (part.filterMap _).map _

theorem calls_perm (same : earlier.Perm effects) : (calls earlier).Perm (calls effects) :=
  (same.filterMap _).map _

theorem length_flatMap_replicate (tries : Nat) (legs : List (SocketAddr × PoolType)) :
    (legs.flatMap (List.replicate tries)).length = legs.length * tries := by
  induction legs with
  | nil => simp
  | cons leg rest ih =>
      rw [List.flatMap_cons, List.length_append, ih, List.length_replicate, List.length_cons,
        Nat.succ_mul, Nat.add_comm]

theorem count_flatMap_replicate (distinct : legs.Nodup) (leg : SocketAddr × PoolType) :
    (legs.flatMap (List.replicate tries)).count leg ≤ tries := by
  induction legs with
  | nil => simp
  | cons head rest ih =>
      obtain ⟨fresh, distinct⟩ := List.nodup_cons.mp distinct
      rw [List.flatMap_cons, List.count_append]
      by_cases same : head = leg
      · subst same
        have absent : head ∉ rest.flatMap (List.replicate tries) := by
          rw [List.mem_flatMap]
          rintro ⟨other, member, copies⟩
          exact fresh (List.eq_of_mem_replicate copies ▸ member)
        rw [List.count_replicate_self, List.count_eq_zero_of_not_mem absent]
        exact Nat.le_refl tries
      · rw [List.count_replicate, if_neg (by simpa using same), Nat.zero_add]
        exact ih distinct

theorem CallsOfLegs.length_le (ofLegs : CallsOfLegs tries legs effects) :
    (calls effects).length ≤ legs.length * tries := by
  rw [← length_flatMap_replicate]
  exact ofLegs.made.length_le

theorem CallsOfLegs.count_le (ofLegs : CallsOfLegs tries legs effects)
    (leg : SocketAddr × PoolType) : (calls effects).count leg ≤ tries :=
  Nat.le_trans (ofLegs.made.count_le leg) (count_flatMap_replicate ofLegs.distinct leg)

end Lists

section Loops

variable {client : Client} {cfg : RetryConfig} {ctx : ForwardCtx} {addr : SocketAddr}
  {poolType : PoolType} {start : Instant}

/-- A retry loop calls its upstream once per try, and makes all its tries
before it fails. -/
theorem RetryCourse.calls {answer : Nat → Instant → Option (Duration × RouteResult)}
    {attempt left : Nat} {backoff : Duration} {effects : List (Instant × RouterEffect)}
    {finish : Option (Instant × RouteResult)}
    (course : RetryCourse cfg addr poolType answer attempt backoff start effects finish)
    (counted : attempt + left = cfg.maxRetries) :
    ∃ made, made ≤ left + 1 ∧
      BgeRouter.calls effects = List.replicate made (addr, poolType) ∧
      ∀ time result, finish = some (time, result) → isRetryable result = true →
        made = left + 1 := by
  induction course generalizing left with
  | silent => exact ⟨1, Nat.le_add_left 1 left, rfl, nofun⟩
  | kept answered final =>
      refine ⟨1, Nat.le_add_left 1 left, rfl, fun time result ended failed => ?_⟩
      obtain ⟨-, rfl⟩ := Prod.mk.inj (Option.some.inj ended)
      rw [final] at failed
      cases failed
  | exhausted answered failed last =>
      obtain rfl : left = 0 := by omega
      exact ⟨1, Nat.le_refl 1, rfl, fun _ _ _ _ => rfl⟩
  | retried answered failed more rest ih =>
      obtain ⟨fewer, rfl⟩ : ∃ fewer, left = fewer + 1 := ⟨left - 1, by omega⟩
      obtain ⟨made, bounded, calls, all⟩ := @ih fewer (by omega)
      refine ⟨made + 1, Nat.succ_le_succ bounded, ?_, fun time result ended failed => ?_⟩
      · rw [calls_forward, calls, List.replicate_succ]
      · rw [all time result ended failed]

theorem calls_forwardWithRetry :
    (BgeRouter.calls (forwardWithRetry client cfg ctx addr poolType start).effects).Sublist
      (List.replicate (cfg.maxRetries + 1) (addr, poolType)) := by
  obtain ⟨made, bounded, calls, -⟩ :=
    (forwardWithRetry_course client cfg ctx addr poolType start).calls (Nat.zero_add _)
  rw [calls]
  exact List.replicate_sublist_replicate _ |>.mpr bounded

/-- A request on a hedged plan makes the calls of its legs. -/
theorem callsOfLegs_plan {hedgeDelay : Duration} {snapshot : PoolSnapshot} {now : Instant}
    {plan : HedgedPlan} (choice : HedgedChoice snapshot now plan) :
    CallsOfLegs (cfg.maxRetries + 1) plan.legs
      (plan.run client cfg ctx hedgeDelay start).effects := by
  cases plan with
  | nothing => exact ⟨List.nodup_nil, List.nil_subperm⟩
  | direct legAddr legPool =>
      refine ⟨List.nodup_singleton _, ?_⟩
      rw [HedgedPlan.legs, List.flatMap_singleton]
      exact calls_forwardWithRetry.subperm
  | race gpuAddr secondaryAddr secondaryPool =>
      constructor
      · cases choice with
        | race gpu secondary =>
            simp [HedgedPlan.legs, (secondaryCandidate_ne gpu secondary).symm]
      · rw [HedgedPlan.legs, List.flatMap_cons, List.flatMap_singleton]
        refine (calls_perm (interleave_perm _ _)).subperm.trans ?_
        rw [calls_append]
        refine ((calls_sublist List.filter_sublist).trans calls_forwardWithRetry).append
          ((calls_sublist List.filter_sublist).trans ?_) |>.subperm
        exact calls_forwardWithRetry

end Loops

section Attempts

variable {client : Client} {cfg : RetryConfig} {perUpstream : Duration} {ctx : ForwardCtx}
  {reads : PoolReads} {start : Instant}

theorem calls_attempt (attempt : Attempt) :
    (calls (attempt.effects client cfg perUpstream ctx)).Sublist
      (List.replicate (cfg.maxRetries + 1) (attempt.addr, attempt.poolType)) := by
  obtain ⟨addr, poolType, started, outcome⟩ := attempt
  have inLoop : ∀ ownCfg : RetryConfig, ownCfg.maxRetries = cfg.maxRetries →
      (calls (Timed.timeout perUpstream
        (forwardWithRetry client ownCfg ctx addr poolType) started).effects).Sublist
          (List.replicate (cfg.maxRetries + 1) (addr, poolType)) := by
    intro ownCfg sameRetries
    rw [← sameRetries]
    exact (calls_sublist Timed.effects_timeout_sublist).trans calls_forwardWithRetry
  cases poolType with
  | cpu => exact inLoop cfg rfl
  | gpu =>
      obtain ⟨time, own, finished, -⟩ :=
        timeout_forwardWithRetry_course client (attemptCfg cfg perUpstream) perUpstream ctx
          addr .gpu started
      rw [Attempt.effects, gpuAttempt, Timed.effects_bind finished, calls_append]
      -- what follows the timeout is at most a trip
      cases own with
      | some result =>
          refine (List.append_nil _).symm ▸ inLoop _ rfl
      | none =>
          refine (List.append_nil _).symm ▸ inLoop _ rfl

theorem calls_effectsOf (attempts : List Attempt) :
    (calls (effectsOf client cfg perUpstream ctx attempts)).Sublist
      ((attempts.map fun attempt => (attempt.addr, attempt.poolType)).flatMap
        (List.replicate (cfg.maxRetries + 1))) := by
  induction attempts with
  | nil => exact List.Sublist.refl _
  | cons attempt rest ih =>
      rw [effectsOf, List.flatMap_cons, calls_append, List.map_cons, List.flatMap_cons]
      exact (calls_attempt attempt).append ih

/-- The legs of a sequential request are on different upstreams. -/
theorem MeetsSequentialSpec.nodup_legs {finish : Instant}
    {effects : List (Instant × RouterEffect)} {report : SequentialReport}
    {gpu : List Attempt} {cpu : Option Attempt}
    (spec : MeetsSequentialSpec client cfg perUpstream ctx reads start finish effects report
      gpu cpu) :
    (report.attempts.map fun attempt => (attempt.addr, attempt.poolType)).Nodup ∧
      report.attempts.length ≤ maxGpuAttempts + 1 := by
  have isGpu : ∀ attempt ∈ gpu, attempt.poolType = .gpu := by
    intro attempt member
    obtain ⟨earlier, later, split⟩ := List.append_of_mem member
    exact (spec.gpuTrials.each earlier attempt later split).1
  have distinct : (gpu.map fun attempt => (attempt.addr, attempt.poolType)).Nodup := by
    refine List.Nodup.of_map Prod.fst ?_
    rw [List.map_map]
    exact spec.gpuTrials.distinct
  have ending := spec.ending
  generalize report.result = result at ending
  rw [spec.attempts]
  cases ending with
  | won | noUpstream =>
      rw [Option.toList_none, List.append_nil]
      exact ⟨distinct, Nat.le_succ_of_le spec.gpuTrials.atMostTwo⟩
  | cpu exhausted isCpu next =>
      rw [Option.toList_some, List.map_append, List.length_append]
      refine ⟨List.nodup_append.mpr ⟨distinct, List.nodup_singleton _, ?_⟩,
        Nat.succ_le_succ spec.gpuTrials.atMostTwo⟩
      intro leg member other otherMember same
      obtain ⟨attempt, ofGpu, rfl⟩ := List.mem_map.mp member
      obtain rfl := List.mem_singleton.mp otherMember
      have samePool := (Prod.mk.inj same).2
      rw [isGpu attempt ofGpu, isCpu] at samePool
      cases samePool

end Attempts

/-- The calls of any request are those of its legs. -/
theorem callsOfLegs_dispatch (client : Client) (cfg : RetryConfig) (ctx : ForwardCtx)
    (reads : PoolReads) (policy : RoutePolicy) (start : Instant) :
    ∃ legs, legs.length ≤ policy.maxLegs ∧
      CallsOfLegs (cfg.maxRetries + 1) legs
        (dispatch client cfg ctx reads policy start).effects := by
  cases policy with
  | hedged delay =>
      refine ⟨(hedgedPlan (reads 0 []) start).legs, ?_, ?_⟩
      · cases hedgedPlan (reads 0 []) start
        · exact Nat.zero_le 2
        · exact Nat.le_succ 1
        · exact Nat.le_refl 2
      · rw [dispatch, hedgedRace_apply]
        exact callsOfLegs_plan (hedgedPlan_choice _ _)
  | sequentialTimeout perUpstream =>
      obtain ⟨finish, report, gpu, cpu, -, spec⟩ :=
        sequentialTimeout_meetsSpec client cfg perUpstream ctx reads start
      obtain ⟨distinct, few⟩ := spec.nodup_legs
      refine ⟨_, ?_, distinct, ?_⟩
      · rw [List.length_map]
        exact few
      · rw [dispatch, Timed.effects_bind_pure, spec.performed]
        exact (calls_effectsOf _).subperm

/-- **Retries and hedging are bounded.**  For every accepted configuration,
whatever the upstreams do and the loads show, no upstream of a pool is called
more often than there are tries, and a request makes at most 63 calls. -/
theorem calls_route_bounded {lookup : String → Option String} {config : Config}
    (accepted : Config.fromLookup lookup = .ok config) (client : Client) (ctx : ForwardCtx)
    (reads : PoolReads) (start : Instant) :
    let made := calls (route client ctx reads config start).effects
    (∀ leg, made.count leg ≤ config.retryCount + 1) ∧
      made.length ≤
        (RoutePolicy.forPath ctx.pathAndQuery config).maxLegs * (config.retryCount + 1) ∧
      made.length ≤ 63 := by
  intro made
  obtain ⟨legs, few, ofLegs⟩ := callsOfLegs_dispatch client config.retryConfig ctx reads
    (.forPath ctx.pathAndQuery config) start
  have bounded : made.length ≤
      (RoutePolicy.forPath ctx.pathAndQuery config).maxLegs * (config.retryCount + 1) :=
    Nat.le_trans ofLegs.length_le (Nat.mul_le_mul_right _ few)
  refine ⟨ofLegs.count_le, bounded, Nat.le_trans bounded ?_⟩
  have tries : config.retryCount + 1 ≤ maxRetryCount + 1 :=
    Nat.succ_le_succ (Config.withinBounds_of_fromLookup accepted).retryCount
  have legs : (RoutePolicy.forPath ctx.pathAndQuery config).maxLegs ≤ maxGpuAttempts + 1 := by
    cases RoutePolicy.forPath ctx.pathAndQuery config
    · exact Nat.le_succ 2
    · exact Nat.le_refl 3
  exact Nat.mul_le_mul legs tries

/-- With default settings a fleet that refuses every connection is called eight
times for one inference request. -/
theorem calls_route_bounded_refused :
    let made := calls (route (.uniform (some (0, .error .request))) (.get "/v1/embeddings")
      (.alone okGpuOkCpu) Config.default 0).effects
    made.length = 8 ∧ made.length ≤ 63 := by
  intro made
  exact ⟨by decide +kernel,
    (calls_route_bounded Config.fromLookup_empty _ _ _ _).2.2⟩

end BgeRouter
