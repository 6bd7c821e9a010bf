import BgeRouter.RouteDispatch

/-!
# The priority order on the request path

`pick` goes through the tiers of both pools in turn, while the dispatchers
combine `pickGpu` and `pickCpu`, each of which goes through the two tiers of
its own pool.  The two orders differ on the second and the third tier: a
loading GPU upstream is contacted before a CPU upstream that is ok.
-/

namespace BgeRouter

/-- The upstream of the first call of `forward`. -/
def firstUpstream (effects : List (Instant × RouterEffect)) :
    Option (SocketAddr × PoolType) :=
  (selected forwardOf effects).head?.map Prod.snd

/-- The request goes to the upstream that `pick` returns first, and is refused
without contacting anybody exactly when it returns none.  To contact an upstream
is to call `forward` on it, whether or not the request can then be built and
the upstream be reached. -/
structure ObeysPriority (snapshot : PoolSnapshot) (start : Instant)
    (request : Course RouterEffect RouteResult start) : Prop where
  first : firstUpstream request.effects = pick snapshot start
  refused : (firstUpstream request.effects = none ∧
      ∃ time, request.finish = some (time, .error .noUpstreamAvailable)) ↔
    pick snapshot start = none

/-- No GPU upstream is ok but one is loading, and a CPU upstream is ok. -/
structure LoadingGpuBeforeOkCpu (snapshot : PoolSnapshot) (now : Instant) : Prop where
  noOkGpu : ∀ upstream ∈ snapshot.gpu, isOkEligible upstream now = false
  loadingGpu : ∃ upstream ∈ snapshot.gpu, isLoadingEligible upstream now = true
  okCpu : ∃ upstream ∈ snapshot.cpu, isOkEligible upstream now = true

section Tiers

variable {snapshot : PoolSnapshot} {now : Instant} {eligible : UpstreamInfo → Bool}
  {pool : List UpstreamInfo} {poolType : PoolType}

theorem minByQueueDepth_isSome_iff :
    (∃ chosen, minByQueueDepth eligible pool poolType = some chosen) ↔
      ∃ upstream ∈ pool, eligible upstream = true := by
  rw [← Option.ne_none_iff_exists']
  simp

/-- The two orders agree on whether anything is routable. -/
theorem pick_eq_none_iff :
    pick snapshot now = none ↔ (pickGpu snapshot now).or (pickCpu snapshot now) = none := by
  simp only [pick, pickGpu, pickCpu, Option.or_eq_none_iff]
  constructor
  · rintro ⟨⟨⟨gpuOk, cpuOk⟩, gpuLoading⟩, cpuLoading⟩
    exact ⟨⟨gpuOk, gpuLoading⟩, cpuOk, cpuLoading⟩
  · rintro ⟨⟨gpuOk, gpuLoading⟩, cpuOk, cpuLoading⟩
    exact ⟨⟨⟨gpuOk, cpuOk⟩, gpuLoading⟩, cpuLoading⟩

/-- They agree on what is selected unless a loading GPU upstream competes with
a CPU upstream that is ok. -/
theorem pickGpu_or_pickCpu_eq_pick_iff :
    (pickGpu snapshot now).or (pickCpu snapshot now) = pick snapshot now ↔
      ¬ LoadingGpuBeforeOkCpu snapshot now := by
  constructor
  · rintro same ⟨noOkGpu, loadingGpu, okCpu⟩
    have gpuOk : pickOk snapshot.gpu .gpu now = none := minByQueueDepth_eq_none_iff.mpr noOkGpu
    obtain ⟨gpu, gpuLoading⟩ :
        ∃ chosen, pickLoading snapshot.gpu .gpu now = some chosen :=
      minByQueueDepth_isSome_iff.mpr loadingGpu
    obtain ⟨cpu, cpuOk⟩ : ∃ chosen, pickOk snapshot.cpu .cpu now = some chosen :=
      minByQueueDepth_isSome_iff.mpr okCpu
    have fromGpu : gpu.2 = .gpu := (exists_of_minByQueueDepth gpuLoading).1
    have fromCpu : cpu.2 = .cpu := (exists_of_minByQueueDepth cpuOk).1
    simp only [pickGpu, pickCpu, pick, gpuOk, gpuLoading, cpuOk, Option.none_or,
      Option.some_or, Option.some.injEq] at same
    rw [same, fromCpu] at fromGpu
    cases fromGpu
  · intro apart
    cases gpuOk : pickOk snapshot.gpu .gpu now with
    | some gpu => simp [pickGpu, pick, gpuOk]
    | none =>
        cases gpuLoading : pickLoading snapshot.gpu .gpu now with
        | none => simp [pickGpu, pickCpu, pick, gpuOk, gpuLoading]
        | some gpu =>
            cases cpuOk : pickOk snapshot.cpu .cpu now with
            | none => simp [pickGpu, pickCpu, pick, gpuOk, gpuLoading, cpuOk]
            | some cpu =>
                refine absurd ⟨?_, ?_, ?_⟩ apart
                · exact minByQueueDepth_eq_none_iff.mp gpuOk
                · exact minByQueueDepth_isSome_iff.mp ⟨gpu, gpuLoading⟩
                · exact minByQueueDepth_isSome_iff.mp ⟨cpu, cpuOk⟩

end Tiers

section Requests

variable {client : Client} {cfg : RetryConfig} {ctx : ForwardCtx} {reads : PoolReads}
  {snapshot : PoolSnapshot} {start : Instant}

@[simp]
theorem firstUpstream_nil : firstUpstream [] = none :=
  rfl

@[simp]
theorem firstUpstream_cons (time : Instant) (addr : SocketAddr) (poolType : PoolType)
    (later : List (Instant × RouterEffect)) :
    firstUpstream ((time, .forward addr poolType) :: later) = some (addr, poolType) :=
  rfl

theorem firstUpstream_forwardWithRetry (addr : SocketAddr) (poolType : PoolType) :
    firstUpstream (forwardWithRetry client cfg ctx addr poolType start).effects =
      some (addr, poolType) := by
  obtain ⟨later, effects⟩ :=
    (forwardWithRetry_course client cfg ctx addr poolType start).head
  rw [effects, firstUpstream_cons]

/-- A hedged request goes to the first leg of its plan. -/
theorem firstUpstream_run (plan : HedgedPlan) (hedgeDelay : Duration) :
    firstUpstream (plan.run client cfg ctx hedgeDelay start).effects = plan.legs.head? := by
  cases plan with
  | nothing => rfl
  | direct addr poolType => exact firstUpstream_forwardWithRetry addr poolType
  | race gpuAddr secondaryAddr secondaryPool =>
      obtain ⟨gpuLater, effects⟩ :=
        (forwardWithRetry_course client cfg ctx gpuAddr .gpu start).head
      obtain ⟨later, first⟩ := race_head (hedged hedgeDelay
        (forwardWithRetry client cfg ctx secondaryAddr secondaryPool)) effects
      rw [HedgedPlan.run, runRace, first, firstUpstream_cons]
      rfl

/-- A sequential request goes to the GPU candidate, or else to the CPU
candidate. -/
theorem SequentialCourse.firstUpstream {perUpstream : Duration} {left : Nat}
    {tried : List SocketAddr} {history effects : List (Instant × RouterEffect)}
    {attempts : List Attempt} {candidate : Option (SocketAddr × PoolType)}
    {finish : Instant} {report : SequentialReport}
    (course : SequentialCourse client cfg perUpstream ctx reads (left + 1) tried history
      attempts candidate start effects finish report) :
    firstUpstream effects =
      candidate.or (pickCpu (reads (tried.length + 1) history) start) := by
  cases course with
  | exhausted stopped noCpu =>
      have noGpu : candidate = none := by simpa using stopped
      rw [noGpu, noCpu]
      rfl
  | cpu stopped chosen _ course =>
      have noGpu : candidate = none := by simpa using stopped
      obtain ⟨later, head⟩ := course.head
      rw [noGpu, chosen, head]
      rfl
  | won _ _ course =>
      obtain ⟨later, head⟩ := course.head
      rw [head]
      rfl
  | next _ _ course _ =>
      obtain ⟨later, head⟩ := course.head
      rw [head]
      rfl

variable (client cfg ctx start) in
/-- Both dispatchers contact the GPU candidate first, or else the CPU
candidate. -/
theorem firstUpstream_dispatch (shown : ∀ loads, reads loads [] = snapshot)
    (policy : RoutePolicy) :
    firstUpstream (dispatch client cfg ctx reads policy start).effects =
      (pickGpu snapshot start).or (pickCpu snapshot start) := by
  cases policy with
  | hedged delay =>
      rw [dispatch, hedgedRace_apply, shown, firstUpstream_run,
        (hedgedPlan_choice snapshot start).head]
  | sequentialTimeout perUpstream =>
      obtain ⟨finish, report, -, course⟩ :=
        sequentialTimeout_course client cfg perUpstream ctx reads start
      rw [dispatch, Timed.effects_bind_pure, course.firstUpstream, shown, shown]

theorem finish_dispatch_of_none (shown : ∀ loads, reads loads [] = snapshot)
    (noGpu : pickGpu snapshot start = none) (noCpu : pickCpu snapshot start = none)
    (policy : RoutePolicy) :
    (dispatch client cfg ctx reads policy start).finish =
      some (start, .error .noUpstreamAvailable) := by
  cases policy with
  | hedged delay =>
      have noSecondary : secondaryCandidate snapshot start = none := by
        rw [secondaryCandidate, noGpu, noCpu]
        rfl
      rw [dispatch, hedgedRace_apply, shown, hedgedPlan, noGpu, noSecondary]
      rfl
  | sequentialTimeout perUpstream =>
      have nothing : sequentialTimeout client cfg perUpstream ctx reads start =
          .instantly ⟨.error .noUpstreamAvailable, []⟩ := by
        rw [sequentialTimeout, Timed.clock_bind, shown, noGpu, gpuAttempts, cpuFallback,
          Timed.clock_bind, shown, noCpu]
        rfl
      rw [dispatch, Timed.finish_bind_pure, nothing]
      rfl

/-- On both paths a request is refused without contacting anybody exactly when
nothing is routable. -/
theorem dispatch_refused_iff (shown : ∀ loads, reads loads [] = snapshot)
    (policy : RoutePolicy) :
    (firstUpstream (dispatch client cfg ctx reads policy start).effects = none ∧
        ∃ time, (dispatch client cfg ctx reads policy start).finish =
          some (time, .error .noUpstreamAvailable)) ↔
      pick snapshot start = none := by
  rw [pick_eq_none_iff, firstUpstream_dispatch client cfg ctx start shown policy]
  constructor
  · rintro ⟨nobody, -⟩
    exact nobody
  · intro nobody
    obtain ⟨noGpu, noCpu⟩ := Option.or_eq_none_iff.mp nobody
    exact ⟨nobody, start, finish_dispatch_of_none shown noGpu noCpu policy⟩

/-- **Exact condition for the priority order.**  A request on either path obeys
the order of `pick` if and only if `forward` is not called on a loading GPU
upstream while a CPU upstream is ok. -/
theorem dispatch_obeysPriority_iff (client : Client) (cfg : RetryConfig) (ctx : ForwardCtx)
    (reads : PoolReads) (policy : RoutePolicy) (snapshot : PoolSnapshot) (start : Instant)
    (shown : ∀ loads, reads loads [] = snapshot) :
    ObeysPriority snapshot start (dispatch client cfg ctx reads policy start) ↔
      ¬ LoadingGpuBeforeOkCpu snapshot start := by
  rw [← pickGpu_or_pickCpu_eq_pick_iff,
    ← firstUpstream_dispatch client cfg ctx start shown policy]
  constructor
  · intro obeys
    exact obeys.first
  · intro first
    exact ⟨first, dispatch_refused_iff shown policy⟩

end Requests

/-- An idle GPU upstream with live workers, and a healthy CPU upstream. -/
def idleGpuOkCpu : PoolSnapshot where
  gpu := [⟨.sampleGpu, .gpu, .loading, 0, 1, 0, none⟩]
  cpu := [⟨.sampleCpu, .cpu, .ok, 0, 1, 0, none⟩]
  updatedAt := 0

/-- A fleet whose only upstream is a healthy CPU obeys the order. -/
theorem obeysPriority_cpuOnly :
    ObeysPriority ⟨[], idleGpuOkCpu.cpu, 0⟩ 0
      (dispatch (.uniform (some (0, .error .request))) ⟨0, 1, 1, 1⟩ (.get "/health")
        (.alone ⟨[], idleGpuOkCpu.cpu, 0⟩) (.hedged 1) 0) := by
  refine (dispatch_obeysPriority_iff _ _ _ _ _ _ _ fun _ => rfl).mpr ?_
  rintro ⟨-, ⟨_, member, -⟩, -⟩
  cases member

/-- Such a request goes to the idle GPU upstream, not to the one that `pick`
returns. -/
theorem not_obeysPriority_idleGpu (ctx : ForwardCtx) (policy : RoutePolicy) :
    ¬ ObeysPriority idleGpuOkCpu 0
      (dispatch (.uniform none) ⟨0, 1, 1, 1⟩ ctx (.alone idleGpuOkCpu) policy 0) := by
  intro obeys
  have shown : ∀ loads, PoolReads.alone idleGpuOkCpu loads [] = idleGpuOkCpu :=
    fun _ => rfl
  have first := firstUpstream_dispatch (.uniform none) ⟨0, 1, 1, 1⟩ ctx 0 shown policy
  rw [obeys.first] at first
  revert first
  decide

theorem loadingGpu_before_okCpu :
    ¬ ObeysPriority idleGpuOkCpu 0
        (dispatch (.uniform none) ⟨0, 1, 1, 1⟩ (.get "/v1/embeddings") (.alone idleGpuOkCpu)
          (.hedged 1) 0) ∧
      ¬ ObeysPriority idleGpuOkCpu 0
        (dispatch (.uniform none) ⟨0, 1, 1, 1⟩ (.get "/health") (.alone idleGpuOkCpu)
          (.sequentialTimeout 1) 0) :=
  ⟨not_obeysPriority_idleGpu _ _, not_obeysPriority_idleGpu _ _⟩

end BgeRouter
