import BgeRouter.RoutingPolicy

/-!
# Reported health

The health endpoint and the heartbeat decide by themselves which upstreams are
healthy, and look at the status only.  The routing policy also looks at the
cooldown window, so they agree exactly while no healthy upstream cools down.
-/

namespace BgeRouter

def UpstreamStatus.asStr : UpstreamStatus → String
  | .ok => "ok"
  | .loading => "loading"
  | .fail => "fail"
  | .unknown => "unknown"

/-- An upstream in the answer of `/router/health`, with the lengths of time
before they are converted to floating-point seconds. -/
structure UpstreamView where
  addr : String
  poolType : String
  status : String
  queueDepth : UInt32
  liveWorkers : UInt32
  lastSeenAgo : Duration
  cooldownRemaining : Option Duration
deriving DecidableEq

def UpstreamView.fromInfo (info : UpstreamInfo) (now : Instant) : UpstreamView where
  addr := info.addr.text
  poolType := info.poolType.asStr
  status := info.status.asStr
  queueDepth := info.queueDepth
  liveWorkers := info.liveWorkers
  lastSeenAgo := now - info.lastSeen
  cooldownRemaining :=
    (info.cooldownUntil.map fun deadline => deadline - now).filter fun remaining =>
      decide (0 < remaining)

structure RouterHealthResponse where
  httpStatus : Nat
  status : String
  gpuUpstreams : List UpstreamView
  cpuUpstreams : List UpstreamView
deriving DecidableEq

/-- `GET /router/health`. -/
def routerHealth (snapshot : PoolSnapshot) (now : Instant) : RouterHealthResponse :=
  let gpu := snapshot.gpu.map fun upstream => UpstreamView.fromInfo upstream now
  let cpu := snapshot.cpu.map fun upstream => UpstreamView.fromInfo upstream now
  let gpuOk := gpu.countP fun view => view.status == "ok"
  let cpuOk := cpu.countP fun view => view.status == "ok"
  -- 503 only when discovery found no upstream at all
  { httpStatus := if !gpu.isEmpty || !cpu.isEmpty then 200 else 503
    status := if gpuOk > 0 ∨ cpuOk > 0 then "ok" else "degraded"
    gpuUpstreams := gpu
    cpuUpstreams := cpu }

/-- The fields of a heartbeat event. -/
structure Heartbeat where
  gpuUpstreams : Nat
  cpuUpstreams : Nat
  gpuOkCount : Nat
  cpuOkCount : Nat
  gpuQueueDepthSum : UInt32
  cpuQueueDepthSum : UInt32
deriving DecidableEq

/-- The sum of the queue depths, which wraps around in a release build. -/
def queueDepthSum (pool : List UpstreamInfo) : UInt32 :=
  pool.foldl (fun sum upstream => sum + upstream.queueDepth) 0

def emitHeartbeat (snapshot : PoolSnapshot) : Heartbeat where
  gpuUpstreams := snapshot.gpu.length
  cpuUpstreams := snapshot.cpu.length
  gpuOkCount := snapshot.gpu.countP fun upstream => upstream.status == .ok
  cpuOkCount := snapshot.cpu.countP fun upstream => upstream.status == .ok
  gpuQueueDepthSum := queueDepthSum snapshot.gpu
  cpuQueueDepthSum := queueDepthSum snapshot.cpu

/-- What `pick` returns is in the policy's Ok tier. -/
def PicksOk (snapshot : PoolSnapshot) (now : Instant) : Prop :=
  ∃ chosen, pick snapshot now = some chosen ∧
    ∃ upstream ∈ snapshot.pool chosen.2, upstream.addr = chosen.1 ∧
      isOkEligible upstream now = true

/-- What is reported agrees with what the policy would do. -/
structure ReportsRoutability (snapshot : PoolSnapshot) (now : Instant) : Prop where
  status : (routerHealth snapshot now).status = "ok" ↔
    ∃ upstream ∈ snapshot.entries, isOkEligible upstream now = true
  picked : (routerHealth snapshot now).status = "ok" ↔ PicksOk snapshot now
  gpuOkCount : (emitHeartbeat snapshot).gpuOkCount =
    snapshot.gpu.countP fun upstream => isOkEligible upstream now
  cpuOkCount : (emitHeartbeat snapshot).cpuOkCount =
    snapshot.cpu.countP fun upstream => isOkEligible upstream now

def NoOkCooling (snapshot : PoolSnapshot) (now : Instant) : Prop :=
  ∀ upstream ∈ snapshot.entries, upstream.status = .ok → upstream.isInCooldown now = false

section Reports

variable {snapshot : PoolSnapshot} {now : Instant}

theorem asStr_eq_ok_iff {status : UpstreamStatus} : status.asStr = "ok" ↔ status = .ok := by
  cases status <;> decide

/-- The health endpoint looks for the status alone. -/
theorem status_routerHealth_eq_ok_iff :
    (routerHealth snapshot now).status = "ok" ↔
      ∃ upstream ∈ snapshot.entries, upstream.status = .ok := by
  have someOk : (routerHealth snapshot now).status = "ok" ↔
      0 < snapshot.gpu.countP (fun upstream => upstream.status.asStr == "ok") ∨
        0 < snapshot.cpu.countP (fun upstream => upstream.status.asStr == "ok") := by
    simp only [routerHealth, List.countP_map]
    split_ifs with found
    · exact iff_of_true rfl found
    · exact iff_of_false (by decide) found
  rw [someOk, List.countP_pos_iff, List.countP_pos_iff]
  simp only [beq_iff_eq, asStr_eq_ok_iff, PoolSnapshot.entries, List.mem_append, or_and_right,
    exists_or]

theorem status_routerHealth_eq_ok_iff_eligible (idle : NoOkCooling snapshot now) :
    (routerHealth snapshot now).status = "ok" ↔
      ∃ upstream ∈ snapshot.entries, isOkEligible upstream now = true := by
  rw [status_routerHealth_eq_ok_iff]
  refine exists_congr fun upstream => and_congr_right fun member => ?_
  simp only [isOkEligible, Bool.and_eq_true, beq_iff_eq, Bool.not_eq_true']
  exact ⟨fun ok => ⟨ok, idle upstream member ok⟩, And.left⟩

/-- The search of one pool for an upstream of the first tier. -/
theorem eligible_of_pickOk (poolType : PoolType) {chosen : SocketAddr × PoolType}
    (found : pickOk (snapshot.pool poolType) poolType now = some chosen) :
    ∃ upstream ∈ snapshot.pool chosen.2, upstream.addr = chosen.1 ∧
      isOkEligible upstream now = true := by
  obtain ⟨rfl, upstream, member, eligible, sameAddr, -⟩ := exists_of_minByQueueDepth found
  exact ⟨upstream, member, sameAddr, eligible⟩

theorem picksOk_iff :
    PicksOk snapshot now ↔
      ∃ upstream ∈ snapshot.entries, isOkEligible upstream now = true := by
  constructor
  · rintro ⟨chosen, -, upstream, member, -, eligible⟩
    exact ⟨upstream, PoolSnapshot.mem_entries.mpr ⟨_, member⟩, eligible⟩
  · rintro ⟨upstream, member, eligible⟩
    cases found : (pickOk snapshot.gpu .gpu now).or (pickOk snapshot.cpu .cpu now) with
    | none =>
        obtain ⟨noGpu, noCpu⟩ := Option.or_eq_none_iff.mp found
        have notEligible : isOkEligible upstream now = false :=
          (List.mem_append.mp member).elim
            (minByQueueDepth_eq_none_iff.mp noGpu upstream)
            (minByQueueDepth_eq_none_iff.mp noCpu upstream)
        rw [notEligible] at eligible
        cases eligible
    | some chosen =>
        have picked : pick snapshot now = some chosen := by
          rw [pick, found, Option.some_or, Option.some_or]
        rcases Option.or_eq_some_iff.mp found with gpu | ⟨-, cpu⟩
        · exact ⟨chosen, picked, eligible_of_pickOk .gpu gpu⟩
        · exact ⟨chosen, picked, eligible_of_pickOk .cpu cpu⟩

theorem countP_ok_eq_iff {pool : List UpstreamInfo} :
    pool.countP (fun upstream => upstream.status == .ok) =
        pool.countP (fun upstream => isOkEligible upstream now) ↔
      ∀ upstream ∈ pool, upstream.status = .ok → upstream.isInCooldown now = false := by
  have restricted : pool.countP (fun upstream => isOkEligible upstream now) =
      (pool.filter fun upstream => upstream.status == .ok).countP
        fun upstream => !upstream.isInCooldown now := by
    rw [List.countP_filter]
    congr 1
    funext upstream
    rw [isOkEligible, Bool.and_comm]
  rw [restricted, List.countP_eq_length_filter, eq_comm, List.countP_eq_length]
  simp [List.mem_filter, and_imp]

/-- **Reported health agrees with routability** exactly while no upstream of
status `Ok` is cooling down. -/
theorem reportsRoutability_iff (snapshot : PoolSnapshot) (now : Instant) :
    ReportsRoutability snapshot now ↔ NoOkCooling snapshot now := by
  constructor
  · intro reports upstream member
    rcases List.mem_append.mp member with gpu | cpu
    · exact countP_ok_eq_iff.mp reports.gpuOkCount upstream gpu
    · exact countP_ok_eq_iff.mp reports.cpuOkCount upstream cpu
  · intro idle
    have status := status_routerHealth_eq_ok_iff_eligible idle
    exact {
      status := status
      picked := status.trans picksOk_iff.symm
      gpuOkCount := countP_ok_eq_iff.mpr fun upstream member =>
        idle upstream (List.mem_append_left _ member)
      cpuOkCount := countP_ok_eq_iff.mpr fun upstream member =>
        idle upstream (List.mem_append_right _ member) }

end Reports

/-- A fleet whose one upstream is healthy and cooling down. -/
def onlyCoolingGpu : PoolSnapshot where
  gpu := [⟨.sampleGpu, .gpu, .ok, 0, 1, 0, some 30⟩]
  cpu := []
  updatedAt := 0

/-- Everything is reported to be well while nothing can be routed. -/
theorem healthy_report_of_cooling_fleet :
    ¬ ∀ snapshot now, ReportsRoutability snapshot now := by
  intro reports
  obtain ⟨chosen, picked, -⟩ := (reports onlyCoolingGpu 0).picked.mp (by decide)
  have nothing : pick onlyCoolingGpu 0 = none := by decide
  rw [nothing] at picked
  cases picked

end BgeRouter
