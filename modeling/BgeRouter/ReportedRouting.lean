import BgeRouter.HealthReports
import BgeRouter.HedgedPoolEffect
import BgeRouter.Library.StagedSearch

/-!
# What the health endpoint tells about routing

The status that `/router/health` sums up may disagree with the policy, but the
report as a whole does not hide anything from its reader.  The upstreams that
the next request would be sent to can be computed from it.
-/

namespace BgeRouter

namespace UpstreamView

/-- The upstream is reported as healthy and not cooling down. -/
def reportsOk (view : UpstreamView) : Bool :=
  view.status == "ok" && view.cooldownRemaining.isNone

def reportsLoading (view : UpstreamView) : Bool :=
  view.status == "loading" && decide (0 < view.liveWorkers) && view.cooldownRemaining.isNone

/-- The address of the first upstream of least queue depth among the eligible
ones. -/
def least (eligible : UpstreamView → Bool) (views : List UpstreamView) : Option String :=
  ((views.filter eligible).argmin fun view => view.queueDepth.toNat).map UpstreamView.addr

/-- The upstream of one pool that comes first for the reader of a report. -/
def first (views : List UpstreamView) (excluded : List String) : Option String :=
  (least (fun view => !decide (view.addr ∈ excluded) && view.reportsOk) views).or
    (least (fun view => !decide (view.addr ∈ excluded) && view.reportsLoading) views)

end UpstreamView

namespace RouterHealthResponse

def gpu (report : RouterHealthResponse) (excluded : List String) : Option String :=
  UpstreamView.first report.gpuUpstreams excluded

def cpu (report : RouterHealthResponse) : Option String :=
  UpstreamView.first report.cpuUpstreams []

/-- The legs of the next hedged request, as its sender can tell them. -/
def legs (report : RouterHealthResponse) : List (String × PoolType) :=
  let primary := report.gpu []
  let secondary :=
    (primary.bind fun addr => (report.gpu [addr]).map (·, PoolType.gpu)).or
      (report.cpu.map (·, PoolType.cpu))
  (primary.map (·, PoolType.gpu)).toList ++ secondary.toList

end RouterHealthResponse

/-- What a report shows of a leg. -/
def shownLeg (leg : SocketAddr × PoolType) : String × PoolType := (leg.1.text, leg.2)

section Views

variable {upstream : UpstreamInfo} {now : Instant}

theorem isNone_cooldownRemaining :
    (UpstreamView.fromInfo upstream now).cooldownRemaining.isNone =
      !upstream.isInCooldown now := by
  rw [UpstreamView.fromInfo, UpstreamInfo.isInCooldown]
  cases upstream.cooldownUntil with
  | none => rfl
  | some deadline =>
      by_cases ahead : now < deadline
      · have positive : 0 < deadline - now := Nat.sub_pos_of_lt ahead
        simp [Option.filter, ahead, positive]
      · have passed : deadline - now = 0 := Nat.sub_eq_zero_of_le (Nat.not_lt.mp ahead)
        simp [Option.filter, ahead, passed]

@[simp]
theorem reportsOk_fromInfo :
    (UpstreamView.fromInfo upstream now).reportsOk = isOkEligible upstream now := by
  rw [UpstreamView.reportsOk, isNone_cooldownRemaining, isOkEligible]
  congr 1
  cases status : upstream.status <;> simp [UpstreamView.fromInfo, status] <;> decide

@[simp]
theorem reportsLoading_fromInfo :
    (UpstreamView.fromInfo upstream now).reportsLoading = isLoadingEligible upstream now := by
  rw [UpstreamView.reportsLoading, isNone_cooldownRemaining, isLoadingEligible]
  congr 2
  cases status : upstream.status <;> simp [UpstreamView.fromInfo, status] <;> decide

theorem SocketAddr.text_injective : Function.Injective SocketAddr.text := by
  rintro ⟨first, _⟩ ⟨second, _⟩ rfl
  rfl

/-- The search of the views of a pool finds the address that the search of the
pool finds. -/
theorem least_views {eligible : UpstreamInfo → Bool} {shownEligible : UpstreamView → Bool}
    (same : ∀ upstream, shownEligible (UpstreamView.fromInfo upstream now) = eligible upstream)
    (pool : List UpstreamInfo) (poolType : PoolType) :
    UpstreamView.least shownEligible
        (pool.map fun upstream => UpstreamView.fromInfo upstream now) =
      (minByQueueDepth eligible pool poolType).map fun chosen => chosen.1.text := by
  have filtered : (pool.map fun upstream => UpstreamView.fromInfo upstream now).filter
      shownEligible = (pool.filter eligible).map fun upstream =>
        UpstreamView.fromInfo upstream now := by
    rw [List.filter_map]
    congr 2
    exact funext same
  rw [UpstreamView.least, filtered, StagedSearch.argmin_map, minByQueueDepth, Option.map_map,
    Option.map_map]
  rfl

theorem first_views (pool : List UpstreamInfo) (poolType : PoolType)
    (excluded : List SocketAddr) :
    UpstreamView.first (pool.map fun upstream => UpstreamView.fromInfo upstream now)
        (excluded.map SocketAddr.text) =
      (pickTier pool poolType now fun upstream => decide (upstream.addr ∈ excluded)).map
        fun chosen => chosen.1.text := by
  have shown : ∀ upstream, decide ((UpstreamView.fromInfo upstream now).addr ∈
      excluded.map SocketAddr.text) = decide (upstream.addr ∈ excluded) := fun upstream =>
    decide_eq_decide.mpr (List.mem_map_of_injective SocketAddr.text_injective)
  rw [UpstreamView.first, pickTier, Option.map_or,
    least_views (fun upstream => by rw [shown, reportsOk_fromInfo]) pool poolType,
    least_views (fun upstream => by rw [shown, reportsLoading_fromInfo]) pool poolType]

end Views

section Reports

variable {snapshot : PoolSnapshot} {now : Instant}

theorem gpu_routerHealth (excluded : List SocketAddr) :
    (routerHealth snapshot now).gpu (excluded.map SocketAddr.text) =
      (pickGpuExcludingSet snapshot excluded now).map fun chosen => chosen.1.text :=
  first_views snapshot.gpu .gpu excluded

theorem cpu_routerHealth :
    (routerHealth snapshot now).cpu =
      (pickCpu snapshot now).map fun chosen => chosen.1.text := by
  rw [pickCpu_eq_pickTier]
  exact first_views snapshot.cpu .cpu []

/-- The legs of a plan: the GPU upstream that comes first, then the secondary
one. -/
theorem legs_hedgedPlan :
    (hedgedPlan snapshot now).legs =
      (pickGpu snapshot now).toList ++ (secondaryCandidate snapshot now).toList := by
  rw [hedgedPlan]
  cases primary : pickGpu snapshot now with
  | none => cases secondaryCandidate snapshot now <;> rfl
  | some gpu =>
      obtain ⟨addr, poolType⟩ := gpu
      obtain rfl : poolType = .gpu := poolType_of_pickGpu primary
      cases secondaryCandidate snapshot now <;> rfl

theorem map_shownLeg {chosen : Option (SocketAddr × PoolType)} {poolType : PoolType}
    (ofPool : ∀ leg, chosen = some leg → leg.2 = poolType) :
    (chosen.map fun leg => leg.1.text).map (·, poolType) = chosen.map shownLeg := by
  cases chosen with
  | none => rfl
  | some leg =>
      rw [Option.map_some, Option.map_some, Option.map_some, shownLeg, ofPool leg rfl]

theorem primary_routerHealth :
    ((routerHealth snapshot now).gpu []).map (·, PoolType.gpu) =
      (pickGpu snapshot now).map shownLeg := by
  rw [show (routerHealth snapshot now).gpu [] = _ from gpu_routerHealth [],
    ← pickGpu_eq_excludingNothing]
  exact map_shownLeg fun leg found => poolType_of_pickGpu found

theorem secondary_routerHealth :
    ((((routerHealth snapshot now).gpu []).bind fun addr =>
        ((routerHealth snapshot now).gpu [addr]).map (·, PoolType.gpu)).or
          ((routerHealth snapshot now).cpu.map (·, PoolType.cpu))) =
      (secondaryCandidate snapshot now).map shownLeg := by
  rw [secondaryCandidate, Option.map_or, cpu_routerHealth,
    map_shownLeg fun leg found => poolType_of_pickCpu found,
    show (routerHealth snapshot now).gpu [] = _ from gpu_routerHealth [],
    ← pickGpu_eq_excludingNothing]
  congr 1
  cases pickGpu snapshot now with
  | none => rfl
  | some gpu =>
      rw [Option.map_some, Option.bind_some, Option.bind_some,
        show (routerHealth snapshot now).gpu [gpu.1.text] = _ from gpu_routerHealth [gpu.1]]
      exact map_shownLeg fun leg found => poolType_of_pickTier found

/-- **The report tells where requests go.**  From the answer of the health
endpoint alone one can compute the GPU upstream that the next attempt would be
on, whatever addresses have been tried, the CPU upstream, and the legs of a
hedged request. -/
theorem routerHealth_tells_routing (snapshot : PoolSnapshot) (now : Instant) :
    let report := routerHealth snapshot now
    (∀ excluded : List SocketAddr, report.gpu (excluded.map SocketAddr.text) =
        (pickGpuExcludingSet snapshot excluded now).map fun chosen => chosen.1.text) ∧
      report.cpu = (pickCpu snapshot now).map (fun chosen => chosen.1.text) ∧
      report.legs = (hedgedPlan snapshot now).legs.map shownLeg := by
  refine ⟨gpu_routerHealth, cpu_routerHealth, ?_⟩
  rw [RouterHealthResponse.legs, primary_routerHealth, secondary_routerHealth,
    legs_hedgedPlan, List.map_append, Option.toList_map, Option.toList_map]

end Reports

/-- A GPU upstream that is cooling down is reported, but not as a leg. -/
example : (routerHealth onlyCoolingGpu 0).legs = [] ∧
    (routerHealth onlyCoolingGpu 30).legs = [("10.0.0.1:8081", .gpu)] := by
  decide

end BgeRouter
