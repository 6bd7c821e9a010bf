import BgeRouter.RaceSpecification
import BgeRouter.SequentialDispatch

/-!
# Dispatch by route

Inference paths are served by a hedged race and all other paths by the
sequential dispatcher.  A hedged request loads the snapshot once and selects
its legs from it: the GPU upstream, and a second GPU or else the CPU upstream
as the secondary target.  With a single candidate there is nothing to race.
-/

namespace BgeRouter

/-- Strategy used for a given request. -/
inductive RoutePolicy where
  | hedged (delay : Duration)
  | sequentialTimeout (perUpstream : Duration)
deriving DecidableEq

/-- Tests the path without its query for `/v1/*embeddings*`. -/
def isInferencePath (pathAndQuery : String) : Bool :=
  let path := pathAndQuery.toList.takeWhile (· ≠ '?')
  "/v1/".toList.isPrefixOf path && path.tails.any fun tail => "embeddings".toList.isPrefixOf tail

def RoutePolicy.forPath (pathAndQuery : String) (config : Config) : RoutePolicy :=
  if isInferencePath pathAndQuery then .hedged config.hedgeDelay
  else .sequentialTimeout config.controlTimeout

/-- Another GPU upstream if there is one, else the CPU upstream. -/
def secondaryCandidate (snapshot : PoolSnapshot) (now : Instant) :
    Option (SocketAddr × PoolType) :=
  ((pickGpu snapshot now).bind fun gpu => pickGpuExcludingSet snapshot [gpu.1] now).or
    (pickCpu snapshot now)

section Dispatch

variable (client : Client) (cfg : RetryConfig) (ctx : ForwardCtx) (reads : PoolReads)

def hedgedRace (hedgeDelay : Duration) : Timed RouterEffect RouteResult := do
  let now ← Timed.clock
  let snapshot := reads 0 []
  match pickGpu snapshot now, secondaryCandidate snapshot now with
  | none, none => return .error .noUpstreamAvailable
  | none, some (secondaryAddr, secondaryPool) =>
      forwardWithRetry client cfg ctx secondaryAddr secondaryPool
  | some (gpuAddr, _), none => forwardWithRetry client cfg ctx gpuAddr .gpu
  | some (gpuAddr, _), some (secondaryAddr, secondaryPool) =>
      runRace client cfg hedgeDelay gpuAddr secondaryAddr secondaryPool ctx

def dispatch : RoutePolicy → Timed RouterEffect RouteResult
  | .hedged delay => hedgedRace client cfg ctx reads delay
  | .sequentialTimeout perUpstream => do
      let report ← sequentialTimeout client cfg perUpstream ctx reads
      return report.result

/-- Route a request with the policy chosen for its path. -/
def route (config : Config) : Timed RouterEffect RouteResult :=
  dispatch client config.retryConfig ctx reads (.forPath ctx.pathAndQuery config)

end Dispatch

/-- The legs of a hedged request. -/
inductive HedgedPlan where
  | nothing
  | direct (addr : SocketAddr) (poolType : PoolType)
  | race (gpuAddr secondaryAddr : SocketAddr) (secondaryPool : PoolType)

namespace HedgedPlan

def legs : HedgedPlan → List (SocketAddr × PoolType)
  | nothing => []
  | direct addr poolType => [(addr, poolType)]
  | race gpuAddr secondaryAddr secondaryPool =>
      [(gpuAddr, .gpu), (secondaryAddr, secondaryPool)]

def run (client : Client) (cfg : RetryConfig) (ctx : ForwardCtx) (hedgeDelay : Duration) :
    HedgedPlan → Timed RouterEffect RouteResult
  | nothing => return .error .noUpstreamAvailable
  | direct addr poolType => forwardWithRetry client cfg ctx addr poolType
  | race gpuAddr secondaryAddr secondaryPool =>
      runRace client cfg hedgeDelay gpuAddr secondaryAddr secondaryPool ctx

end HedgedPlan

/-- The legs are selected from one snapshot. -/
def hedgedPlan (snapshot : PoolSnapshot) (now : Instant) : HedgedPlan :=
  match pickGpu snapshot now, secondaryCandidate snapshot now with
  | none, none => .nothing
  | none, some (addr, poolType) => .direct addr poolType
  | some (gpuAddr, _), none => .direct gpuAddr .gpu
  | some (gpuAddr, _), some (secondaryAddr, secondaryPool) =>
      .race gpuAddr secondaryAddr secondaryPool

/-- How the legs come to be selected. -/
inductive HedgedChoice (snapshot : PoolSnapshot) (now : Instant) : HedgedPlan → Prop where
  | nothing (noGpu : pickGpu snapshot now = none) (noCpu : pickCpu snapshot now = none) :
      HedgedChoice snapshot now .nothing
  | cpuOnly {addr} (noGpu : pickGpu snapshot now = none)
      (cpu : pickCpu snapshot now = some (addr, .cpu)) :
      HedgedChoice snapshot now (.direct addr .cpu)
  | gpuOnly {addr} (gpu : pickGpu snapshot now = some (addr, .gpu))
      (noSecondary : secondaryCandidate snapshot now = none) :
      HedgedChoice snapshot now (.direct addr .gpu)
  | race {gpuAddr secondaryAddr secondaryPool}
      (gpu : pickGpu snapshot now = some (gpuAddr, .gpu))
      (secondary : secondaryCandidate snapshot now = some (secondaryAddr, secondaryPool)) :
      HedgedChoice snapshot now (.race gpuAddr secondaryAddr secondaryPool)

section Plans

variable {client : Client} {cfg : RetryConfig} {ctx : ForwardCtx} {reads : PoolReads}
  {hedgeDelay : Duration} {snapshot : PoolSnapshot} {now start : Instant}

theorem hedgedRace_apply :
    hedgedRace client cfg ctx reads hedgeDelay start =
      (hedgedPlan (reads 0 []) start).run client cfg ctx hedgeDelay start := by
  rw [hedgedRace, Timed.clock_bind, hedgedPlan]
  cases pickGpu (reads 0 []) start with
  | none => cases secondaryCandidate (reads 0 []) start <;> rfl
  | some gpu => cases secondaryCandidate (reads 0 []) start <;> rfl

variable (snapshot now) in
theorem hedgedPlan_choice : HedgedChoice snapshot now (hedgedPlan snapshot now) := by
  rw [hedgedPlan]
  cases primary : pickGpu snapshot now with
  | none =>
      have fallback : secondaryCandidate snapshot now = pickCpu snapshot now := by
        rw [secondaryCandidate, primary, Option.bind_none, Option.none_or]
      rw [fallback]
      cases cpu : pickCpu snapshot now with
      | none => exact .nothing primary cpu
      | some chosen =>
          obtain ⟨addr, poolType⟩ := chosen
          obtain rfl : poolType = .cpu := poolType_of_pickCpu cpu
          exact .cpuOnly primary cpu
  | some gpu =>
      obtain ⟨gpuAddr, poolType⟩ := gpu
      obtain rfl : poolType = .gpu := poolType_of_pickGpu primary
      cases secondary : secondaryCandidate snapshot now with
      | none => exact .gpuOnly primary secondary
      | some chosen => exact .race primary secondary

theorem picksRoutable_of_secondaryCandidate {chosen : SocketAddr × PoolType}
    (found : secondaryCandidate snapshot now = some chosen) :
    PicksRoutable snapshot now chosen := by
  rcases Option.or_eq_some_iff.mp found with otherGpu | ⟨-, cpu⟩
  · obtain ⟨gpu, -, excluded⟩ := Option.bind_eq_some_iff.mp otherGpu
    exact picksRoutable_of_pickGpuExcludingSet excluded
  · exact picksRoutable_of_pickCpu cpu

theorem secondaryCandidate_ne {gpu secondary : SocketAddr × PoolType}
    (primary : pickGpu snapshot now = some gpu)
    (found : secondaryCandidate snapshot now = some secondary) : secondary ≠ gpu := by
  rw [secondaryCandidate, primary, Option.bind_some] at found
  rcases Option.or_eq_some_iff.mp found with otherGpu | ⟨-, cpu⟩
  · have fresh := not_mem_of_pickGpuExcludingSet otherGpu
    intro same
    exact fresh (same ▸ List.mem_cons_self)
  · have fromCpu := poolType_of_pickCpu cpu
    have fromGpu := poolType_of_pickGpu primary
    intro same
    rw [same, fromGpu] at fromCpu
    cases fromCpu

/-- The first leg is the GPU candidate, or else the CPU candidate. -/
theorem HedgedChoice.head {plan : HedgedPlan} (choice : HedgedChoice snapshot now plan) :
    plan.legs.head? = (pickGpu snapshot now).or (pickCpu snapshot now) := by
  cases choice with
  | nothing noGpu noCpu =>
      rw [noGpu, noCpu]
      rfl
  | cpuOnly noGpu cpu =>
      rw [noGpu, cpu]
      rfl
  | gpuOnly gpu noSecondary =>
      rw [gpu]
      rfl
  | race gpu secondary =>
      rw [gpu]
      rfl

theorem HedgedChoice.picksRoutable {plan : HedgedPlan}
    (choice : HedgedChoice snapshot now plan) {leg : SocketAddr × PoolType}
    (member : leg ∈ plan.legs) : PicksRoutable snapshot now leg := by
  cases choice with
  | nothing => cases member
  | cpuOnly noGpu cpu =>
      obtain rfl := List.mem_singleton.mp member
      exact picksRoutable_of_pickCpu cpu
  | gpuOnly gpu noSecondary =>
      obtain rfl := List.mem_singleton.mp member
      exact picksRoutable_of_pickGpu gpu
  | race gpu secondary =>
      rcases List.mem_cons.mp member with rfl | last
      · exact picksRoutable_of_pickGpu gpu
      · obtain rfl := List.mem_singleton.mp last
        exact picksRoutable_of_secondaryCandidate secondary

/-- In a race the legs have different addresses if the pools do. -/
theorem HedgedChoice.addr_ne {gpuAddr secondaryAddr : SocketAddr}
    {secondaryPool : PoolType}
    (choice : HedgedChoice snapshot now (.race gpuAddr secondaryAddr secondaryPool))
    (distinct : snapshot.DistinctAddresses) : gpuAddr ≠ secondaryAddr := by
  cases choice with
  | race gpu secondary =>
      obtain ⟨upstream, member, sameAddr, -⟩ := picksRoutable_of_pickGpu gpu
      obtain ⟨other, otherMember, otherAddr, -⟩ :=
        picksRoutable_of_secondaryCandidate secondary
      intro same
      have samePool := (distinct.unique member otherMember
        (sameAddr.trans (same.trans otherAddr.symm))).1
      exact secondaryCandidate_ne gpu secondary (Prod.ext same.symm samePool.symm)

end Plans

end BgeRouter
