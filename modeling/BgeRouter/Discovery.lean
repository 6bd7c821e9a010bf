import BgeRouter.UpstreamSnapshot

/-!
# DNS-based upstream discovery

A refresh resolves both DNS names and merges the answers into the snapshot:
known addresses keep their state, new ones enter as `unknown`, disappeared
ones are dropped, and a failed lookup preserves its pool.
-/

namespace BgeRouter

/-- Outcome of a single DNS resolution attempt. -/
inductive ResolveResult where
  | resolved (addrs : List SocketAddr)
  | failed
deriving DecidableEq

/-- An address that discovery has not seen in this pool before. -/
def UpstreamInfo.discovered (addr : SocketAddr) (poolType : PoolType) (now : Instant) :
    UpstreamInfo where
  addr := addr
  poolType := poolType
  status := .unknown
  queueDepth := 0
  liveWorkers := 0
  lastSeen := now
  cooldownUntil := none

/-- Apply a resolution result to a single pool. -/
def mergePool (existing : List UpstreamInfo) (result : ResolveResult)
    (poolType : PoolType) (now : Instant) : List UpstreamInfo :=
  match result with
  | .failed => existing
  | .resolved resolved => resolved.map fun addr =>
      (existing.find? fun upstream => decide (upstream.addr = addr)).getD
        (.discovered addr poolType now)

/-- Merge newly resolved addresses with the existing snapshot. -/
def merge (current : PoolSnapshot) (gpuResult cpuResult : ResolveResult)
    (now : Instant) : PoolSnapshot where
  gpu := mergePool current.gpu gpuResult .gpu now
  cpu := mergePool current.cpu cpuResult .cpu now
  updatedAt := now

/-- The answer a refresh holds for one pool. -/
def resultFor (gpuResult cpuResult : ResolveResult) : PoolType → ResolveResult
  | .gpu => gpuResult
  | .cpu => cpuResult

/-- The resolved set of a pool after a refresh is stored: a failed lookup
leaves it as it was. -/
def ResolveResult.resolvedSet (result : ResolveResult) (previous : List SocketAddr) :
    List SocketAddr :=
  match result with
  | .failed => previous
  | .resolved addrs => addrs

/-- The lookup succeeded and produced at least one address. -/
def ResolveResult.hasAddrs : ResolveResult → Bool
  | .resolved addrs => !addrs.isEmpty
  | .failed => false

/-- The first retry interval after a refresh that found no upstream. -/
def initialRetryInterval : Duration := .fromSecs 2

def computeNextInterval (previous : Duration) (wasHealthy isHealthy : Bool)
    (maxInterval : Duration) : Duration :=
  let initial := min initialRetryInterval maxInterval
  if isHealthy then maxInterval
  else if wasHealthy then initial
  else max (min (Duration.saturatingMul previous 2) maxInterval) initial

/-- What the discovery loop keeps from one refresh to the next.  A sleep of
zero length is skipped. -/
structure DiscoveryLoop where
  sleepFor : Duration
  lastHealthy : Bool

namespace DiscoveryLoop

/-- At first the loop does not sleep and assumes that all is well. -/
def initial : DiscoveryLoop := ⟨0, true⟩

/-- What is kept after a refresh with these answers. -/
def next (dnsRefresh : Duration) (loop : DiscoveryLoop)
    (answers : ResolveResult × ResolveResult) : DiscoveryLoop :=
  let healthy := answers.1.hasAddrs || answers.2.hasAddrs
  { sleepFor := computeNextInterval loop.sleepFor loop.lastHealthy healthy dnsRefresh
    lastHealthy := healthy }

/-- What is kept after refreshes with these answers, the oldest first. -/
def afterRefreshes (dnsRefresh : Duration) (answers : List (ResolveResult × ResolveResult)) :
    DiscoveryLoop :=
  answers.foldl (next dnsRefresh) initial

end DiscoveryLoop

section Cadence

variable {previous maxInterval : Duration} {wasHealthy isHealthy : Bool}

/-- The retry interval lies between the initial one and that of the steady
state. -/
theorem computeNextInterval_bounds :
    min initialRetryInterval maxInterval ≤
        computeNextInterval previous wasHealthy isHealthy maxInterval ∧
      computeNextInterval previous wasHealthy isHealthy maxInterval ≤ maxInterval := by
  simp only [computeNextInterval]
  split_ifs
  · exact ⟨Nat.min_le_right _ _, Nat.le_refl _⟩
  · exact ⟨Nat.le_refl _, Nat.min_le_right _ _⟩
  · exact ⟨Nat.le_max_right _ _,
      Nat.max_le.mpr ⟨Nat.min_le_right _ _, Nat.min_le_right _ _⟩⟩

/-- After any refresh the loop sleeps before the next one, provided that the
steady-state interval is positive. -/
theorem sleepFor_afterRefreshes_pos_iff {answers : List (ResolveResult × ResolveResult)}
    (refreshed : answers ≠ []) :
    0 < (DiscoveryLoop.afterRefreshes maxInterval answers).sleepFor ↔ 0 < maxInterval := by
  obtain ⟨earlier, last, rfl⟩ := (List.eq_nil_or_concat' answers).resolve_left refreshed
  rw [DiscoveryLoop.afterRefreshes, List.foldl_append]
  obtain ⟨lower, upper⟩ : min initialRetryInterval maxInterval ≤ _ ∧ _ ≤ maxInterval :=
    computeNextInterval_bounds
  constructor
  · intro sleeps
    exact Nat.lt_of_lt_of_le sleeps upper
  · intro positive
    exact Nat.lt_of_lt_of_le (Nat.lt_min.mpr ⟨by decide, positive⟩) lower

end Cadence

section Merge

variable {existing : List UpstreamInfo} {poolType : PoolType} {now : Instant}

@[simp]
theorem merge_pool (current : PoolSnapshot) (gpuResult cpuResult : ResolveResult) :
    (merge current gpuResult cpuResult now).pool poolType =
      mergePool (current.pool poolType) (resultFor gpuResult cpuResult poolType)
        poolType now := by
  cases poolType <;> rfl

private theorem merged_addr (addr : SocketAddr) :
    ((existing.find? fun upstream => decide (upstream.addr = addr)).getD
      (.discovered addr poolType now)).addr = addr := by
  cases found : existing.find? fun upstream => decide (upstream.addr = addr) with
  | none => rfl
  | some upstream => exact KeyedLists.key_of_find? found

/-- A merged pool lists the resolved addresses, or its old ones after a
failed lookup. -/
@[simp]
theorem addresses_mergePool (result : ResolveResult) :
    addresses (mergePool existing result poolType now) =
      result.resolvedSet (addresses existing) := by
  cases result with
  | failed => rfl
  | resolved resolved =>
      simp only [addresses, mergePool, List.map_map, ResolveResult.resolvedSet]
      calc
        resolved.map _ = resolved.map id :=
          List.map_congr_left fun addr _ => merged_addr addr
        _ = resolved := List.map_id resolved

/-- A merged pool keeps the window of every address it still lists. -/
theorem cooldownOf_mergePool_resolved (resolved : List SocketAddr) (addr : SocketAddr) :
    cooldownOf (mergePool existing (.resolved resolved) poolType now) addr =
      if addr ∈ resolved then cooldownOf existing addr else none := by
  simp only [mergePool]
  induction resolved with
  | nil => rfl
  | cons head rest ih =>
      rw [List.map_cons, cooldownOf_cons, merged_addr, ih]
      by_cases same : head = addr
      · subst head
        rw [if_pos rfl, if_pos List.mem_cons_self, cooldownOf]
        cases existing.find? fun upstream => decide (upstream.addr = addr) <;> rfl
      · have tailMem : addr ∈ head :: rest ↔ addr ∈ rest := by
          simp [Ne.symm same]
        simp only [if_neg same, tailMem]

end Merge

end BgeRouter
