import BgeRouter.Library.FixedWidthSums
import BgeRouter.HealthReports
import BgeRouter.PoolWriters

/-!
# The queue sums of the heartbeat

The heartbeat adds up queue depths that come from the health responses as they
are, in words as wide as one of them.  A release build wraps around and a debug
build panics, so the sums are exact as long as the depths of each stored pool
fit together into one word.
-/

namespace BgeRouter

open PartialRuns

/-- `u32` as words of fixed width. -/
def u32Width : FixedWidth UInt32 where
  zero := 0
  add := fun first second => first + second
  toNat := UInt32.toNat
  size := u32Max + 1
  toNat_lt := UInt32.toNat_lt
  toNat_zero := rfl
  toNat_add := UInt32.toNat_add

/-- The sum in a debug build, or `none` where it panics. -/
def debugQueueDepthSum (pool : List UpstreamInfo) : Option UInt32 :=
  u32Width.checkedSum (pool.map UpstreamInfo.queueDepth)

def queueDepthTotal (pool : List UpstreamInfo) : Nat :=
  (pool.map fun upstream => upstream.queueDepth.toNat).sum

/-- Both emitted sums are the mathematical ones, and a debug build emits the
same. -/
structure HeartbeatExact (snapshot : PoolSnapshot) : Prop where
  gpu : (emitHeartbeat snapshot).gpuQueueDepthSum.toNat = queueDepthTotal snapshot.gpu
  cpu : (emitHeartbeat snapshot).cpuQueueDepthSum.toNat = queueDepthTotal snapshot.cpu
  debugGpu : debugQueueDepthSum snapshot.gpu = some (emitHeartbeat snapshot).gpuQueueDepthSum
  debugCpu : debugQueueDepthSum snapshot.cpu = some (emitHeartbeat snapshot).cpuQueueDepthSum

/-- The queue depths of each pool fit together into one word. -/
def DepthsFit (snapshot : PoolSnapshot) : Prop :=
  ∀ poolType, queueDepthTotal (snapshot.pool poolType) ≤ u32Max

/-- The depth that a refresh carries over for an address, zero if it is new. -/
def carriedDepth (existing : List UpstreamInfo) (addr : SocketAddr) : Nat :=
  (existing.find? fun upstream => decide (upstream.addr = addr)).elim 0
    fun upstream => upstream.queueDepth.toNat

/-- The depth of an entry after a poll: what was reported of it, if anything. -/
def polledDepth (results : List PollResult) (upstream : UpstreamInfo) : Nat :=
  (results.find? fun result => decide (result.addr = upstream.addr)).elim
    upstream.queueDepth.toNat fun result => result.queueDepth.toNat

/-- When a refresh or a poll stores, the depths it stores for each pool add up
to a word. -/
def StoredDepthsFit (state : RouterState) : WriterAction → Prop
  | .refreshStore => ∀ base, state.pool.loaded .discovery = some base →
      ∀ poolType addrs, state.answer poolType = .resolved addrs →
        (addrs.map (carriedDepth (base.pool poolType))).sum ≤ u32Max
  | .pollStore => ∀ base, state.pool.loaded .health = some base →
      ∀ poolType, ((base.pool poolType).map (polledDepth state.pollResults)).sum ≤ u32Max
  | _ => True

section Sums

variable {snapshot : PoolSnapshot} {pool : List UpstreamInfo}

theorem queueDepthTotal_eq_total :
    queueDepthTotal pool = u32Width.total (pool.map UpstreamInfo.queueDepth) := by
  rw [queueDepthTotal, FixedWidth.total, List.map_map]
  rfl

theorem queueDepthSum_eq_wrappingSum :
    queueDepthSum pool = u32Width.wrappingSum (pool.map UpstreamInfo.queueDepth) := by
  rw [queueDepthSum, FixedWidth.wrappingSum, List.foldl_map]
  rfl

theorem toNat_queueDepthSum_iff :
    (queueDepthSum pool).toNat = queueDepthTotal pool ↔ queueDepthTotal pool ≤ u32Max := by
  rw [queueDepthSum_eq_wrappingSum, queueDepthTotal_eq_total, ← Nat.lt_succ_iff]
  exact u32Width.toNat_wrappingSum_eq_iff _

theorem debugQueueDepthSum_iff :
    debugQueueDepthSum pool = some (queueDepthSum pool) ↔ queueDepthTotal pool ≤ u32Max := by
  rw [debugQueueDepthSum, queueDepthSum_eq_wrappingSum, queueDepthTotal_eq_total,
    ← Nat.lt_succ_iff]
  exact u32Width.checkedSum_eq_some_iff _

/-- A heartbeat is exact as long as the depths fit. -/
theorem heartbeatExact_iff : HeartbeatExact snapshot ↔ DepthsFit snapshot := by
  constructor
  · intro exact poolType
    cases poolType with
    | gpu => exact toNat_queueDepthSum_iff.mp exact.gpu
    | cpu => exact toNat_queueDepthSum_iff.mp exact.cpu
  · intro fit
    exact {
      gpu := toNat_queueDepthSum_iff.mpr (fit .gpu)
      cpu := toNat_queueDepthSum_iff.mpr (fit .cpu)
      debugGpu := debugQueueDepthSum_iff.mpr (fit .gpu)
      debugCpu := debugQueueDepthSum_iff.mpr (fit .cpu) }

end Sums

section Updates

variable {pool existing : List UpstreamInfo} {poolType : PoolType} {now : Instant}

theorem queueDepthTotal_updatePool (results : List PollResult) :
    queueDepthTotal (updatePool pool results now) = (pool.map (polledDepth results)).sum := by
  rw [queueDepthTotal, updatePool, List.map_map]
  congr 1
  apply List.map_congr_left
  intro upstream _
  rw [Function.comp_apply, polledDepth]
  cases results.find? fun result => decide (result.addr = upstream.addr) <;> rfl

theorem queueDepthTotal_mergePool_resolved (addrs : List SocketAddr) :
    queueDepthTotal (mergePool existing (.resolved addrs) poolType now) =
      (addrs.map (carriedDepth existing)).sum := by
  rw [queueDepthTotal, mergePool, List.map_map]
  congr 1
  apply List.map_congr_left
  intro addr _
  rw [Function.comp_apply, carriedDepth]
  cases existing.find? fun upstream => decide (upstream.addr = addr) <;> rfl

theorem queueDepthTotal_tripPool (addr : SocketAddr) (deadline : Instant) :
    queueDepthTotal (tripPool addr deadline now pool).1 = queueDepthTotal pool := by
  induction pool with
  | nil => rfl
  | cons upstream rest induction =>
      by_cases same : upstream.addr = addr
      · cases cooling : upstream.isInCooldown now with
        | true => rw [tripPool_cons_of_cooling same cooling]
        | false =>
            rw [tripPool_cons_of_idle same cooling]
            rfl
      · rw [tripPool_cons_of_ne same, queueDepthTotal, List.map_cons, List.sum_cons]
        exact congrArg (upstream.queueDepth.toNat + ·) induction

end Updates

section Runs

variable {state next : RouterState} {action : WriterAction}

/-- The depths fit in the snapshot and in those that are loaded. -/
def AllDepthsFit (state : RouterState) : Prop :=
  state.pool.Settled DepthsFit fun _ => DepthsFit

theorem initial_allDepthsFit : AllDepthsFit .initial where
  current := by
    intro poolType
    cases poolType <;> decide
  loaded := by
    intro task base loaded
    cases loaded

theorem AllDepthsFit.step (fit : AllDepthsFit state)
    (enabled : writerStep state action = some next) (guarded : StoredDepthsFit state action) :
    AllDepthsFit next := by
  cases writerStep_effect enabled with
  | quiet later pool answers history =>
      rw [AllDepthsFit, pool]
      exact fit
  | refreshLoad gpuResult cpuResult idle clock pool history =>
      rw [AllDepthsFit, pool]
      exact fit.load id
  | refreshStore clock pool answers history =>
      apply fit.store pool
      intro base loaded baseFits poolType
      rw [merge_pool]
      cases answer : state.answer poolType with
      | failed =>
          have kept : resultFor state.gpuResult state.cpuResult poolType = .failed := answer
          rw [kept]
          exact baseFits poolType
      | resolved addrs =>
          have stored : resultFor state.gpuResult state.cpuResult poolType =
              .resolved addrs := answer
          rw [stored, queueDepthTotal_mergePool_resolved]
          exact guarded base loaded poolType addrs answer
  | pollLoad results clock pool answers history =>
      rw [AllDepthsFit, pool]
      exact fit.load id
  | pollStore clock pool answers history =>
      apply fit.store pool
      intro base loaded _ poolType
      rw [applyUpdates_pool, queueDepthTotal_updatePool]
      exact guarded base loaded poolType
  | tripRcu call addr deadline pending clock pool answers history =>
      rw [AllDepthsFit, pool]
      apply fit.modify
      intro current poolType
      rw [tripRcu_pool, queueDepthTotal_tripPool]
      exact current poolType

/-- A store whose depths do not fit makes the next heartbeat wrong. -/
theorem storedDepthsFit_of_depthsFit (enabled : writerStep state action = some next)
    (fits : DepthsFit next.snapshot) : StoredDepthsFit state action := by
  cases action with
  | refreshStore =>
      intro base loaded poolType addrs answer
      obtain ⟨stored, stores, -, merged⟩ := refreshStore_of_loaded loaded
      obtain rfl := Option.some.inj (enabled.symm.trans stores)
      have total := fits poolType
      rw [(merged poolType).1, answer, queueDepthTotal_mergePool_resolved] at total
      exact total
  | pollStore =>
      intro base loaded poolType
      obtain ⟨stored, stores, -, snapshot, -⟩ := pollStore_of_loaded loaded
      obtain rfl := Option.some.inj (enabled.symm.trans stores)
      have total := fits poolType
      rw [snapshot, applyUpdates_pool, queueDepthTotal_updatePool] at total
      exact total
  | _ => exact trivial

/-- **Heartbeats are exact throughout a run** exactly when every refresh and
every poll of the run stores depths that fit. -/
theorem heartbeatExact_throughout_iff (actions : List WriterAction) :
    Throughout writerStep (fun state => HeartbeatExact state.snapshot) .initial actions ↔
      Along writerStep StoredDepthsFit .initial actions :=
  throughout_iff_along AllDepthsFit
    (fun _ fit => heartbeatExact_iff.mpr fit.current)
    (fun _ _ _ fit enabled guarded => fit.step enabled guarded)
    (fun _ _ _ _ enabled exact =>
      storedDepthsFit_of_depthsFit enabled (heartbeatExact_iff.mp exact))
    initial_allDepthsFit

/-- Two GPU tasks report a full queue and a queue of one request. -/
def fullQueues : List WriterAction :=
  [.refreshLoad (.resolved [.sampleGpu, .samplePeer]) .failed, .refreshStore, .pollStart,
    .pollLoad
      [pollOne .sampleGpu (.success (some ⟨"ok", some ⟨1⟩, some 4294967295⟩)),
        pollOne .samplePeer (.success (some ⟨"ok", some ⟨1⟩, some 1⟩))],
    .pollStore]

/-- Their depths add up to zero, or to a panic. -/
theorem fullQueues_wrap :
    ¬ ∀ (actions : List WriterAction) (state : RouterState),
      run writerStep .initial actions = some state → HeartbeatExact state.snapshot := by
  intro exact
  have emitted := (exact fullQueues _ rfl).gpu
  exact absurd emitted (by decide)

end Runs

end BgeRouter
