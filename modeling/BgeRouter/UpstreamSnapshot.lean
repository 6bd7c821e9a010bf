import BgeRouter.Library.KeyedLists
import Mathlib.Data.Option.Basic

/-!
# Upstream snapshots

The routing state of `bge-router` is one immutable `PoolSnapshot`: the GPU and
the CPU upstreams with everything the router knows about each of them.
Background tasks replace the snapshot as a whole, and the request path only
reads it.  Instants and durations are counted in nanoseconds.
-/

namespace BgeRouter

/-- `u32::MAX`. -/
def u32Max : Nat := 4294967295

/-- `u64::MAX`. -/
def u64Max : Nat := 18446744073709551615

/-- A reading of the monotonic clock. -/
abbrev Instant := Nat

abbrev Duration := Nat

namespace Duration

def fromSecs (secs : Nat) : Duration := secs * 1000000000

def fromMillis (millis : Nat) : Duration := millis * 1000000

/-- `Duration::MAX`: `u64::MAX` seconds and 999 999 999 nanoseconds. -/
def maxValue : Duration := u64Max * 1000000000 + 999999999

def saturatingMul (duration : Duration) (factor : Nat) : Duration :=
  min (duration * factor) maxValue

end Duration

/-- URL scheme used when contacting upstream instances. -/
inductive UpstreamScheme where
  | http
  | https
deriving DecidableEq, Repr

def UpstreamScheme.asStr : UpstreamScheme → String
  | .http => "http"
  | .https => "https"

/-- The bytes a socket address prints, each of them visible ASCII. -/
def VisibleAscii (text : String) : Prop :=
  text.toByteArray.data.toList.all (fun byte => 32 ≤ byte && byte < 127) = true

instance (text : String) : Decidable (VisibleAscii text) :=
  inferInstanceAs (Decidable (_ = true))

/-- A socket address, identified with the text its `Display` prints. -/
structure SocketAddr where
  text : String
  visible : VisibleAscii text
deriving DecidableEq

namespace SocketAddr

/-- Tasks of a fleet, for concrete runs. -/
def sampleGpu : SocketAddr := ⟨"10.0.0.1:8081", by decide⟩

def sampleCpu : SocketAddr := ⟨"10.0.0.2:8081", by decide⟩

def samplePeer : SocketAddr := ⟨"10.0.0.3:8081", by decide⟩

end SocketAddr

/-- Which class of hardware an upstream runs on. -/
inductive PoolType where
  | gpu
  | cpu
deriving DecidableEq, Repr

def PoolType.asStr : PoolType → String
  | .gpu => "gpu"
  | .cpu => "cpu"

/-- Health status of a single upstream. -/
inductive UpstreamStatus where
  | ok
  | loading
  | fail
  | unknown
deriving DecidableEq, Repr

/-- Reads the `status` field of an upstream's `/health` response. -/
def UpstreamStatus.parse (text : String) : UpstreamStatus :=
  if text = "ok" ∨ text = "warn" then .ok
  else if text = "loading" ∨ text = "idle" then .loading
  else if text = "fail" then .fail
  else .unknown

/-- All known information about a single upstream instance. -/
structure UpstreamInfo where
  addr : SocketAddr
  poolType : PoolType
  status : UpstreamStatus
  queueDepth : UInt32
  liveWorkers : UInt32
  lastSeen : Instant
  cooldownUntil : Option Instant
deriving DecidableEq

/-- An upstream is in cooldown while the end of its window lies ahead. -/
def UpstreamInfo.isInCooldown (upstream : UpstreamInfo) (now : Instant) : Bool :=
  upstream.cooldownUntil.any fun deadline => decide (now < deadline)

/-- Both upstream pools at a point in time. -/
structure PoolSnapshot where
  gpu : List UpstreamInfo
  cpu : List UpstreamInfo
  updatedAt : Instant
deriving DecidableEq

namespace PoolSnapshot

/-- The snapshot the process starts from. -/
def default (now : Instant) : PoolSnapshot := ⟨[], [], now⟩

def pool (snapshot : PoolSnapshot) : PoolType → List UpstreamInfo
  | .gpu => snapshot.gpu
  | .cpu => snapshot.cpu

def entries (snapshot : PoolSnapshot) : List UpstreamInfo :=
  snapshot.gpu ++ snapshot.cpu

@[simp]
theorem pool_gpu (snapshot : PoolSnapshot) : snapshot.pool .gpu = snapshot.gpu :=
  rfl

@[simp]
theorem pool_cpu (snapshot : PoolSnapshot) : snapshot.pool .cpu = snapshot.cpu :=
  rfl

theorem mem_entries {snapshot : PoolSnapshot} {upstream : UpstreamInfo} :
    upstream ∈ snapshot.entries ↔ ∃ poolType, upstream ∈ snapshot.pool poolType := by
  constructor
  · intro member
    rcases List.mem_append.mp member with inGpu | inCpu
    · exact ⟨.gpu, inGpu⟩
    · exact ⟨.cpu, inCpu⟩
  · rintro ⟨poolType, member⟩
    cases poolType with
    | gpu => exact List.mem_append_left _ member
    | cpu => exact List.mem_append_right _ member

end PoolSnapshot

def addresses (pool : List UpstreamInfo) : List SocketAddr :=
  pool.map UpstreamInfo.addr

def PoolSnapshot.DistinctAddresses (snapshot : PoolSnapshot) : Prop :=
  (addresses snapshot.entries).Nodup

instance (snapshot : PoolSnapshot) : Decidable snapshot.DistinctAddresses :=
  inferInstanceAs (Decidable (List.Nodup _))

theorem addresses_entries (snapshot : PoolSnapshot) :
    addresses snapshot.entries =
      addresses (snapshot.pool .gpu) ++ addresses (snapshot.pool .cpu) :=
  List.map_append

theorem PoolSnapshot.distinctAddresses_iff {snapshot : PoolSnapshot} :
    snapshot.DistinctAddresses ↔
      (addresses (snapshot.pool .gpu)).Nodup ∧ (addresses (snapshot.pool .cpu)).Nodup ∧
        ∀ gpuAddr ∈ addresses (snapshot.pool .gpu),
          ∀ cpuAddr ∈ addresses (snapshot.pool .cpu), gpuAddr ≠ cpuAddr := by
  rw [DistinctAddresses, addresses_entries, List.nodup_append]

/-- With distinct addresses an address belongs to one entry of one pool. -/
theorem PoolSnapshot.DistinctAddresses.unique {snapshot : PoolSnapshot}
    (distinct : snapshot.DistinctAddresses) {first second : UpstreamInfo}
    {firstPool secondPool : PoolType} (firstMember : first ∈ snapshot.pool firstPool)
    (secondMember : second ∈ snapshot.pool secondPool) (same : first.addr = second.addr) :
    firstPool = secondPool ∧ first = second := by
  have entry : first = second :=
    List.inj_on_of_nodup_map distinct (mem_entries.mpr ⟨firstPool, firstMember⟩)
      (mem_entries.mpr ⟨secondPool, secondMember⟩) same
  subst entry
  refine ⟨?_, rfl⟩
  have disjoint := (distinctAddresses_iff.mp distinct).2.2
  have inFirst := @List.mem_map_of_mem _ _ _ _ UpstreamInfo.addr firstMember
  have inSecond := @List.mem_map_of_mem _ _ _ _ UpstreamInfo.addr secondMember
  cases firstPool with
  | gpu =>
      cases secondPool with
      | gpu => rfl
      | cpu => exact absurd rfl (disjoint _ inFirst _ inSecond)
  | cpu =>
      cases secondPool with
      | gpu => exact absurd rfl (disjoint _ inSecond _ inFirst)
      | cpu => rfl

theorem PoolSnapshot.DistinctAddresses.pool {snapshot : PoolSnapshot}
    (distinct : snapshot.DistinctAddresses) (poolType : PoolType) :
    (addresses (snapshot.pool poolType)).Nodup := by
  cases poolType with
  | gpu => exact (distinctAddresses_iff.mp distinct).1
  | cpu => exact (distinctAddresses_iff.mp distinct).2.1

/-- The end of the cooldown window of the entry a lookup of `addr` finds. -/
def cooldownOf (pool : List UpstreamInfo) (addr : SocketAddr) : Option Instant :=
  (pool.find? fun upstream => decide (upstream.addr = addr)).bind
    UpstreamInfo.cooldownUntil

section Cooldown

variable {upstream : UpstreamInfo} {now later : Instant}

theorem isInCooldown_iff :
    upstream.isInCooldown now = true ↔
      ∃ deadline, upstream.cooldownUntil = some deadline ∧ now < deadline := by
  cases window : upstream.cooldownUntil with
  | none => simp [UpstreamInfo.isInCooldown, window]
  | some deadline => simp [UpstreamInfo.isInCooldown, window]

theorem isInCooldown_of_le (order : now ≤ later)
    (running : upstream.isInCooldown later = true) :
    upstream.isInCooldown now = true := by
  obtain ⟨deadline, window, ahead⟩ := isInCooldown_iff.mp running
  exact isInCooldown_iff.mpr ⟨deadline, window, Nat.lt_of_le_of_lt order ahead⟩

theorem not_isInCooldown_of_le (order : now ≤ later)
    (closed : upstream.isInCooldown now = false) :
    upstream.isInCooldown later = false := by
  cases running : upstream.isInCooldown later with
  | false => rfl
  | true =>
      rw [isInCooldown_of_le order running] at closed
      exact Bool.noConfusion closed

end Cooldown

section Lookup

variable {pool : List UpstreamInfo} {addr : SocketAddr}

@[simp]
theorem cooldownOf_nil : cooldownOf [] addr = none :=
  rfl

theorem cooldownOf_cons (upstream : UpstreamInfo) (rest : List UpstreamInfo) :
    cooldownOf (upstream :: rest) addr =
      if upstream.addr = addr then upstream.cooldownUntil else cooldownOf rest addr := by
  by_cases found : upstream.addr = addr <;> simp [cooldownOf, found]

@[simp]
theorem mem_addresses :
    addr ∈ addresses pool ↔ ∃ upstream ∈ pool, upstream.addr = addr := by
  simp [addresses]

theorem cooldownOf_of_not_mem (absent : addr ∉ addresses pool) :
    cooldownOf pool addr = none := by
  have missing : (pool.find? fun upstream => decide (upstream.addr = addr)) = none := by
    apply KeyedLists.find?_eq_none_iff.mpr
    intro upstream member same
    exact absent (mem_addresses.mpr ⟨upstream, member, same⟩)
  rw [cooldownOf, missing]
  rfl

theorem cooldownOf_of_mem (distinct : (addresses pool).Nodup)
    {upstream : UpstreamInfo} (member : upstream ∈ pool) :
    cooldownOf pool upstream.addr = upstream.cooldownUntil := by
  rw [cooldownOf, KeyedLists.find?_of_mem distinct member rfl]
  rfl

end Lookup

end BgeRouter
