import BgeRouter.UpstreamSnapshot

/-!
# Health polling

Each cycle polls `/health` on every known upstream and then rebuilds the
entries that got a result, in a snapshot read after the network wait.
-/

namespace BgeRouter

/-- What one poll of `/health` reported. -/
structure PollResult where
  addr : SocketAddr
  status : UpstreamStatus
  queueDepth : UInt32
  liveWorkers : UInt32
deriving DecidableEq

structure WorkersField where
  live : UInt32
deriving DecidableEq

/-- The part of a `/health` response that the router reads. -/
structure BgeMHealthResponse where
  status : String
  workers : Option WorkersField
  queueDepth : Option UInt32
deriving DecidableEq

/-- How the request of a poll ends. -/
inductive PollOutcome where
  /-- a success status, with the body unless it cannot be decoded -/
  | success (body : Option BgeMHealthResponse)
  | otherStatus
  | noResponse
deriving DecidableEq

def pollOne (addr : SocketAddr) : PollOutcome → PollResult
  | .success (some body) =>
      { addr := addr
        status := .parse body.status
        queueDepth := body.queueDepth.getD 0
        liveWorkers := body.workers.elim 0 WorkersField.live }
  | .success none => ⟨addr, .unknown, 0, 0⟩
  | .otherStatus => ⟨addr, .fail, 0, 0⟩
  | .noResponse => ⟨addr, .fail, 0, 0⟩

def updatePool (pool : List UpstreamInfo) (results : List PollResult) (now : Instant) :
    List UpstreamInfo :=
  pool.map fun upstream =>
    match results.find? fun result => decide (result.addr = upstream.addr) with
    | some result =>
        { addr := upstream.addr
          poolType := upstream.poolType
          status := result.status
          queueDepth := result.queueDepth
          liveWorkers := result.liveWorkers
          lastSeen := now
          cooldownUntil := upstream.cooldownUntil }
    | none => upstream

def applyUpdates (current : PoolSnapshot) (results : List PollResult) (now : Instant) :
    PoolSnapshot where
  gpu := updatePool current.gpu results now
  cpu := updatePool current.cpu results now
  updatedAt := now

section Updates

variable {results : List PollResult} {now : Instant}

@[simp]
theorem applyUpdates_pool (current : PoolSnapshot) (poolType : PoolType) :
    (applyUpdates current results now).pool poolType =
      updatePool (current.pool poolType) results now := by
  cases poolType <;> rfl

@[simp]
theorem addresses_updatePool (pool : List UpstreamInfo) :
    addresses (updatePool pool results now) = addresses pool := by
  simp only [addresses, updatePool, List.map_map]
  apply List.map_congr_left
  intro upstream _
  simp only [Function.comp_apply]
  split <;> rfl

@[simp]
theorem cooldownOf_updatePool (pool : List UpstreamInfo) (addr : SocketAddr) :
    cooldownOf (updatePool pool results now) addr = cooldownOf pool addr := by
  induction pool with
  | nil => rfl
  | cons upstream rest ih =>
      simp only [updatePool, List.map_cons] at ih ⊢
      rw [cooldownOf_cons, cooldownOf_cons, ih]
      split <;> rfl

end Updates

end BgeRouter
