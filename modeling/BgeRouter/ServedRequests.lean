import BgeRouter.PoolProvenance
import BgeRouter.RequestLegs

/-!
# Requests beside the background tasks

The request path and the background tasks meet in the pool: a load of a request
shows a snapshot of their run, and the `trip` calls of the run are those that
requests make.  Taken together, this leads every call to an upstream back to a
DNS answer and a poll, and every cooldown window to a request that had to give
its upstream up.
-/

namespace BgeRouter

open PartialRuns

/-- A client request that is served from `start` on. -/
structure ServedRequest where
  ctx : ForwardCtx
  reads : PoolReads
  start : Instant

def ServedRequest.effects (client : Client) (config : Config) (request : ServedRequest) :
    List (Instant × RouterEffect) :=
  (route client request.ctx request.reads config request.start).effects

/-- The requests are served beside this run of the background tasks. -/
structure ServedBeside (client : Client) (config : Config) (actions : List WriterAction)
    (requests : List ServedRequest) : Prop where
  /-- a load shows a snapshot that the run has visited -/
  shown : ∀ request ∈ requests, ∀ loads history, ∃ earlier later state,
    actions = earlier ++ later ∧ run writerStep .initial earlier = some state ∧
      request.reads loads history = state.snapshot
  /-- the `trip` calls of the run are made by the requests -/
  called : ∀ addr duration start, 0 < duration → TripStartedIn actions addr duration start →
    ∃ request ∈ requests, (start, .trip addr duration) ∈ request.effects client config

/-- The window that ends at `deadline` is the work of a request.  An upstream
had been selected for it that was resolved and that accepted requests by some
poll's report, and its leg on that upstream gave it up. -/
def WindowJustified (client : Client) (config : Config) (actions : List WriterAction)
    (requests : List ServedRequest) (now : Instant) (addr : SocketAddr)
    (deadline : Instant) : Prop :=
  ∃ request ∈ requests, ∃ poolType begins time,
    SelectionProvenance actions now (addr, poolType) ∧ request.start ≤ begins ∧
      GivesUp client config.retryConfig request.ctx (addr, poolType) begins time
        (.forPath request.ctx.pathAndQuery config) ∧
      deadline = time + config.cooldown

section Service

variable {client : Client} {config : Config} {actions : List WriterAction}
  {requests : List ServedRequest} {state : RouterState} {request : ServedRequest}

theorem SelectionProvenance.append {now later : Instant} {chosen : SocketAddr × PoolType}
    (provenance : SelectionProvenance actions now chosen) (order : now ≤ later)
    (rest : List WriterAction) :
    SelectionProvenance (actions ++ rest) later chosen where
  resolved := provenance.resolved.append rest
  reported := by
    obtain ⟨report, seen, reported, before, accepting⟩ := provenance.reported
    exact ⟨report, seen, reported.append rest, Nat.le_trans before order, accepting⟩

/-- What a load of a request selects comes from the run. -/
theorem ServedBeside.selectionProvenance
    (serves : ServedBeside client config actions requests)
    (reaches : run writerStep .initial actions = some state) (member : request ∈ requests)
    {selection : Instant} {chosen : SocketAddr × PoolType}
    (selected : SelectedBy request.reads selection chosen) :
    SelectionProvenance actions state.clock chosen := by
  obtain ⟨loads, history, selectedAt⟩ := selected
  obtain ⟨earlier, later, visited, rfl, reached, shows⟩ :=
    serves.shown request member loads history
  rw [shows] at selectedAt
  obtain ⟨again, reachedAgain, onward⟩ := run_append.mp reaches
  obtain rfl := Option.some.inj (reached.symm.trans reachedAgain)
  exact (selectionProvenance_of_selectedAt reached selectedAt).append
    (clock_le_of_run onward) later

/-- **What the router does to its upstreams is justified.**  Requests are sent
only to upstreams that were resolved and that accepted requests by some poll's
report, and only requests that gave such an upstream up put it into cooldown. -/
theorem servedBeside_justified (reaches : run writerStep .initial actions = some state)
    (serves : ServedBeside client config actions requests) :
    (∀ request ∈ requests, ∀ time addr poolType,
      (time, .forward addr poolType) ∈ request.effects client config →
        SelectionProvenance actions state.clock (addr, poolType)) ∧
    ∀ poolType, ∀ upstream ∈ state.snapshot.pool poolType, ∀ deadline,
      upstream.cooldownUntil = some deadline →
        WindowJustified client config actions requests state.clock upstream.addr
          deadline := by
  constructor
  · intro request member time addr poolType called
    cases effectOrigin_of_dispatch _ called with
    | forward selected => exact serves.selectionProvenance reaches member selected
  · intro poolType upstream listed deadline window
    have entry := (runProvenance_of_run reaches).pool.current poolType upstream listed
    obtain ⟨duration, start, started, positive, rfl⟩ := entry.window deadline window
    obtain ⟨request, member, tripped⟩ := serves.called _ _ _ positive started
    have origin := effectOrigin_of_dispatch _ tripped
    generalize upstream.addr = addr at origin
    cases origin with
    | trip selected after order order' givesUp =>
        exact ⟨request, member, _, _, _,
          serves.selectionProvenance reaches member selected, Nat.le_trans after order,
          givesUp, rfl⟩

end Service

/-- An inference request to a GPU upstream that refuses connections, with no
retries. -/
def refusedRequest : ServedRequest where
  ctx := .get "/v1/embeddings"
  reads := fun _ _ => ⟨[⟨.sampleGpu, .gpu, .ok, 0, 1, 0, none⟩], [], 0⟩
  start := 0

/-- The run in which it is served and its trip takes effect. -/
def runOfRefusedRequest : List WriterAction :=
  pollInFlight ++ [.pollStore, .tripStart .sampleGpu Config.default.cooldown,
    .tripFastPath 0, .tripRcu 0]

theorem servedBeside_refusedRequest :
    ServedBeside (.uniform (some (0, .error .request)))
      { Config.default with retryCount := 0 } runOfRefusedRequest [refusedRequest] where
  shown := by
    intro request member loads history
    obtain rfl := List.mem_singleton.mp member
    exact ⟨pollInFlight ++ [.pollStore], _, _, rfl, rfl, rfl⟩
  called := by
    intro addr duration start positive started
    obtain rfl : start = 0 := Nat.le_zero.mp (started.start_le rfl)
    obtain ⟨state, performed, -⟩ := started
    have called := performed.mem
    simp [runOfRefusedRequest, pollInFlight] at called
    obtain ⟨rfl, rfl⟩ := called
    exact ⟨refusedRequest, List.mem_singleton_self _, by decide⟩

theorem refusedRequest_justified :
    ∃ state, run writerStep .initial runOfRefusedRequest = some state ∧
      state.snapshot.gpu =
        [⟨.sampleGpu, .gpu, .ok, 0, 1, 0, some Config.default.cooldown⟩] ∧
      WindowJustified (.uniform (some (0, .error .request)))
        { Config.default with retryCount := 0 } runOfRefusedRequest [refusedRequest]
        state.clock .sampleGpu Config.default.cooldown :=
  ⟨_, rfl, by decide, (servedBeside_justified rfl servedBeside_refusedRequest).2 .gpu _
    List.mem_cons_self _ rfl⟩

end BgeRouter
