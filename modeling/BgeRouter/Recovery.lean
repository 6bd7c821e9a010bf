import BgeRouter.CooldownExpiry

/-!
# Recovery in a stable environment

Interleavings may leave the snapshot with addresses, reports and windows that
are out of date.  Nothing of that lasts.  Once DNS keeps giving the same answers
and every upstream only such reports as it may give, a single refresh followed
by a single poll, undisturbed by each other, brings the snapshot to what they
say, from whatever state the router was in.  From then on every interleaving
keeps it there.
-/

namespace BgeRouter

open PartialRuns

section Environment

variable (dns : PoolType → List SocketAddr) (health : SocketAddr → HealthReport → Prop)

/-- The pools list what DNS does, in any order. -/
def ListsDns (snapshot : PoolSnapshot) : Prop :=
  ∀ poolType, (addresses (snapshot.pool poolType)).Perm (dns poolType)

/-- The entries have reports that their upstreams may give. -/
def ReportsHealth (snapshot : PoolSnapshot) : Prop :=
  ∀ poolType, ∀ upstream ∈ snapshot.pool poolType, health upstream.addr upstream.report

/-- The snapshot says what DNS and the upstreams do. -/
structure AgreesWith (snapshot : PoolSnapshot) : Prop where
  lists : ListsDns dns snapshot
  reports : ReportsHealth health snapshot

/-- A lookup fails or gives the addresses of the environment. -/
def RightAnswers (answer : PoolType → ResolveResult) : Prop :=
  ∀ poolType addrs, answer poolType = .resolved addrs → addrs.Perm (dns poolType)

/-- Both lookups give these addresses. -/
def Resolves (answer : PoolType → ResolveResult) : Prop :=
  ∀ poolType, ∃ addrs, answer poolType = .resolved addrs ∧ addrs.Perm (dns poolType)

/-- No lookup answers wrongly, and a poll that hears from an upstream hears its steady report. -/
def StableAction : WriterAction → Prop
  | .refreshLoad gpuResult cpuResult => RightAnswers dns (resultFor gpuResult cpuResult)
  | .pollLoad results => ∀ result ∈ results, health result.addr result.report
  | _ => True

/-- The shared snapshot, and those that the tasks have loaded, list what DNS
does, and so do the answers still to be stored. -/
structure Listed (state : RouterState) : Prop where
  pool : state.pool.Settled (ListsDns dns) fun _ => ListsDns dns
  answers : RightAnswers dns state.answer

/-- All of them agree with the environment, and so do the results still to be
stored. -/
structure Converged (state : RouterState) : Prop where
  pool : state.pool.Settled (AgreesWith dns health) fun _ => AgreesWith dns health
  answers : RightAnswers dns state.answer
  results : ∀ result ∈ state.pollResults, health result.addr result.report

/-- A refresh stores two answers of DNS while no poll is between its final load
and its store. -/
structure StoresDns (state next : RouterState) : Prop where
  enabled : writerStep state .refreshStore = some next
  undisturbed : state.pool.loaded .health = none
  answers : Resolves dns state.answer

/-- A poll that has heard from every upstream stores its results while no
refresh is between its final load and its store. -/
structure StoresHealth (state next : RouterState) : Prop where
  enabled : writerStep state .pollStore = some next
  undisturbed : state.pool.loaded .discovery = none
  steady : ∀ result ∈ state.pollResults, health result.addr result.report
  heard : ∀ poolType, ∀ addr ∈ dns poolType, ∃ result ∈ state.pollResults,
    result.addr = addr

end Environment

section Windows

variable {dns : PoolType → List SocketAddr} {health : SocketAddr → HealthReport → Prop}

theorem listsDns_tripRcu {snapshot : PoolSnapshot} {addr : SocketAddr}
    {deadline now : Instant} (lists : ListsDns dns snapshot) :
    ListsDns dns (tripRcu snapshot addr deadline now) := by
  intro poolType
  rw [tripRcu_pool, addresses_tripPool]
  exact lists poolType

/-- What a snapshot says of its upstreams does not depend on windows. -/
theorem agreesWith_tripRcu {snapshot : PoolSnapshot} {addr : SocketAddr}
    {deadline now : Instant} (agrees : AgreesWith dns health snapshot) :
    AgreesWith dns health (tripRcu snapshot addr deadline now) where
  lists := listsDns_tripRcu agrees.lists
  reports := by
    intro poolType upstream member
    rw [tripRcu_pool] at member
    obtain ⟨earlier, listed, window, rfl⟩ := exists_of_mem_tripPool member
    exact agrees.reports poolType earlier listed

end Windows

section Updates

variable {dns : PoolType → List SocketAddr} {health : SocketAddr → HealthReport → Prop}
  {snapshot : PoolSnapshot} {gpuResult cpuResult : ResolveResult} {now : Instant}
  {results : List PollResult}

theorem listsDns_merge (lists : ListsDns dns snapshot)
    (answers : RightAnswers dns (resultFor gpuResult cpuResult)) :
    ListsDns dns (merge snapshot gpuResult cpuResult now) := by
  intro poolType
  rw [merge_pool, addresses_mergePool]
  cases answer : resultFor gpuResult cpuResult poolType with
  | failed => exact lists poolType
  | resolved addrs => exact answers poolType addrs answer

/-- Where an answer names no address that the pool does not list, the merge
carries every entry over. -/
theorem mem_of_mem_mergePool {existing : List UpstreamInfo} {result : ResolveResult}
    {poolType : PoolType} {upstream : UpstreamInfo}
    (known : ∀ addrs, result = .resolved addrs → ∀ addr ∈ addrs, addr ∈ addresses existing)
    (member : upstream ∈ mergePool existing result poolType now) : upstream ∈ existing := by
  cases result with
  | failed => exact member
  | resolved addrs =>
      obtain ⟨addr, listed, rfl⟩ := List.mem_map.mp member
      cases found : existing.find? fun upstream => decide (upstream.addr = addr) with
      | some earlier => exact List.mem_of_find?_eq_some found
      | none =>
          obtain ⟨earlier, earlierMember, same⟩ := mem_addresses.mp (known addrs rfl addr listed)
          exact absurd same (KeyedLists.find?_eq_none_iff.mp found earlier earlierMember)

theorem agreesWith_merge (agrees : AgreesWith dns health snapshot)
    (answers : RightAnswers dns (resultFor gpuResult cpuResult)) :
    AgreesWith dns health (merge snapshot gpuResult cpuResult now) where
  lists := listsDns_merge agrees.lists answers
  reports := by
    intro poolType upstream member
    rw [merge_pool] at member
    refine agrees.reports poolType upstream (mem_of_mem_mergePool ?_ member)
    intro addrs answer addr listed
    exact (agrees.lists poolType).mem_iff.mpr ((answers poolType addrs answer).mem_iff.mp listed)

theorem listsDns_applyUpdates (lists : ListsDns dns snapshot) :
    ListsDns dns (applyUpdates snapshot results now) := by
  intro poolType
  rw [applyUpdates_pool, addresses_updatePool]
  exact lists poolType

/-- An update with steady results agrees for every entry that has a result, or
that agreed before. -/
theorem report_updateEntry
    (steady : ∀ result ∈ results, health result.addr result.report)
    {upstream : UpstreamInfo}
    (heard : (∃ result ∈ results, result.addr = upstream.addr) ∨
      health upstream.addr upstream.report) :
    health upstream.addr (updateEntry results now upstream).report := by
  cases found : results.find? fun result => decide (result.addr = upstream.addr) with
  | some result =>
      have sameAddr : result.addr = upstream.addr := KeyedLists.key_of_find? found
      rw [updateEntry, found, ← sameAddr]
      exact steady result (List.mem_of_find?_eq_some found)
  | none =>
      rw [updateEntry, found]
      rcases heard with ⟨result, member, same⟩ | agreed
      · exact absurd same (KeyedLists.find?_eq_none_iff.mp found result member)
      · exact agreed

theorem reportsHealth_applyUpdates
    (steady : ∀ result ∈ results, health result.addr result.report)
    (heard : ∀ poolType, ∀ upstream ∈ snapshot.pool poolType,
      (∃ result ∈ results, result.addr = upstream.addr) ∨
        health upstream.addr upstream.report) :
    ReportsHealth health (applyUpdates snapshot results now) := by
  intro poolType upstream member
  rw [applyUpdates_pool, updatePool_eq_map] at member
  obtain ⟨earlier, earlierMember, rfl⟩ := List.mem_map.mp member
  rw [addr_updateEntry]
  exact report_updateEntry steady (heard poolType earlier earlierMember)

end Updates

section Steps

variable {dns : PoolType → List SocketAddr} {health : SocketAddr → HealthReport → Prop}
  {state next later : RouterState} {action : WriterAction} {actions : List WriterAction}

/-- Lookups, wherever this step loads their answers, answer rightly. -/
def LoadsRightly (dns : PoolType → List SocketAddr) (action : WriterAction) : Prop :=
  ∀ gpuResult cpuResult, action = .refreshLoad gpuResult cpuResult →
    RightAnswers dns (resultFor gpuResult cpuResult)

theorem StableAction.loadsRightly (stable : StableAction dns health action) :
    LoadsRightly dns action := by
  rintro gpuResult cpuResult rfl
  exact stable

theorem answers_of_step (answers : RightAnswers dns state.answer)
    (enabled : writerStep state action = some next) (loads : LoadsRightly dns action) :
    RightAnswers dns next.answer := by
  rcases answer_of_step enabled with same | ⟨gpuResult, cpuResult, rfl, loaded⟩
  · rw [same]
    exact answers
  · rw [loaded]
    exact loads gpuResult cpuResult rfl

theorem Listed.step (listed : Listed dns state)
    (enabled : writerStep state action = some next) (loads : LoadsRightly dns action) :
    Listed dns next where
  pool := settled_of_step listed.pool enabled
    (fun _ _ lists => listsDns_merge lists listed.answers)
    (fun _ _ lists => listsDns_applyUpdates lists)
    (fun _ _ _ _ lists => listsDns_tripRcu lists)
  answers := answers_of_step listed.answers enabled loads

theorem Converged.step (converged : Converged dns health state)
    (enabled : writerStep state action = some next) (stable : StableAction dns health action) :
    Converged dns health next where
  pool := by
    refine settled_of_step converged.pool enabled
      (fun _ _ agrees => agreesWith_merge agrees converged.answers) (fun _ base agrees => ?_)
      (fun _ _ _ _ agrees => agreesWith_tripRcu agrees)
    refine ⟨listsDns_applyUpdates agrees.lists, ?_⟩
    exact reportsHealth_applyUpdates converged.results fun poolType upstream member =>
      Or.inr (agrees.reports poolType upstream member)
  answers := answers_of_step converged.answers enabled stable.loadsRightly
  results := by
    rcases pollResults_of_step enabled with same | rfl
    · rw [same]
      exact converged.results
    · exact stable

/-- A run keeps what it has listed while its lookups answer rightly. -/
theorem Listed.run (listed : Listed dns state)
    (loads : ∀ action ∈ actions, LoadsRightly dns action)
    (reaches : run writerStep state actions = some later) : Listed dns later :=
  invariant_of_actions (Listed dns) (LoadsRightly dns)
    (fun _ _ _ kept enabled loads => kept.step enabled loads) listed loads reaches

/-- Stable runs keep the agreement. -/
theorem Converged.run (converged : Converged dns health state)
    (stable : ∀ action ∈ actions, StableAction dns health action)
    (reaches : run writerStep state actions = some later) : Converged dns health later :=
  invariant_of_actions (Converged dns health) (StableAction dns health)
    (fun _ _ _ kept enabled stable => kept.step enabled stable) converged stable reaches

/-- Such a refresh forgets whatever was listed before. -/
theorem StoresDns.listed (stores : StoresDns dns state next) : Listed dns next := by
  cases writerStep_transition stores.enabled with
  | refreshStore stored =>
      obtain ⟨base, -, current, rest⟩ := LoadStoreCell.store_eq_some_iff.mp stored
      constructor
      · constructor
        · intro poolType
          obtain ⟨addrs, answer, listed⟩ := stores.answers poolType
          have sameAnswer : resultFor state.gpuResult state.cpuResult poolType =
              .resolved addrs := answer
          rw [current, merge_pool, addresses_mergePool, sameAnswer]
          exact listed
        · intro task other loaded
          rw [rest] at loaded
          cases task with
          | discovery =>
              rw [Function.update_self] at loaded
              cases loaded
          | health =>
              rw [Function.update_of_ne (by decide), stores.undisturbed] at loaded
              cases loaded
      · intro poolType addrs answer
        obtain ⟨own, ownAnswer, listed⟩ := stores.answers poolType
        obtain rfl := ResolveResult.resolved.inj (ownAnswer.symm.trans answer)
        exact listed

/-- Such a poll forgets whatever was reported before. -/
theorem StoresHealth.converged (stores : StoresHealth dns health state next)
    (listed : Listed dns state) : Converged dns health next := by
  cases writerStep_transition stores.enabled with
  | pollStore stored =>
      obtain ⟨base, loadedBase, current, rest⟩ := LoadStoreCell.store_eq_some_iff.mp stored
      have lists := listed.pool.loaded .health base loadedBase
      refine ⟨⟨?_, ?_⟩, listed.answers, stores.steady⟩
      · rw [current]
        refine ⟨listsDns_applyUpdates lists, ?_⟩
        refine reportsHealth_applyUpdates stores.steady fun poolType upstream member => ?_
        refine Or.inl (stores.heard poolType upstream.addr ?_)
        exact (lists poolType).mem_iff.mp (mem_addresses.mpr ⟨upstream, member, rfl⟩)
      · intro task other loaded
        rw [rest] at loaded
        cases task with
        | discovery =>
            rw [Function.update_of_ne (by decide), stores.undisturbed] at loaded
            cases loaded
        | health =>
            rw [Function.update_self] at loaded
            cases loaded

/-- Selectors return what the environment offers, and, where nothing is cooling
down, something if it has an upstream that always accepts requests. -/
structure RoutesByEnvironment (dns : PoolType → List SocketAddr)
    (health : SocketAddr → HealthReport → Prop) (snapshot : PoolSnapshot) (now : Instant) :
    Prop where
  selected : ∀ chosen, SelectedAt snapshot now chosen →
    chosen.1 ∈ dns chosen.2 ∧ ∃ report, health chosen.1 report ∧ report.Accepting
  found : (∀ upstream ∈ snapshot.entries, upstream.isInCooldown now = false) →
    (∃ poolType, ∃ addr ∈ dns poolType, ∀ report, health addr report → report.Accepting) →
      ∃ chosen, pick snapshot now = some chosen

theorem AgreesWith.routes {snapshot : PoolSnapshot} (agrees : AgreesWith dns health snapshot)
    (now : Instant) : RoutesByEnvironment dns health snapshot now where
  selected := by
    intro chosen selectedAt
    obtain ⟨upstream, member, sameAddr, routable⟩ := picksRoutable_of_selectedAt selectedAt
    have reported := agrees.reports chosen.2 upstream member
    rw [sameAddr] at reported
    refine ⟨(agrees.lists chosen.2).mem_iff.mp ?_, upstream.report, reported,
      routable.accepting⟩
    exact mem_addresses.mpr ⟨upstream, member, sameAddr⟩
  found := by
    intro idle offered
    obtain ⟨poolType, addr, listed, accepts⟩ := offered
    obtain ⟨upstream, member, rfl⟩ :=
      mem_addresses.mp ((agrees.lists poolType).mem_iff.mpr listed)
    have accepting := accepts upstream.report (agrees.reports poolType upstream member)
    exact (routesByReport_of_idle idle).all.mpr
      ⟨upstream, PoolSnapshot.mem_entries.mpr ⟨poolType, member⟩, accepting⟩

end Steps

/-- **The snapshot recovers.**  Whatever state `stale` is, one undisturbed store
of a refresh and then one of a poll bring the snapshot into agreement with a
stable environment, and every later state of every interleaving agrees with it. -/
theorem snapshot_recovers {dns : PoolType → List SocketAddr}
    {health : SocketAddr → HealthReport → Prop} {stale listed polled fresh later : RouterState}
    {between after : List WriterAction} (refreshed : StoresDns dns stale listed)
    (waits : run writerStep listed between = some polled)
    (stableBetween : ∀ action ∈ between, StableAction dns health action)
    (heard : StoresHealth dns health polled fresh)
    (reaches : run writerStep fresh after = some later)
    (stableAfter : ∀ action ∈ after, StableAction dns health action) :
    AgreesWith dns health later.snapshot ∧
      (∀ task base, later.pool.loaded task = some base → AgreesWith dns health base) ∧
      ∀ now, RoutesByEnvironment dns health later.snapshot now := by
  have loads : ∀ action ∈ between, LoadsRightly dns action :=
    fun action member => (stableBetween action member).loadsRightly
  have listedLater : Listed dns polled := refreshed.listed.run loads waits
  have converged : Converged dns health later :=
    (heard.converged listedLater).run stableAfter reaches
  exact ⟨converged.pool.current, converged.pool.loaded, converged.pool.current.routes⟩

/-- One GPU and one CPU upstream, both healthy. -/
def twoHealthy : PoolType → List SocketAddr
  | .gpu => [.samplePeer]
  | .cpu => [.sampleCpu]

/-- A router that knows another fleet resolves this one, while a poll of the old
fleet is under way. -/
def otherFleet : List WriterAction :=
  [.refreshLoad (.resolved [.sampleGpu]) .failed, .refreshStore, .pollStart,
    .refreshLoad (.resolved [.samplePeer]) (.resolved [.sampleCpu])]

/-- The poll of the old fleet ends, and one of the new fleet is heard. -/
def newFleetHeard : List WriterAction :=
  [.pollLoad [], .pollStore, .pollStart,
    .pollLoad [⟨.sampleCpu, .ok, 3, 1⟩, ⟨.samplePeer, .ok, 0, 1⟩]]

def tripOfPeer : List WriterAction :=
  [.tripStart .samplePeer 30, .tripFastPath 0, .tripRcu 0]

theorem snapshot_recovers_twoHealthy :
    ∃ stale listed polled fresh later,
      run writerStep .initial otherFleet = some stale ∧
      writerStep stale .refreshStore = some listed ∧
      run writerStep listed newFleetHeard = some polled ∧
      writerStep polled .pollStore = some fresh ∧
      run writerStep fresh tripOfPeer = some later ∧
      AgreesWith twoHealthy (fun _ report => report.status = .ok) later.snapshot := by
  let stale := (run writerStep .initial otherFleet).get (by decide +kernel)
  let listed := (writerStep stale .refreshStore).get (by decide +kernel)
  let polled := (run writerStep listed newFleetHeard).get (by decide +kernel)
  let fresh := (writerStep polled .pollStore).get (by decide +kernel)
  let later := (run writerStep fresh tripOfPeer).get (by decide +kernel)
  have refreshed : StoresDns twoHealthy stale listed := by
    refine ⟨(Option.some_get _).symm, by decide +kernel, fun poolType => ?_⟩
    refine ⟨twoHealthy poolType, ?_, List.Perm.refl _⟩
    cases poolType <;> decide +kernel
  have heard : StoresHealth twoHealthy (fun _ report => report.status = .ok) polled fresh := by
    refine ⟨(Option.some_get _).symm, by decide +kernel, by decide +kernel,
      fun poolType => ?_⟩
    cases poolType <;> decide +kernel
  have pollsListed : run writerStep listed newFleetHeard = some polled :=
    (Option.some_get _).symm
  have trips : run writerStep fresh tripOfPeer = some later := (Option.some_get _).symm
  refine ⟨stale, listed, polled, fresh, later, (Option.some_get _).symm, refreshed.enabled,
    pollsListed, heard.enabled, trips, ?_⟩
  refine (snapshot_recovers refreshed pollsListed ?_ heard trips ?_).1
  · simp [newFleetHeard, StableAction, PollResult.report]
  · simp [tripOfPeer, StableAction]

end BgeRouter
