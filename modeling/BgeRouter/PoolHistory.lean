import BgeRouter.Library.PartialRuns
import BgeRouter.RoutingPolicy
import BgeRouter.SerialisedUpdates
import Mathlib.Data.List.Perm.Subperm

/-!
# The snapshot as a function of its history

When every update of the snapshot is atomic, what an entry says about the
health of its upstream is decided by the history alone: by the last time the
address entered the pool, and the last poll since then that heard of it.  Polls
may be in flight across any number of other updates.
-/

namespace BgeRouter

open PartialRuns

/-- What polls report of an upstream. -/
structure HealthReport where
  status : UpstreamStatus
  queueDepth : UInt32
  liveWorkers : UInt32
deriving DecidableEq

/-- Nothing is known of an upstream that no poll has heard from. -/
def HealthReport.unreported : HealthReport := ⟨.unknown, 0, 0⟩

def UpstreamInfo.report (upstream : UpstreamInfo) : HealthReport :=
  ⟨upstream.status, upstream.queueDepth, upstream.liveWorkers⟩

def PollResult.report (result : PollResult) : HealthReport :=
  ⟨result.status, result.queueDepth, result.liveWorkers⟩

/-- The pool under atomic updates. -/
structure SerialState where
  clock : Instant
  snapshot : PoolSnapshot
  /-- the addresses captured by each poll under way -/
  polls : List (List SocketAddr)

/-- Startup: an empty snapshot and no poll under way. -/
def SerialState.initial : SerialState := ⟨0, .default 0, []⟩

inductive SerialAction where
  | tick (elapsed : Duration)
  | refresh (gpuResult cpuResult : ResolveResult)
  | pollStart
  | pollEnd (poll : Nat) (results : List PollResult)
  | trip (addr : SocketAddr) (duration : Duration)

/-- The effect of an atomic update, or `none` where there is no such poll. -/
def serialStep (state : SerialState) : SerialAction → Option SerialState
  | .tick elapsed => some { state with clock := state.clock + elapsed }
  | .refresh gpuResult cpuResult =>
      some { state with
        snapshot := merge state.snapshot gpuResult cpuResult state.clock }
  | .pollStart =>
      if addresses state.snapshot.entries = [] then some state
      else some { state with polls := state.polls ++ [addresses state.snapshot.entries] }
  | .pollEnd poll results =>
      match state.polls[poll]? with
      | none => none
      | some addrs =>
          -- results come in any order, and a poll task that panicked yields none
          if (results.map PollResult.addr).Subperm addrs then
            some { state with
              snapshot := applyUpdates state.snapshot results state.clock
              polls := state.polls.eraseIdx poll }
          else none
  | .trip addr duration =>
      some { state with snapshot := trip state.snapshot addr duration state.clock }

section History

/-- What an update reports of an address: the first result for it. -/
def SerialAction.reportOf (addr : SocketAddr) : SerialAction → Option HealthReport
  | .pollEnd _ results =>
      (results.find? fun result => decide (result.addr = addr)).map PollResult.report
  | _ => none

/-- The latest report on an address. -/
def latestReport (addr : SocketAddr) (actions : List SerialAction) : Option HealthReport :=
  actions.reverse.findSome? (SerialAction.reportOf addr)

/-- After these updates the pool lists the address. -/
def ListedAfter (addr : SocketAddr) (poolType : PoolType) (actions : List SerialAction) :
    Prop :=
  ∃ state, run serialStep .initial actions = some state ∧
    addr ∈ addresses (state.snapshot.pool poolType)

/-- The address last entered the pool by `action`: the pool did not list it
before, and has listed it ever since. -/
structure LastInserted (addr : SocketAddr) (poolType : PoolType)
    (before : List SerialAction) (action : SerialAction) (since : List SerialAction) :
    Prop where
  absent : ¬ ListedAfter addr poolType before
  listed : ∀ earlier, earlier <+: since →
    ListedAfter addr poolType (before ++ action :: earlier)

/-- The entries of a snapshot tell what the history does. -/
def TellsHistory (actions : List SerialAction) (state : SerialState) : Prop :=
  ∀ poolType, ∀ upstream ∈ state.snapshot.pool poolType,
    upstream.poolType = poolType ∧
      ∃ before action since, actions = before ++ action :: since ∧
        LastInserted upstream.addr poolType before action since ∧
        upstream.report = (latestReport upstream.addr since).getD .unreported

/-- An entry after an update is new to its pool, or was there before. -/
inductive EntryOrigin (before : PoolSnapshot) (action : SerialAction) (poolType : PoolType)
    (upstream : UpstreamInfo) : Prop where
  | entered (absent : upstream.addr ∉ addresses (before.pool poolType))
      (named : upstream.poolType = poolType) (fresh : upstream.report = .unreported) :
      EntryOrigin before action poolType upstream
  | carried {earlier : UpstreamInfo} (member : earlier ∈ before.pool poolType)
      (sameAddr : upstream.addr = earlier.addr)
      (samePool : upstream.poolType = earlier.poolType)
      (report : upstream.report = (action.reportOf upstream.addr).getD earlier.report) :
      EntryOrigin before action poolType upstream

theorem latestReport_concat (addr : SocketAddr) (actions : List SerialAction)
    (action : SerialAction) :
    latestReport addr (actions ++ [action]) =
      (action.reportOf addr).or (latestReport addr actions) := by
  rw [latestReport, List.reverse_concat, List.findSome?_cons]
  cases action.reportOf addr <;> rfl

theorem LastInserted.concat {addr : SocketAddr} {poolType : PoolType}
    {before since : List SerialAction} {action next : SerialAction}
    (last : LastInserted addr poolType before action since)
    (still : ListedAfter addr poolType (before ++ action :: (since ++ [next]))) :
    LastInserted addr poolType before action (since ++ [next]) where
  absent := last.absent
  listed := by
    intro earlier isPrefix
    rcases List.prefix_concat_iff.mp isPrefix with rfl | shorter
    · exact still
    · exact last.listed earlier shorter

end History

section Origins

variable {snapshot : PoolSnapshot} {upstream : UpstreamInfo} {poolType : PoolType}
  {action : SerialAction}

/-- An update that reports nothing and leaves the entry alone. -/
theorem EntryOrigin.kept (member : upstream ∈ snapshot.pool poolType)
    (silent : action.reportOf upstream.addr = none) :
    EntryOrigin snapshot action poolType upstream :=
  .carried member rfl rfl (by rw [silent, Option.getD_none])

theorem origin_of_merge {gpuResult cpuResult : ResolveResult} {now : Instant}
    (member : upstream ∈ (merge snapshot gpuResult cpuResult now).pool poolType) :
    EntryOrigin snapshot (.refresh gpuResult cpuResult) poolType upstream := by
  rw [merge_pool] at member
  cases result : resultFor gpuResult cpuResult poolType with
  | failed =>
      rw [result] at member
      exact .kept member rfl
  | resolved addrs =>
      rw [result] at member
      obtain ⟨addr, -, rfl⟩ := List.mem_map.mp member
      cases found : (snapshot.pool poolType).find? fun upstream =>
          decide (upstream.addr = addr) with
      | some earlier => exact .kept (List.mem_of_find?_eq_some found) rfl
      | none =>
          refine .entered ?_ rfl rfl
          intro listed
          obtain ⟨earlier, earlierMember, same⟩ := mem_addresses.mp listed
          exact KeyedLists.find?_eq_none_iff.mp found earlier earlierMember same

theorem origin_of_applyUpdates {poll : Nat} {results : List PollResult} {now : Instant}
    (member : upstream ∈ (applyUpdates snapshot results now).pool poolType) :
    EntryOrigin snapshot (.pollEnd poll results) poolType upstream := by
  rw [applyUpdates_pool, updatePool_eq_map] at member
  obtain ⟨earlier, earlierMember, rfl⟩ := List.mem_map.mp member
  refine .carried earlierMember (addr_updateEntry earlier) ?_ ?_
  · rw [updateEntry]
    split <;> rfl
  · rw [addr_updateEntry]
    cases found : results.find? fun result => decide (result.addr = earlier.addr) with
    | some result => simp only [updateEntry, SerialAction.reportOf, found]; rfl
    | none => simp only [updateEntry, SerialAction.reportOf, found]; rfl

theorem origin_of_trip {addr : SocketAddr} {duration : Duration} {now : Instant}
    (member : upstream ∈ (trip snapshot addr duration now).pool poolType) :
    EntryOrigin snapshot (.trip addr duration) poolType upstream := by
  obtain ⟨earlier, earlierMember, window, rfl⟩ := exists_of_mem_pool_trip member
  exact .carried earlierMember rfl rfl rfl

/-- Where the entries come from, for every update. -/
theorem origin_of_serialStep {state next : SerialState}
    (enabled : serialStep state action = some next)
    (member : upstream ∈ next.snapshot.pool poolType) :
    EntryOrigin state.snapshot action poolType upstream := by
  cases action with
  | tick elapsed =>
      obtain rfl := Option.some.inj enabled
      exact .kept member rfl
  | refresh gpuResult cpuResult =>
      obtain rfl := Option.some.inj enabled
      exact origin_of_merge member
  | pollStart =>
      simp only [serialStep] at enabled
      split_ifs at enabled
      · obtain rfl := Option.some.inj enabled
        exact .kept member rfl
      · obtain rfl := Option.some.inj enabled
        exact .kept member rfl
  | pollEnd poll results =>
      simp only [serialStep] at enabled
      split at enabled
      · cases enabled
      · split_ifs at enabled
        obtain rfl := Option.some.inj enabled
        exact origin_of_applyUpdates member
  | trip addr duration =>
      obtain rfl := Option.some.inj enabled
      exact origin_of_trip member

end Origins

section Runs

variable {actions : List SerialAction} {state next : SerialState} {action : SerialAction}

/-- Every update keeps the snapshot in step with the history. -/
theorem TellsHistory.step (reached : run serialStep .initial actions = some state)
    (tells : TellsHistory actions state) (enabled : serialStep state action = some next) :
    TellsHistory (actions ++ [action]) next := by
  intro poolType upstream member
  have reachedNext : run serialStep .initial (actions ++ [action]) = some next :=
    run_append.mpr ⟨state, reached, run_singleton.trans enabled⟩
  have listed : ListedAfter upstream.addr poolType (actions ++ [action]) :=
    ⟨next, reachedNext, mem_addresses.mpr ⟨upstream, member, rfl⟩⟩
  cases origin_of_serialStep enabled member with
  | entered absent named fresh =>
      refine ⟨named, actions, action, [], rfl, ⟨?_, ?_⟩, fresh⟩
      · rintro ⟨other, otherReached, otherListed⟩
        cases reached.symm.trans otherReached
        exact absent otherListed
      · intro earlier isPrefix
        obtain rfl := List.prefix_nil.mp isPrefix
        exact listed
  | @carried earlier earlierMember sameAddr samePool report =>
      obtain ⟨named, before, entry, since, rfl, last, said⟩ := tells poolType earlier earlierMember
      refine ⟨samePool.trans named, before, entry, since ++ [action], by simp, ?_, ?_⟩
      · rw [List.append_assoc, List.cons_append] at listed
        rw [← sameAddr] at last
        exact last.concat listed
      · rw [report, said, ← sameAddr, latestReport_concat, Option.getD_or]

theorem tellsHistory_of_run (reaches : run serialStep .initial actions = some state) :
    TellsHistory actions state := by
  refine history_of_step TellsHistory (fun _ _ _ _ reached tells enabled =>
    tells.step reached enabled) ?_ reaches
  intro poolType upstream member
  cases poolType <;> cases member

end Runs

/-- Some selector returns this upstream. -/
def SelectedAt (snapshot : PoolSnapshot) (now : Instant) (chosen : SocketAddr × PoolType) :
    Prop :=
  pick snapshot now = some chosen ∨
  pickGpu snapshot now = some chosen ∨
  (∃ excluded, pickGpuExcluding snapshot excluded now = some chosen) ∨
  (∃ excluded, pickGpuExcludingSet snapshot excluded now = some chosen) ∨
  pickCpu snapshot now = some chosen

theorem picksRoutable_of_selectedAt {snapshot : PoolSnapshot} {now : Instant}
    {chosen : SocketAddr × PoolType} (selected : SelectedAt snapshot now chosen) :
    PicksRoutable snapshot now chosen := by
  rcases selected with any | gpu | ⟨_, excluding⟩ | ⟨_, excludingSet⟩ | cpu
  · exact picksRoutable_of_pick any
  · exact picksRoutable_of_pickGpu gpu
  · exact picksRoutable_of_pickTier .gpu excluding
  · exact picksRoutable_of_pickGpuExcludingSet excludingSet
  · exact picksRoutable_of_pickCpu cpu

/-- The report of an upstream that accepts requests. -/
def HealthReport.Accepting (report : HealthReport) : Prop :=
  report.status = .ok ∨ report.status = .loading ∧ 0 < report.liveWorkers

theorem HealthReport.not_accepting_unreported : ¬ HealthReport.unreported.Accepting := by
  rintro (ok | ⟨loading, -⟩)
  · cases ok
  · cases loading

theorem Routable.accepting {upstream : UpstreamInfo} {now : Instant}
    (routable : Routable upstream now) : upstream.report.Accepting := by
  rcases routable with ok | loading
  · simp only [isOkEligible, Bool.and_eq_true, beq_iff_eq] at ok
    exact Or.inl ok.1
  · simp only [isLoadingEligible, Bool.and_eq_true, beq_iff_eq, decide_eq_true_eq] at loading
    exact Or.inr loading.1

/-- **The snapshot is a function of its history.**  In particular only those
upstreams are selected whose latest report since they entered their pool is
that they accept requests. -/
theorem serialRun_tellsHistory {actions : List SerialAction} {state : SerialState}
    (reaches : run serialStep .initial actions = some state) :
    TellsHistory actions state ∧
      ∀ now chosen, SelectedAt state.snapshot now chosen →
        ∃ before action since report, actions = before ++ action :: since ∧
          LastInserted chosen.1 chosen.2 before action since ∧
          latestReport chosen.1 since = some report ∧ report.Accepting := by
  have tells := tellsHistory_of_run reaches
  refine ⟨tells, fun now chosen selected => ?_⟩
  obtain ⟨upstream, member, sameAddr, routable⟩ := picksRoutable_of_selectedAt selected
  obtain ⟨-, before, action, since, split, last, said⟩ := tells chosen.2 upstream member
  have accepting := routable.accepting
  rw [said, sameAddr] at accepting
  rw [sameAddr] at last
  cases reported : latestReport chosen.1 since with
  | none =>
      rw [reported] at accepting
      exact absurd accepting HealthReport.not_accepting_unreported
  | some report =>
      rw [reported] at accepting
      exact ⟨before, action, since, report, split, last, reported, accepting⟩

/-- A poll starts, its upstream leaves and comes back, and only then the poll
is applied. -/
def returnDuringPoll : List SerialAction :=
  [.refresh (.resolved [.sampleGpu]) .failed, .pollStart, .refresh (.resolved []) .failed,
    .refresh (.resolved [.sampleGpu]) .failed, .pollEnd 0 [⟨.sampleGpu, .ok, 3, 1⟩]]

theorem tellsHistory_returnDuringPoll :
    ∃ state, run serialStep .initial returnDuringPoll = some state ∧
      TellsHistory returnDuringPoll state ∧ SelectedAt state.snapshot 0 (.sampleGpu, .gpu) :=
  ⟨_, rfl, (serialRun_tellsHistory rfl).1, Or.inl (by decide)⟩

end BgeRouter
