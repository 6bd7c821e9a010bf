import BgeRouter.Configuration
import BgeRouter.Discovery

/-!
# Background loops

The health poller and the heartbeat run on timers of `tokio`, which refuse a
zero period, and the discovery loop skips sleeps of zero length.  An accepted
configuration may contain zeros for two of the three.
-/

namespace BgeRouter

/-- A timer of `tokio::time`. -/
structure Interval where
  period : Duration
  positive : 0 < period

/-- How a background task begins. -/
inductive TaskStart where
  | notSpawned
  | panicked
  | ticking (interval : Interval)

/-- `tokio::time::interval` panics on a zero period. -/
def timeInterval (period : Duration) : TaskStart :=
  if positive : 0 < period then .ticking ⟨period, positive⟩ else .panicked

/-- The start of `health::run`. -/
def healthRun (config : Config) : TaskStart := timeInterval config.healthPoll

/-- `metrics::spawn`, and the start of `metrics::run`. -/
def metricsSpawn (config : Config) : TaskStart :=
  if config.heartbeat = 0 then .notSpawned else timeInterval config.heartbeat

/-- What the background loops need of a configuration. -/
structure LoopsCanRun (config : Config) : Prop where
  health : 0 < config.healthPoll
  heartbeat : metricsSpawn config ≠ .notSpawned → 0 < config.heartbeat
  discovery : ∀ answers, answers ≠ [] →
    0 < (DiscoveryLoop.afterRefreshes config.dnsRefresh answers).sleepFor

def ReadsZero (lookup : String → Option String) (key : String) : Prop :=
  ∃ text, lookup key = some text ∧ parseDecimal text = some 0

section Loops

variable {config : Config} {lookup : String → Option String}

theorem timeInterval_eq_panicked_iff {period : Duration} :
    timeInterval period = .panicked ↔ period = 0 := by
  by_cases positive : 0 < period
  · simp [timeInterval, positive, Nat.pos_iff_ne_zero.mp positive]
  · simp [timeInterval, Nat.eq_zero_of_not_pos positive]

theorem LoopsCanRun.healthRun_ne_panicked (runs : LoopsCanRun config) :
    healthRun config ≠ .panicked :=
  fun panicked => absurd (timeInterval_eq_panicked_iff.mp panicked)
    (Nat.pos_iff_ne_zero.mp runs.health)

theorem loopsCanRun_iff :
    LoopsCanRun config ↔ config.healthPoll ≠ 0 ∧ config.dnsRefresh ≠ 0 := by
  constructor
  · intro runs
    have sleeps := runs.discovery [(.failed, .failed)] (by simp)
    rw [sleepFor_afterRefreshes_pos_iff (by simp)] at sleeps
    exact ⟨Nat.pos_iff_ne_zero.mp runs.health, Nat.pos_iff_ne_zero.mp sleeps⟩
  · rintro ⟨health, refresh⟩
    refine ⟨Nat.pos_of_ne_zero health, fun spawned => ?_, fun answers refreshed => ?_⟩
    · refine Nat.pos_of_ne_zero fun disabled => spawned ?_
      rw [metricsSpawn, if_pos disabled]
    · exact (sleepFor_afterRefreshes_pos_iff refreshed).mpr (Nat.pos_of_ne_zero refresh)

/-- A reading whose default is not zero is zero only if the variable is. -/
theorem eq_zero_iff_readsZero {key : String} {default value : Nat} (nonzero : default ≠ 0)
    (read : parseU64 key default lookup = .ok value) :
    value = 0 ↔ ReadsZero lookup key := by
  cases set : lookup key with
  | none =>
      simp only [parseU64, set] at read
      obtain rfl := Except.ok.inj read
      simp [ReadsZero, set, nonzero]
  | some text =>
      have parsed : parseDecimal text = some value := parseDecimal_of_parseU64 set read
      simp [ReadsZero, set, parsed]

/-- **Accepted configurations and the background loops.**  All loops can run
exactly if neither period is set to zero. -/
theorem loopsCanRun_iff_of_fromLookup (accepted : Config.fromLookup lookup = .ok config) :
    LoopsCanRun config ↔
      ¬ ReadsZero lookup "BGE_ROUTER_HEALTH_POLL_SECS" ∧
        ¬ ReadsZero lookup "BGE_ROUTER_DNS_REFRESH_SECS" := by
  have readings := Config.readFrom_of_fromLookup accepted
  obtain ⟨healthPollSecs, healthPoll, health⟩ := readings.healthPoll
  obtain ⟨dnsRefreshSecs, dnsRefresh, refresh⟩ := readings.dnsRefresh
  rw [loopsCanRun_iff, health, refresh, ne_eq, ne_eq, fromSecs_eq_zero_iff,
    fromSecs_eq_zero_iff, eq_zero_iff_readsZero (by decide) healthPoll,
    eq_zero_iff_readsZero (by decide) dnsRefresh]

end Loops

theorem not_readsZero_of_unset {key : String} : ¬ ReadsZero (fun _ => none) key := by
  rintro ⟨_, set, -⟩
  cases set

/-- The defaults keep all loops running. -/
theorem loopsCanRun_default : LoopsCanRun .default :=
  (loopsCanRun_iff_of_fromLookup Config.fromLookup_empty).mpr
    ⟨not_readsZero_of_unset, not_readsZero_of_unset⟩

/-- A health poll period of zero is accepted, and the poller panics at once. -/
theorem zeroHealthPoll_accepted :
    ¬ ∀ lookup config, Config.fromLookup lookup = .ok config → LoopsCanRun config := by
  intro runs
  have accepted : Config.fromLookup (onlySets "BGE_ROUTER_HEALTH_POLL_SECS" "0") =
      .ok { Config.default with healthPoll := 0 } := rfl
  exact (runs _ _ accepted).healthRun_ne_panicked rfl

end BgeRouter
