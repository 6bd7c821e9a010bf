import BgeRouter.UpstreamSnapshot

/-!
# Configuration from the environment

`fromLookup` reads every `BGE_ROUTER_*` variable through a lookup function,
substitutes defaults and refuses values that the router could not run with.
-/

namespace BgeRouter

/-- Retry and cooldown tuning for upstream proxy requests. -/
structure RetryConfig where
  maxRetries : Nat
  initialBackoff : Duration
  maxBackoff : Duration
  /-- zero disables tripping -/
  cooldown : Duration

structure Config where
  bind : String
  gpuDns : String
  cpuDns : String
  dnsRefresh : Duration
  healthPoll : Duration
  hedgeDelay : Duration
  controlTimeout : Duration
  retryCount : Nat
  retryInitialBackoff : Duration
  retryMaxBackoff : Duration
  cooldown : Duration
  legacyFallbackBudgetSet : Bool
  heartbeat : Duration
  tlsCertPath : Option String
  tlsKeyPath : Option String
  upstreamCaBundle : Option String
  upstreamTls : Bool

def defaultHedgeDelayMs : Nat := 5000
def defaultControlTimeoutMs : Nat := 1000
def defaultRetryCount : Nat := 3
def defaultRetryInitialBackoffMs : Nat := 100
def defaultRetryMaxBackoffMs : Nat := 1000
def defaultCooldownSecs : Nat := 30
def maxRetryCount : Nat := 20

/-- `str::parse::<u64>`: decimal digits after an optional plus sign, at most
`u64::MAX`. -/
def parseDecimal (text : String) : Option Nat :=
  let digits : List Char := match text.toList with
    | '+' :: digits => digits
    | digits => digits
  let value : Nat := digits.foldl (fun value digit => value * 10 + (digit.toNat - 48)) 0
  if digits ≠ [] ∧ digits.all Char.isDigit = true ∧ value ≤ u64Max then some value
  else none

def invalidInteger (key : String) : String :=
  "invalid " ++ key ++ ": expected a non-negative integer"

def parseU64 (key : String) (default : Nat) (lookup : String → Option String) :
    Except String Nat :=
  match lookup key with
  | some text =>
      match parseDecimal text with
      | some value => .ok value
      | none => .error (invalidInteger key)
  | none => .ok default

def parseOptionalU64 (key : String) (lookup : String → Option String) :
    Except String (Option Nat) :=
  match lookup key with
  | some text =>
      match parseDecimal text with
      | some value => .ok (some value)
      | none => .error (invalidInteger key)
  | none => .ok none

/-- `bail!` unless the condition holds. -/
def require (condition : Prop) [Decidable condition] (message : String) :
    Except String Unit :=
  if condition then .ok () else .error message

namespace Config

def fromLookup (lookup : String → Option String) : Except String Config := do
  let dnsRefreshSecs ← parseU64 "BGE_ROUTER_DNS_REFRESH_SECS" 30 lookup
  let healthPollSecs ← parseU64 "BGE_ROUTER_HEALTH_POLL_SECS" 5 lookup
  let heartbeatSecs ← parseU64 "BGE_ROUTER_HEARTBEAT_SECS" 60 lookup
  let legacyRaw ← parseOptionalU64 "BGE_ROUTER_FALLBACK_BUDGET_MS" lookup
  let explicitDelayMs ← parseOptionalU64 "BGE_ROUTER_HEDGE_DELAY_MS" lookup
  let hedgeDelayMs := explicitDelayMs.getD (legacyRaw.getD defaultHedgeDelayMs)
  require (hedgeDelayMs ≠ 0) "invalid BGE_ROUTER_HEDGE_DELAY_MS: must be > 0 (got 0)"
  let controlTimeoutMs ←
    parseU64 "BGE_ROUTER_CONTROL_TIMEOUT_MS" defaultControlTimeoutMs lookup
  require (controlTimeoutMs ≠ 0)
    "invalid BGE_ROUTER_CONTROL_TIMEOUT_MS: must be > 0 (got 0)"
  let retryCount ← parseU64 "BGE_ROUTER_RETRY_COUNT" defaultRetryCount lookup
  require (retryCount ≤ u32Max) "invalid BGE_ROUTER_RETRY_COUNT: value exceeds u32::MAX"
  require (retryCount ≤ maxRetryCount)
    ("invalid BGE_ROUTER_RETRY_COUNT: " ++ toString retryCount ++ " exceeds maximum of " ++
      toString maxRetryCount)
  let retryInitialBackoffMs ←
    parseU64 "BGE_ROUTER_RETRY_INITIAL_BACKOFF_MS" defaultRetryInitialBackoffMs lookup
  require (retryInitialBackoffMs ≠ 0)
    "invalid BGE_ROUTER_RETRY_INITIAL_BACKOFF_MS: must be > 0 (got 0)"
  let retryMaxBackoffMs ←
    parseU64 "BGE_ROUTER_RETRY_MAX_BACKOFF_MS" defaultRetryMaxBackoffMs lookup
  require (retryInitialBackoffMs ≤ retryMaxBackoffMs)
    ("invalid BGE_ROUTER_RETRY_MAX_BACKOFF_MS: must be >= " ++
      "BGE_ROUTER_RETRY_INITIAL_BACKOFF_MS")
  let cooldownSecs ← parseU64 "BGE_ROUTER_COOLDOWN_SECS" defaultCooldownSecs lookup
  let tlsCertPath := lookup "BGE_ROUTER_TLS_CERT_PATH"
  let tlsKeyPath := lookup "BGE_ROUTER_TLS_KEY_PATH"
  require (tlsCertPath.isSome = tlsKeyPath.isSome)
    ("TLS misconfiguration: BGE_ROUTER_TLS_CERT_PATH and " ++
      "BGE_ROUTER_TLS_KEY_PATH must both be set or both be absent")
  return {
    bind := (lookup "BGE_ROUTER_BIND").getD "0.0.0.0:8081"
    gpuDns := (lookup "BGE_ROUTER_GPU_DNS").getD "bge-m3-gpu"
    cpuDns := (lookup "BGE_ROUTER_CPU_DNS").getD "bge-m3-cpu"
    dnsRefresh := .fromSecs dnsRefreshSecs
    healthPoll := .fromSecs healthPollSecs
    hedgeDelay := .fromMillis hedgeDelayMs
    controlTimeout := .fromMillis controlTimeoutMs
    retryCount := retryCount
    retryInitialBackoff := .fromMillis retryInitialBackoffMs
    retryMaxBackoff := .fromMillis retryMaxBackoffMs
    cooldown := .fromSecs cooldownSecs
    legacyFallbackBudgetSet := legacyRaw.isSome
    heartbeat := .fromSecs heartbeatSecs
    tlsCertPath := tlsCertPath
    tlsKeyPath := tlsKeyPath
    upstreamCaBundle := lookup "BGE_ROUTER_UPSTREAM_CA_BUNDLE"
    upstreamTls := (lookup "BGE_ROUTER_UPSTREAM_TLS").any fun text =>
      decide (text.map Char.toLower ∈ ["1", "true", "yes"]) }

def retryConfig (config : Config) : RetryConfig where
  maxRetries := config.retryCount
  initialBackoff := config.retryInitialBackoff
  maxBackoff := config.retryMaxBackoff
  cooldown := config.cooldown

def upstreamScheme (config : Config) : UpstreamScheme :=
  if config.upstreamTls then .https else .http

/-- What every accepted configuration satisfies. -/
structure WithinBounds (config : Config) : Prop where
  hedgeDelay : 0 < config.hedgeDelay
  controlTimeout : 0 < config.controlTimeout
  retryCount : config.retryCount ≤ maxRetryCount
  initialBackoff : 0 < config.retryInitialBackoff
  backoffOrder : config.retryInitialBackoff ≤ config.retryMaxBackoff
  tlsPaths : config.tlsCertPath.isSome = config.tlsKeyPath.isSome

/-- The settings that periods and timeouts are read from. -/
structure ReadFrom (lookup : String → Option String) (config : Config) : Prop where
  dnsRefresh : ∃ secs, parseU64 "BGE_ROUTER_DNS_REFRESH_SECS" 30 lookup = .ok secs ∧
    config.dnsRefresh = .fromSecs secs
  healthPoll : ∃ secs, parseU64 "BGE_ROUTER_HEALTH_POLL_SECS" 5 lookup = .ok secs ∧
    config.healthPoll = .fromSecs secs
  controlTimeout : ∃ millis,
    parseU64 "BGE_ROUTER_CONTROL_TIMEOUT_MS" defaultControlTimeoutMs lookup = .ok millis ∧
      config.controlTimeout = .fromMillis millis

/-- The settings that all fields are read from. -/
structure SettingsFrom (lookup : String → Option String) (config : Config) : Prop
    extends ReadFrom lookup config where
  heartbeat : ∃ secs, parseU64 "BGE_ROUTER_HEARTBEAT_SECS" 60 lookup = .ok secs ∧
    config.heartbeat = .fromSecs secs
  hedgeDelay : ∃ legacyRaw explicitDelayMs,
    parseOptionalU64 "BGE_ROUTER_FALLBACK_BUDGET_MS" lookup = .ok legacyRaw ∧
      parseOptionalU64 "BGE_ROUTER_HEDGE_DELAY_MS" lookup = .ok explicitDelayMs ∧
      config.hedgeDelay =
        .fromMillis (explicitDelayMs.getD (legacyRaw.getD defaultHedgeDelayMs)) ∧
      config.legacyFallbackBudgetSet = legacyRaw.isSome
  retryCount : parseU64 "BGE_ROUTER_RETRY_COUNT" defaultRetryCount lookup =
    .ok config.retryCount
  retryInitialBackoff : ∃ millis,
    parseU64 "BGE_ROUTER_RETRY_INITIAL_BACKOFF_MS" defaultRetryInitialBackoffMs lookup =
        .ok millis ∧
      config.retryInitialBackoff = .fromMillis millis
  retryMaxBackoff : ∃ millis,
    parseU64 "BGE_ROUTER_RETRY_MAX_BACKOFF_MS" defaultRetryMaxBackoffMs lookup = .ok millis ∧
      config.retryMaxBackoff = .fromMillis millis
  cooldown : ∃ secs, parseU64 "BGE_ROUTER_COOLDOWN_SECS" defaultCooldownSecs lookup = .ok secs ∧
    config.cooldown = .fromSecs secs
  bind : config.bind = (lookup "BGE_ROUTER_BIND").getD "0.0.0.0:8081"
  gpuDns : config.gpuDns = (lookup "BGE_ROUTER_GPU_DNS").getD "bge-m3-gpu"
  cpuDns : config.cpuDns = (lookup "BGE_ROUTER_CPU_DNS").getD "bge-m3-cpu"
  tlsCertPath : config.tlsCertPath = lookup "BGE_ROUTER_TLS_CERT_PATH"
  tlsKeyPath : config.tlsKeyPath = lookup "BGE_ROUTER_TLS_KEY_PATH"
  upstreamCaBundle : config.upstreamCaBundle = lookup "BGE_ROUTER_UPSTREAM_CA_BUNDLE"
  upstreamTls : config.upstreamTls =
    (lookup "BGE_ROUTER_UPSTREAM_TLS").any fun text =>
      decide (text.map Char.toLower ∈ ["1", "true", "yes"])

end Config

section Acceptance

variable {Value Result : Type} {lookup : String → Option String} {config : Config}

theorem bind_eq_ok {first : Except String Value} {next : Value → Except String Result}
    {result : Result} (accepted : (first >>= next) = .ok result) :
    ∃ value, first = .ok value ∧ next value = .ok result := by
  cases first with
  | error message => cases accepted
  | ok value => exact ⟨value, rfl, accepted⟩

theorem require_eq_ok {condition : Prop} [Decidable condition] {message : String}
    {passed : Unit} (accepted : require condition message = .ok passed) : condition := by
  by_contra fails
  rw [require, if_neg fails] at accepted
  cases accepted

theorem fromMillis_pos {millis : Nat} (ne : millis ≠ 0) : 0 < Duration.fromMillis millis :=
  Nat.mul_pos (Nat.pos_of_ne_zero ne) (by decide)

theorem parseDecimal_of_parseU64 {key text : String} {default value : Nat}
    (found : lookup key = some text) (read : parseU64 key default lookup = .ok value) :
    parseDecimal text = some value := by
  simp only [parseU64, found] at read
  cases parsed : parseDecimal text with
  | none =>
      rw [parsed] at read
      cases read
  | some number =>
      rw [parsed] at read
      rw [Except.ok.inj read]

theorem parseDecimal_of_parseOptionalU64 {key text : String} {value : Option Nat}
    (found : lookup key = some text) (read : parseOptionalU64 key lookup = .ok value) :
    parseDecimal text = value ∧ value.isSome = true := by
  simp only [parseOptionalU64, found] at read
  cases parsed : parseDecimal text with
  | none =>
      rw [parsed] at read
      cases read
  | some number =>
      rw [parsed] at read
      rw [← Except.ok.inj read]
      exact ⟨rfl, rfl⟩

theorem parseOptionalU64_of_unset {key : String} (unset : lookup key = none) :
    parseOptionalU64 key lookup = .ok none := by
  rw [parseOptionalU64, unset]

theorem fromSecs_eq_zero_iff {secs : Nat} : Duration.fromSecs secs = 0 ↔ secs = 0 := by
  rw [Duration.fromSecs, Nat.mul_eq_zero]
  simp

/-- All readings succeeded and all checks passed. -/
private theorem Config.withinBounds_and_settingsFrom
    (accepted : fromLookup lookup = .ok config) :
    config.WithinBounds ∧ SettingsFrom lookup config := by
  obtain ⟨dnsRefreshSecs, dnsRefresh, accepted⟩ := bind_eq_ok accepted
  obtain ⟨healthPollSecs, healthPoll, accepted⟩ := bind_eq_ok accepted
  obtain ⟨heartbeatSecs, heartbeat, accepted⟩ := bind_eq_ok accepted
  obtain ⟨legacyRaw, legacyBudget, accepted⟩ := bind_eq_ok accepted
  obtain ⟨explicitDelayMs, explicitDelay, accepted⟩ := bind_eq_ok accepted
  obtain ⟨_, delayCheck, accepted⟩ := bind_eq_ok accepted
  obtain ⟨controlTimeoutMs, controlTimeout, accepted⟩ := bind_eq_ok accepted
  obtain ⟨_, timeoutCheck, accepted⟩ := bind_eq_ok accepted
  obtain ⟨retryCount, countText, accepted⟩ := bind_eq_ok accepted
  obtain ⟨_, _, accepted⟩ := bind_eq_ok accepted
  obtain ⟨_, countCheck, accepted⟩ := bind_eq_ok accepted
  obtain ⟨initialBackoffMs, initialBackoff, accepted⟩ := bind_eq_ok accepted
  obtain ⟨_, initialCheck, accepted⟩ := bind_eq_ok accepted
  obtain ⟨maxBackoffMs, maxBackoff, accepted⟩ := bind_eq_ok accepted
  obtain ⟨_, orderCheck, accepted⟩ := bind_eq_ok accepted
  obtain ⟨cooldownSecs, cooldown, accepted⟩ := bind_eq_ok accepted
  obtain ⟨_, pathCheck, accepted⟩ := bind_eq_ok accepted
  obtain rfl := Except.ok.inj accepted
  constructor
  · exact {
      hedgeDelay := fromMillis_pos (require_eq_ok delayCheck)
      controlTimeout := fromMillis_pos (require_eq_ok timeoutCheck)
      retryCount := require_eq_ok countCheck
      initialBackoff := fromMillis_pos (require_eq_ok initialCheck)
      backoffOrder := Nat.mul_le_mul_right _ (require_eq_ok orderCheck)
      tlsPaths := require_eq_ok pathCheck }
  · exact {
      dnsRefresh := ⟨dnsRefreshSecs, dnsRefresh, rfl⟩
      healthPoll := ⟨healthPollSecs, healthPoll, rfl⟩
      controlTimeout := ⟨controlTimeoutMs, controlTimeout, rfl⟩
      heartbeat := ⟨heartbeatSecs, heartbeat, rfl⟩
      hedgeDelay := ⟨legacyRaw, explicitDelayMs, legacyBudget, explicitDelay, rfl, rfl⟩
      retryCount := countText
      retryInitialBackoff := ⟨initialBackoffMs, initialBackoff, rfl⟩
      retryMaxBackoff := ⟨maxBackoffMs, maxBackoff, rfl⟩
      cooldown := ⟨cooldownSecs, cooldown, rfl⟩
      bind := rfl
      gpuDns := rfl
      cpuDns := rfl
      tlsCertPath := rfl
      tlsKeyPath := rfl
      upstreamCaBundle := rfl
      upstreamTls := rfl }

theorem Config.withinBounds_of_fromLookup (accepted : fromLookup lookup = .ok config) :
    config.WithinBounds :=
  (withinBounds_and_settingsFrom accepted).1

theorem Config.settingsFrom_of_fromLookup (accepted : fromLookup lookup = .ok config) :
    SettingsFrom lookup config :=
  (withinBounds_and_settingsFrom accepted).2

theorem Config.readFrom_of_fromLookup (accepted : fromLookup lookup = .ok config) :
    ReadFrom lookup config :=
  (settingsFrom_of_fromLookup accepted).toReadFrom

end Acceptance

/-- The configuration of an empty environment. -/
def Config.default : Config where
  bind := "0.0.0.0:8081"
  gpuDns := "bge-m3-gpu"
  cpuDns := "bge-m3-cpu"
  dnsRefresh := .fromSecs 30
  healthPoll := .fromSecs 5
  hedgeDelay := .fromMillis defaultHedgeDelayMs
  controlTimeout := .fromMillis defaultControlTimeoutMs
  retryCount := defaultRetryCount
  retryInitialBackoff := .fromMillis defaultRetryInitialBackoffMs
  retryMaxBackoff := .fromMillis defaultRetryMaxBackoffMs
  cooldown := .fromSecs defaultCooldownSecs
  legacyFallbackBudgetSet := false
  heartbeat := .fromSecs 60
  tlsCertPath := none
  tlsKeyPath := none
  upstreamCaBundle := none
  upstreamTls := false

theorem Config.fromLookup_empty : Config.fromLookup (fun _ => none) = .ok .default :=
  rfl

/-- The environment that sets one variable only. -/
def onlySets (key text : String) : String → Option String :=
  fun other => if other = key then some text else none

end BgeRouter
