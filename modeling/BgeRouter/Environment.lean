import BgeRouter.Configuration

/-!
# The process environment

The values of environment variables are arbitrary bytes.  The router looks a
variable up by `std::env::var(key).ok()`, which does not tell a variable that
is not set from one whose value is not Unicode.
-/

namespace BgeRouter

/-- The values of the variables that are set. -/
abbrev Environment := String → Option ByteArray

inductive VarError where
  | notPresent
  | notUnicode
deriving DecidableEq

/-- `std::env::var`. -/
def envVar (env : Environment) (key : String) : Except VarError String :=
  match env key with
  | none => .error .notPresent
  | some bytes =>
      match String.fromUTF8? bytes with
      | none => .error .notUnicode
      | some text => .ok text

/-- The lookup function of `from_env`. -/
def Environment.lookup (env : Environment) (key : String) : Option String :=
  (envVar env key).toOption

def Config.fromEnv (env : Environment) : Except String Config :=
  fromLookup env.lookup

def readVariables : List String :=
  ["BGE_ROUTER_BIND", "BGE_ROUTER_GPU_DNS", "BGE_ROUTER_CPU_DNS",
    "BGE_ROUTER_DNS_REFRESH_SECS", "BGE_ROUTER_HEALTH_POLL_SECS", "BGE_ROUTER_HEARTBEAT_SECS",
    "BGE_ROUTER_FALLBACK_BUDGET_MS", "BGE_ROUTER_HEDGE_DELAY_MS",
    "BGE_ROUTER_CONTROL_TIMEOUT_MS", "BGE_ROUTER_RETRY_COUNT",
    "BGE_ROUTER_RETRY_INITIAL_BACKOFF_MS", "BGE_ROUTER_RETRY_MAX_BACKOFF_MS",
    "BGE_ROUTER_COOLDOWN_SECS", "BGE_ROUTER_TLS_CERT_PATH", "BGE_ROUTER_TLS_KEY_PATH",
    "BGE_ROUTER_UPSTREAM_TLS", "BGE_ROUTER_UPSTREAM_CA_BUNDLE"]

/-- If the variable is set, it holds a text, which was used. -/
def TextUsed (env : Environment) (key : String) (use : String → Prop) : Prop :=
  ∀ bytes, env key = some bytes → ∃ text, String.fromUTF8? bytes = some text ∧ use text

/-- If the variable is set, it holds a number, which was used. -/
def NumberUsed (env : Environment) (key : String) (use : Nat → Prop) : Prop :=
  TextUsed env key fun text => ∃ value, parseDecimal text = some value ∧ use value

/-- No variable that is set was ignored. -/
structure NothingIgnored (env : Environment) (config : Config) : Prop where
  bind : TextUsed env "BGE_ROUTER_BIND" fun text => config.bind = text
  gpuDns : TextUsed env "BGE_ROUTER_GPU_DNS" fun text => config.gpuDns = text
  cpuDns : TextUsed env "BGE_ROUTER_CPU_DNS" fun text => config.cpuDns = text
  dnsRefresh : NumberUsed env "BGE_ROUTER_DNS_REFRESH_SECS"
    fun secs => config.dnsRefresh = .fromSecs secs
  healthPoll : NumberUsed env "BGE_ROUTER_HEALTH_POLL_SECS"
    fun secs => config.healthPoll = .fromSecs secs
  heartbeat : NumberUsed env "BGE_ROUTER_HEARTBEAT_SECS"
    fun secs => config.heartbeat = .fromSecs secs
  legacyBudget : NumberUsed env "BGE_ROUTER_FALLBACK_BUDGET_MS"
    fun millis => config.legacyFallbackBudgetSet = true ∧
      (env "BGE_ROUTER_HEDGE_DELAY_MS" = none → config.hedgeDelay = .fromMillis millis)
  hedgeDelay : NumberUsed env "BGE_ROUTER_HEDGE_DELAY_MS"
    fun millis => config.hedgeDelay = .fromMillis millis
  controlTimeout : NumberUsed env "BGE_ROUTER_CONTROL_TIMEOUT_MS"
    fun millis => config.controlTimeout = .fromMillis millis
  retryCount : NumberUsed env "BGE_ROUTER_RETRY_COUNT" fun count => config.retryCount = count
  retryInitialBackoff : NumberUsed env "BGE_ROUTER_RETRY_INITIAL_BACKOFF_MS"
    fun millis => config.retryInitialBackoff = .fromMillis millis
  retryMaxBackoff : NumberUsed env "BGE_ROUTER_RETRY_MAX_BACKOFF_MS"
    fun millis => config.retryMaxBackoff = .fromMillis millis
  cooldown : NumberUsed env "BGE_ROUTER_COOLDOWN_SECS"
    fun secs => config.cooldown = .fromSecs secs
  tlsPair :
    (env "BGE_ROUTER_TLS_CERT_PATH").isSome = (env "BGE_ROUTER_TLS_KEY_PATH").isSome
  tlsCertPath : config.tlsCertPath.isSome = (env "BGE_ROUTER_TLS_CERT_PATH").isSome
  tlsKeyPath : config.tlsKeyPath.isSome = (env "BGE_ROUTER_TLS_KEY_PATH").isSome
  upstreamTls : TextUsed env "BGE_ROUTER_UPSTREAM_TLS"
    fun text => config.upstreamTls = decide (text.map Char.toLower ∈ ["1", "true", "yes"])
  upstreamCaBundle : TextUsed env "BGE_ROUTER_UPSTREAM_CA_BUNDLE"
    fun text => config.upstreamCaBundle = some text

section Lookup

variable {env : Environment} {key : String} {bytes : ByteArray} {use : String → Prop}
  {useNumber : Nat → Prop} {default : Nat}

theorem lookup_of_unset (unset : env key = none) : env.lookup key = none := by
  rw [Environment.lookup, envVar, unset]
  rfl

theorem lookup_of_notUnicode (notUnicode : envVar env key = .error .notUnicode) :
    env.lookup key = none := by
  rw [Environment.lookup, notUnicode]
  rfl

theorem notUnicode_iff :
    envVar env key = .error .notUnicode ↔
      ∃ bytes, env key = some bytes ∧ String.fromUTF8? bytes = none := by
  rw [envVar]
  cases env key with
  | none => simp
  | some bytes =>
      cases decoded : String.fromUTF8? bytes with
      | none => simp [decoded]
      | some text => simp [decoded]

theorem exists_lookup_of_unicode (unicode : envVar env key ≠ .error .notUnicode)
    (set : env key = some bytes) :
    ∃ text, String.fromUTF8? bytes = some text ∧ env.lookup key = some text := by
  cases decoded : String.fromUTF8? bytes with
  | none => exact absurd (notUnicode_iff.mpr ⟨bytes, set, decoded⟩) unicode
  | some text =>
      refine ⟨text, rfl, ?_⟩
      simp only [Environment.lookup, envVar, set, decoded]
      rfl

theorem isSome_lookup_iff :
    (env.lookup key).isSome = (env key).isSome ↔ envVar env key ≠ .error .notUnicode := by
  cases set : env key with
  | none => simp [lookup_of_unset set, notUnicode_iff, set]
  | some bytes =>
      by_cases notUnicode : envVar env key = .error .notUnicode
      · simp [lookup_of_notUnicode notUnicode, notUnicode]
      · obtain ⟨text, -, found⟩ := exists_lookup_of_unicode notUnicode set
        simp [found, notUnicode]

theorem TextUsed.unicode (used : TextUsed env key use) :
    envVar env key ≠ .error .notUnicode := by
  intro notUnicode
  obtain ⟨bytes, set, undecodable⟩ := notUnicode_iff.mp notUnicode
  obtain ⟨text, decoded, -⟩ := used bytes set
  rw [undecodable] at decoded
  cases decoded

theorem textUsed_of_unicode (unicode : envVar env key ≠ .error .notUnicode)
    (used : ∀ text, env.lookup key = some text → use text) : TextUsed env key use := by
  intro bytes set
  obtain ⟨text, decoded, found⟩ := exists_lookup_of_unicode unicode set
  exact ⟨text, decoded, used text found⟩

/-- A field that is read with a default uses the number that is set. -/
theorem numberUsed_of_reading (unicode : envVar env key ≠ .error .notUnicode)
    (reading : ∃ value, parseU64 key default env.lookup = .ok value ∧ useNumber value) :
    NumberUsed env key useNumber := by
  obtain ⟨value, read, used⟩ := reading
  apply textUsed_of_unicode unicode
  intro text found
  exact ⟨value, parseDecimal_of_parseU64 found read, used⟩

/-- The same for a field that is not a number. -/
theorem textUsed_of_getD {field fallback : String}
    (unicode : envVar env key ≠ .error .notUnicode)
    (reading : field = (env.lookup key).getD fallback) :
    TextUsed env key fun text => field = text := by
  apply textUsed_of_unicode unicode
  intro text found
  rw [reading, found]
  rfl

end Lookup

section Startup

variable {env : Environment} {config : Config}

/-- A variable that was used holds Unicode, and so does a path that is set. -/
theorem NothingIgnored.unicode (used : NothingIgnored env config)
    (accepted : Config.fromEnv env = .ok config) :
    ∀ key ∈ readVariables, envVar env key ≠ .error .notUnicode := by
  have settings := Config.settingsFrom_of_fromLookup accepted
  have certPath := used.tlsCertPath
  have keyPath := used.tlsKeyPath
  rw [settings.tlsCertPath, isSome_lookup_iff] at certPath
  rw [settings.tlsKeyPath, isSome_lookup_iff] at keyPath
  simp only [readVariables, List.forall_mem_cons, List.not_mem_nil, false_implies, implies_true,
    and_true]
  exact ⟨used.bind.unicode, used.gpuDns.unicode, used.cpuDns.unicode, used.dnsRefresh.unicode,
    used.healthPoll.unicode, used.heartbeat.unicode, used.legacyBudget.unicode,
    used.hedgeDelay.unicode, used.controlTimeout.unicode, used.retryCount.unicode,
    used.retryInitialBackoff.unicode, used.retryMaxBackoff.unicode, used.cooldown.unicode,
    certPath, keyPath, used.upstreamTls.unicode, used.upstreamCaBundle.unicode⟩

/-- An explicit hedge delay wins over the legacy budget. -/
theorem hedgeDelay_used (accepted : Config.fromEnv env = .ok config)
    (unicode : envVar env "BGE_ROUTER_HEDGE_DELAY_MS" ≠ .error .notUnicode) :
    NumberUsed env "BGE_ROUTER_HEDGE_DELAY_MS"
      fun millis => config.hedgeDelay = .fromMillis millis := by
  obtain ⟨legacyRaw, explicitDelayMs, -, explicit, delay, -⟩ :=
    (Config.settingsFrom_of_fromLookup accepted).hedgeDelay
  apply textUsed_of_unicode unicode
  intro text found
  obtain ⟨parsed, isSome⟩ := parseDecimal_of_parseOptionalU64 found explicit
  obtain ⟨millis, rfl⟩ := Option.isSome_iff_exists.mp isSome
  exact ⟨millis, parsed, delay⟩

theorem legacyBudget_used (accepted : Config.fromEnv env = .ok config)
    (unicode : envVar env "BGE_ROUTER_FALLBACK_BUDGET_MS" ≠ .error .notUnicode) :
    NumberUsed env "BGE_ROUTER_FALLBACK_BUDGET_MS"
      fun millis => config.legacyFallbackBudgetSet = true ∧
        (env "BGE_ROUTER_HEDGE_DELAY_MS" = none → config.hedgeDelay = .fromMillis millis) := by
  obtain ⟨legacyRaw, explicitDelayMs, legacy, explicit, delay, budgetSet⟩ :=
    (Config.settingsFrom_of_fromLookup accepted).hedgeDelay
  apply textUsed_of_unicode unicode
  intro text found
  obtain ⟨parsed, isSome⟩ := parseDecimal_of_parseOptionalU64 found legacy
  obtain ⟨millis, rfl⟩ := Option.isSome_iff_exists.mp isSome
  refine ⟨millis, parsed, budgetSet, fun unset => ?_⟩
  have noExplicit := parseOptionalU64_of_unset (lookup_of_unset unset)
  obtain rfl := Except.ok.inj (explicit.symm.trans noExplicit)
  exact delay

theorem nothingIgnored_of_unicode (accepted : Config.fromEnv env = .ok config)
    (unicode : ∀ key ∈ readVariables, envVar env key ≠ .error .notUnicode) :
    NothingIgnored env config := by
  simp only [readVariables, List.forall_mem_cons, List.not_mem_nil, false_implies, implies_true,
    and_true] at unicode
  obtain ⟨bind, gpuDns, cpuDns, dnsRefresh, healthPoll, heartbeat, legacyBudget, hedgeDelay,
    controlTimeout, retryCount, initialBackoff, maxBackoff, cooldown, certPath, keyPath,
    upstreamTls, caBundle⟩ := unicode
  have settings := Config.settingsFrom_of_fromLookup accepted
  have certIsSome : config.tlsCertPath.isSome = (env "BGE_ROUTER_TLS_CERT_PATH").isSome := by
    rw [settings.tlsCertPath]
    exact isSome_lookup_iff.mpr certPath
  have keyIsSome : config.tlsKeyPath.isSome = (env "BGE_ROUTER_TLS_KEY_PATH").isSome := by
    rw [settings.tlsKeyPath]
    exact isSome_lookup_iff.mpr keyPath
  exact {
    bind := textUsed_of_getD bind settings.bind
    gpuDns := textUsed_of_getD gpuDns settings.gpuDns
    cpuDns := textUsed_of_getD cpuDns settings.cpuDns
    dnsRefresh := numberUsed_of_reading dnsRefresh settings.dnsRefresh
    healthPoll := numberUsed_of_reading healthPoll settings.healthPoll
    heartbeat := numberUsed_of_reading heartbeat settings.heartbeat
    legacyBudget := legacyBudget_used accepted legacyBudget
    hedgeDelay := hedgeDelay_used accepted hedgeDelay
    controlTimeout := numberUsed_of_reading controlTimeout settings.controlTimeout
    retryCount := numberUsed_of_reading retryCount ⟨_, settings.retryCount, rfl⟩
    retryInitialBackoff := numberUsed_of_reading initialBackoff settings.retryInitialBackoff
    retryMaxBackoff := numberUsed_of_reading maxBackoff settings.retryMaxBackoff
    cooldown := numberUsed_of_reading cooldown settings.cooldown
    tlsPair := by
      rw [← certIsSome, ← keyIsSome]
      exact (Config.withinBounds_of_fromLookup accepted).tlsPaths
    tlsCertPath := certIsSome
    tlsKeyPath := keyIsSome
    upstreamTls := by
      apply textUsed_of_unicode upstreamTls
      intro text found
      rw [settings.upstreamTls, found]
      rfl
    upstreamCaBundle := by
      apply textUsed_of_unicode caBundle
      intro text found
      rw [settings.upstreamCaBundle, found] }

/-- **Nothing is ignored at startup** exactly when every variable that is set
holds Unicode. -/
theorem nothingIgnored_iff_of_fromEnv (accepted : Config.fromEnv env = .ok config) :
    NothingIgnored env config ↔
      ∀ key ∈ readVariables, envVar env key ≠ .error .notUnicode :=
  ⟨fun used => used.unicode accepted, nothingIgnored_of_unicode accepted⟩

end Startup

/-- The text of one variable, in its own encoding. -/
def sevenRetries : Environment := fun key =>
  if key = "BGE_ROUTER_RETRY_COUNT" then some ⟨#[55]⟩ else none

theorem nothingIgnored_sevenRetries :
    NothingIgnored sevenRetries { Config.default with retryCount := 7 } := by
  have accepted : Config.fromEnv sevenRetries = .ok { Config.default with retryCount := 7 } := rfl
  exact (nothingIgnored_iff_of_fromEnv accepted).mpr (by decide)

/-- Both paths of the listener's certificate are set, in no Unicode encoding. -/
def latinTlsPaths : Environment := fun key =>
  if key = "BGE_ROUTER_TLS_CERT_PATH" ∨ key = "BGE_ROUTER_TLS_KEY_PATH" then
    some ⟨#[47, 233]⟩
  else none

/-- The router accepts them and starts without TLS. -/
theorem latinTlsPaths_ignored :
    ¬ ∀ env config, Config.fromEnv env = .ok config → NothingIgnored env config := by
  intro used
  have accepted : Config.fromEnv latinTlsPaths = .ok .default := rfl
  have certPath := (used latinTlsPaths .default accepted).tlsCertPath
  exact absurd certPath (by decide)

end BgeRouter
