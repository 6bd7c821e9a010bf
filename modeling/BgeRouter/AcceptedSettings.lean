import BgeRouter.Configuration
import Mathlib.Tactic.TFAE

/-!
# Which configurations there are

Periods come in whole seconds and timeouts in whole milliseconds, both as
64-bit numbers.  Every configuration in these units that keeps to the bounds
can be written down as an environment, and reading it gives it back.  No other
configuration is accepted.
-/

namespace BgeRouter

/-- A period that a variable in seconds can hold. -/
def Duration.IsSecs (duration : Duration) : Prop :=
  ∃ secs, secs ≤ u64Max ∧ duration = .fromSecs secs

def Duration.IsMillis (duration : Duration) : Prop :=
  ∃ millis, millis ≤ u64Max ∧ duration = .fromMillis millis

def Duration.secsText (duration : Duration) : String :=
  Nat.repr (duration / 1000000000)

def Duration.millisText (duration : Duration) : String :=
  Nat.repr (duration / 1000000)

namespace Config

structure InUnits (config : Config) : Prop where
  dnsRefresh : config.dnsRefresh.IsSecs
  healthPoll : config.healthPoll.IsSecs
  heartbeat : config.heartbeat.IsSecs
  cooldown : config.cooldown.IsSecs
  hedgeDelay : config.hedgeDelay.IsMillis
  controlTimeout : config.controlTimeout.IsMillis
  retryInitialBackoff : config.retryInitialBackoff.IsMillis
  retryMaxBackoff : config.retryMaxBackoff.IsMillis

/-- What makes a configuration one that can be set. -/
structure Expressible (config : Config) : Prop where
  bounds : config.WithinBounds
  units : config.InUnits

/-- An environment in which every setting is spelled out. -/
def toLookup (config : Config) : String → Option String
  | "BGE_ROUTER_BIND" => some config.bind
  | "BGE_ROUTER_GPU_DNS" => some config.gpuDns
  | "BGE_ROUTER_CPU_DNS" => some config.cpuDns
  | "BGE_ROUTER_DNS_REFRESH_SECS" => some config.dnsRefresh.secsText
  | "BGE_ROUTER_HEALTH_POLL_SECS" => some config.healthPoll.secsText
  | "BGE_ROUTER_HEARTBEAT_SECS" => some config.heartbeat.secsText
  | "BGE_ROUTER_FALLBACK_BUDGET_MS" =>
      if config.legacyFallbackBudgetSet then some config.hedgeDelay.millisText else none
  | "BGE_ROUTER_HEDGE_DELAY_MS" => some config.hedgeDelay.millisText
  | "BGE_ROUTER_CONTROL_TIMEOUT_MS" => some config.controlTimeout.millisText
  | "BGE_ROUTER_RETRY_COUNT" => some (Nat.repr config.retryCount)
  | "BGE_ROUTER_RETRY_INITIAL_BACKOFF_MS" => some config.retryInitialBackoff.millisText
  | "BGE_ROUTER_RETRY_MAX_BACKOFF_MS" => some config.retryMaxBackoff.millisText
  | "BGE_ROUTER_COOLDOWN_SECS" => some config.cooldown.secsText
  | "BGE_ROUTER_TLS_CERT_PATH" => config.tlsCertPath
  | "BGE_ROUTER_TLS_KEY_PATH" => config.tlsKeyPath
  | "BGE_ROUTER_UPSTREAM_CA_BUNDLE" => config.upstreamCaBundle
  | "BGE_ROUTER_UPSTREAM_TLS" => if config.upstreamTls then some "1" else none
  | _ => none

end Config

section Numbers

variable {lookup : String → Option String} {key : String} {default value : Nat}

/-- Digits without a sign are read as they are. -/
theorem parseDecimal_of_unsigned {text : String} {digits : List Char}
    (spelled : text.toList = digits) (unsigned : '+' ∉ digits) (nonempty : digits ≠ [])
    (allDigits : digits.all Char.isDigit = true)
    (reads : digits.foldl (fun value digit => value * 10 + (digit.toNat - 48)) 0 = value)
    (bounded : value ≤ u64Max) : parseDecimal text = some value := by
  rw [parseDecimal, spelled]
  split
  · next plus rest =>
      exact absurd List.mem_cons_self unsigned
  · rw [reads]
    exact if_pos ⟨nonempty, allDigits, bounded⟩

/-- What is printed is read back. -/
theorem parseDecimal_repr (bounded : value ≤ u64Max) :
    parseDecimal (Nat.repr value) = some value := by
  have digits : ∀ digit ∈ Nat.toDigits 10 value, digit.isDigit = true := fun digit member =>
    Nat.isDigit_of_mem_toDigits (by decide) (by decide) member
  refine parseDecimal_of_unsigned Nat.toList_repr ?_ Nat.toDigits_ne_nil
    (List.all_eq_true.mpr digits) ?_ bounded
  · exact fun plus => absurd (digits '+' plus) (by decide)
  · simp only [Nat.mul_comm _ 10]
    exact Nat.ofDigitChars_ten_toDigits

theorem le_of_parseDecimal {text : String} (parsed : parseDecimal text = some value) :
    value ≤ u64Max := by
  rw [parseDecimal] at parsed
  split_ifs at parsed with valid
  obtain rfl := Option.some.inj parsed
  exact valid.2.2

theorem parseU64_le (defaultFits : default ≤ u64Max)
    (read : parseU64 key default lookup = .ok value) : value ≤ u64Max := by
  cases set : lookup key with
  | none =>
      rw [parseU64, set] at read
      exact Except.ok.inj read ▸ defaultFits
  | some text => exact le_of_parseDecimal (parseDecimal_of_parseU64 set read)

theorem parseOptionalU64_le {value : Option Nat}
    (read : parseOptionalU64 key lookup = .ok value) : ∀ number ∈ value, number ≤ u64Max := by
  intro number member
  cases set : lookup key with
  | none =>
      rw [parseOptionalU64, set] at read
      cases Except.ok.inj read ▸ member
  | some text =>
      have parsed := (parseDecimal_of_parseOptionalU64 set read).1
      exact le_of_parseDecimal (parsed.trans member)

theorem getD_le {reading : Option Nat} {limit : Nat} (fits : ∀ number ∈ reading, number ≤ limit)
    (defaultFits : default ≤ limit) : reading.getD default ≤ limit := by
  cases reading with
  | none => exact defaultFits
  | some number => exact fits number rfl

theorem parseU64_of_set (set : lookup key = some (Nat.repr value)) (bounded : value ≤ u64Max) :
    parseU64 key default lookup = .ok value := by
  simp only [parseU64, set, parseDecimal_repr bounded]

theorem parseOptionalU64_of_set (set : lookup key = some (Nat.repr value))
    (bounded : value ≤ u64Max) : parseOptionalU64 key lookup = .ok (some value) := by
  simp only [parseOptionalU64, set, parseDecimal_repr bounded]

theorem reads_secsText {duration : Duration} (set : lookup key = some duration.secsText)
    (units : duration.IsSecs) :
    ∃ secs, parseU64 key default lookup = .ok secs ∧ duration = .fromSecs secs := by
  obtain ⟨secs, bounded, rfl⟩ := units
  have text : (Duration.fromSecs secs).secsText = Nat.repr secs := by
    rw [Duration.secsText, Duration.fromSecs, Nat.mul_div_cancel _ (by decide)]
  exact ⟨secs, parseU64_of_set (text ▸ set) bounded, rfl⟩

theorem millisText_fromMillis (millis : Nat) :
    (Duration.fromMillis millis).millisText = Nat.repr millis := by
  rw [Duration.millisText, Duration.fromMillis, Nat.mul_div_cancel _ (by decide)]

theorem reads_millisText {duration : Duration} (set : lookup key = some duration.millisText)
    (units : duration.IsMillis) :
    ∃ millis, parseU64 key default lookup = .ok millis ∧ duration = .fromMillis millis := by
  obtain ⟨millis, bounded, rfl⟩ := units
  exact ⟨millis, parseU64_of_set (millisText_fromMillis millis ▸ set) bounded, rfl⟩

end Numbers

section RoundTrip

variable {config : Config}

theorem ok_bind {Value Result : Type} (value : Value) (next : Value → Except String Result) :
    (Except.ok value >>= next) = next value :=
  rfl

theorem require_of {condition : Prop} [Decidable condition] (message : String)
    (holds : condition) : require condition message = .ok () :=
  if_pos holds

theorem ne_zero_of_fromMillis_pos {millis : Nat} (positive : 0 < Duration.fromMillis millis) :
    millis ≠ 0 := by
  rintro rfl
  exact absurd positive (by decide)

/-- The budget variable is set exactly if it was. -/
theorem parseOptionalU64_legacyBudget {millis : Nat} (bounded : millis ≤ u64Max)
    (hedgeDelay : config.hedgeDelay = .fromMillis millis) :
    parseOptionalU64 "BGE_ROUTER_FALLBACK_BUDGET_MS" config.toLookup =
      .ok (if config.legacyFallbackBudgetSet then some millis else none) := by
  have found : config.toLookup "BGE_ROUTER_FALLBACK_BUDGET_MS" =
      if config.legacyFallbackBudgetSet then some config.hedgeDelay.millisText else none := rfl
  cases legacy : config.legacyFallbackBudgetSet with
  | false =>
      rw [legacy, if_neg (by decide)] at found
      rw [if_neg (by decide)]
      exact parseOptionalU64_of_unset found
  | true =>
      rw [legacy, if_pos rfl, hedgeDelay, millisText_fromMillis] at found
      rw [if_pos rfl]
      exact parseOptionalU64_of_set found bounded

theorem upstreamTls_toLookup :
    ((config.toLookup "BGE_ROUTER_UPSTREAM_TLS").any fun text =>
      decide (text.map Char.toLower ∈ ["1", "true", "yes"])) = config.upstreamTls := by
  have found : config.toLookup "BGE_ROUTER_UPSTREAM_TLS" =
      if config.upstreamTls then some "1" else none := rfl
  rw [found]
  cases config.upstreamTls with
  | false => rfl
  | true => decide +kernel

theorem isSome_legacyBudget {millis : Nat} :
    (if config.legacyFallbackBudgetSet then some millis else none).isSome =
      config.legacyFallbackBudgetSet := by
  cases config.legacyFallbackBudgetSet <;> rfl

/-- The environment that spells out a configuration is read as it. -/
theorem Config.fromLookup_toLookup (expressible : config.Expressible) :
    Config.fromLookup config.toLookup = .ok config := by
  obtain ⟨bounds, units⟩ := expressible
  obtain ⟨dnsSecs, dnsRead, dnsRefresh⟩ := @reads_secsText config.toLookup
    "BGE_ROUTER_DNS_REFRESH_SECS" 30 _ rfl units.dnsRefresh
  obtain ⟨pollSecs, pollRead, healthPoll⟩ := @reads_secsText config.toLookup
    "BGE_ROUTER_HEALTH_POLL_SECS" 5 _ rfl units.healthPoll
  obtain ⟨beatSecs, beatRead, heartbeat⟩ := @reads_secsText config.toLookup
    "BGE_ROUTER_HEARTBEAT_SECS" 60 _ rfl units.heartbeat
  obtain ⟨coolSecs, coolRead, cooldown⟩ := @reads_secsText config.toLookup
    "BGE_ROUTER_COOLDOWN_SECS" defaultCooldownSecs _ rfl units.cooldown
  obtain ⟨timeoutMs, timeoutRead, controlTimeout⟩ := @reads_millisText config.toLookup
    "BGE_ROUTER_CONTROL_TIMEOUT_MS" defaultControlTimeoutMs _ rfl units.controlTimeout
  obtain ⟨initialMs, initialRead, retryInitialBackoff⟩ := @reads_millisText config.toLookup
    "BGE_ROUTER_RETRY_INITIAL_BACKOFF_MS" defaultRetryInitialBackoffMs _ rfl
    units.retryInitialBackoff
  obtain ⟨maxMs, maxRead, retryMaxBackoff⟩ := @reads_millisText config.toLookup
    "BGE_ROUTER_RETRY_MAX_BACKOFF_MS" defaultRetryMaxBackoffMs _ rfl units.retryMaxBackoff
  obtain ⟨delayMs, delayFits, hedgeDelay⟩ := units.hedgeDelay
  have delayRead : parseOptionalU64 "BGE_ROUTER_HEDGE_DELAY_MS" config.toLookup =
      .ok (some delayMs) := by
    refine parseOptionalU64_of_set ?_ delayFits
    rw [← millisText_fromMillis, ← hedgeDelay]
    rfl
  have countRead : parseU64 "BGE_ROUTER_RETRY_COUNT" defaultRetryCount config.toLookup =
      .ok config.retryCount :=
    parseU64_of_set rfl (Nat.le_trans bounds.retryCount (by decide))
  have delayCheck := ne_zero_of_fromMillis_pos (hedgeDelay ▸ bounds.hedgeDelay)
  have timeoutCheck := ne_zero_of_fromMillis_pos (controlTimeout ▸ bounds.controlTimeout)
  have initialCheck := ne_zero_of_fromMillis_pos (retryInitialBackoff ▸ bounds.initialBackoff)
  have orderCheck : initialMs ≤ maxMs := by
    have order := bounds.backoffOrder
    rw [retryInitialBackoff, retryMaxBackoff] at order
    exact Nat.le_of_mul_le_mul_right order (by decide)
  have pathCheck : (config.toLookup "BGE_ROUTER_TLS_CERT_PATH").isSome =
      (config.toLookup "BGE_ROUTER_TLS_KEY_PATH").isSome := bounds.tlsPaths
  have countCheck : config.retryCount ≤ u32Max := Nat.le_trans bounds.retryCount (by decide)
  rw [Config.fromLookup, dnsRead, ok_bind, pollRead, ok_bind, beatRead, ok_bind,
    parseOptionalU64_legacyBudget delayFits hedgeDelay, ok_bind, delayRead, ok_bind]
  dsimp only [Option.getD_some]
  rw [require_of _ delayCheck, ok_bind, timeoutRead, ok_bind, require_of _ timeoutCheck,
    ok_bind, countRead, ok_bind, require_of _ countCheck, ok_bind,
    require_of _ bounds.retryCount, ok_bind, initialRead, ok_bind, require_of _ initialCheck,
    ok_bind, maxRead, ok_bind, require_of _ orderCheck, ok_bind, coolRead, ok_bind,
    require_of _ pathCheck, ok_bind, upstreamTls_toLookup, ← dnsRefresh, ← healthPoll,
    ← heartbeat, ← cooldown, ← controlTimeout, ← retryInitialBackoff, ← retryMaxBackoff,
    ← hedgeDelay, isSome_legacyBudget]
  rfl

/-- Only the values that a variable can hold are accepted. -/
theorem Config.expressible_of_fromLookup {lookup : String → Option String}
    (accepted : Config.fromLookup lookup = .ok config) : config.Expressible := by
  have settings := Config.settingsFrom_of_fromLookup accepted
  obtain ⟨dnsSecs, dnsRead, dnsRefresh⟩ := settings.dnsRefresh
  obtain ⟨pollSecs, pollRead, healthPoll⟩ := settings.healthPoll
  obtain ⟨beatSecs, beatRead, heartbeat⟩ := settings.heartbeat
  obtain ⟨coolSecs, coolRead, cooldown⟩ := settings.cooldown
  obtain ⟨timeoutMs, timeoutRead, controlTimeout⟩ := settings.controlTimeout
  obtain ⟨initialMs, initialRead, retryInitialBackoff⟩ := settings.retryInitialBackoff
  obtain ⟨maxMs, maxRead, retryMaxBackoff⟩ := settings.retryMaxBackoff
  obtain ⟨legacyRaw, explicitMs, legacyRead, delayRead, hedgeDelay, -⟩ := settings.hedgeDelay
  refine ⟨Config.withinBounds_of_fromLookup accepted, ?_⟩
  exact {
    dnsRefresh := ⟨dnsSecs, parseU64_le (by decide) dnsRead, dnsRefresh⟩
    healthPoll := ⟨pollSecs, parseU64_le (by decide) pollRead, healthPoll⟩
    heartbeat := ⟨beatSecs, parseU64_le (by decide) beatRead, heartbeat⟩
    cooldown := ⟨coolSecs, parseU64_le (by decide) coolRead, cooldown⟩
    hedgeDelay := ⟨_, getD_le (parseOptionalU64_le delayRead)
      (getD_le (parseOptionalU64_le legacyRead) (by decide)), hedgeDelay⟩
    controlTimeout := ⟨timeoutMs, parseU64_le (by decide) timeoutRead, controlTimeout⟩
    retryInitialBackoff := ⟨initialMs, parseU64_le (by decide) initialRead, retryInitialBackoff⟩
    retryMaxBackoff := ⟨maxMs, parseU64_le (by decide) maxRead, retryMaxBackoff⟩ }

/-- **Which configurations are accepted.**  They are those in the units of the
variables and within the bounds, and each of them is read from the environment
that spells it out. -/
theorem acceptedSettings (config : Config) :
    List.TFAE [∃ lookup, Config.fromLookup lookup = .ok config, config.Expressible,
      Config.fromLookup config.toLookup = .ok config] := by
  tfae_have 1 → 2 := fun ⟨_, accepted⟩ => Config.expressible_of_fromLookup accepted
  tfae_have 2 → 3 := Config.fromLookup_toLookup
  tfae_have 3 → 1 := fun accepted => ⟨config.toLookup, accepted⟩
  tfae_finish

end RoundTrip

end BgeRouter
