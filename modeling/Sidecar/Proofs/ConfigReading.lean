import Mathlib.Data.List.TakeWhile
import Sidecar.Proofs.Trimming
import Sidecar.Proofs.DurationText
import Sidecar.Server.Lifecycle
/-! # Reading the server settings

The server settings are read from three environment variables, each optional. Reading refuses,
in this order: a listen address that is set but blank once trimmed, a timeout text that does not
read as a duration, a poll interval text that does not, and a poll interval of zero; otherwise it
gives the trimmed address and the durations read, with a default for each variable not set
(`config_reading`).

Reading ends with `validate`, which checks more than that: a blank address and durations past
`Duration.signedMax`. Neither can happen by then. An address that is not blank stays so once
trimmed, and the duration reader accepts nothing past `signedMax` (`ofLookup_of_not_blank`), so
what is read always passes validation. Building a server validates its configuration again, so a
server built from the environment fails exactly when reading its settings fails, with the same
error, and otherwise keeps the settings read. -/
namespace Sidecar
open Duration

/-- Every duration the reader gives is at most `signedMax`. -/
theorem Duration.parse?_le {v : String} {d : Duration} (h : parse? v = some d) : d ≤ signedMax := by
  rcases exists_pieces_of_parse? h with ⟨-, rfl⟩ | ⟨ps, -, -, hle, hd⟩
  · exact Nat.zero_le _
  · show d.toNanos ≤ signedMax.toNanos
    omega

namespace ServerConfig

variable {env : Lookup} {c : ServerConfig}

@[simp] theorem duration_readinessTimeout (c : ServerConfig) :
    c.duration .readinessTimeout = c.readinessTimeout := rfl

@[simp] theorem duration_pollInterval (c : ServerConfig) :
    c.duration .pollInterval = c.readinessPollInterval := rfl

/-- A duration setting read from the environment as `d`: unset with `d` its default, or set to a
text that reads as `d`. -/
def Reads (env : Lookup) (s : DurationSetting) (d : Duration) : Prop :=
  (env s.var = none ∧ d = default.duration s) ∨ ∃ v, env s.var = some v ∧ Duration.parse? v = some d

/-- A duration setting set to a text that does not read as a duration. -/
def Rejects (env : Lookup) (s : DurationSetting) (v : String) : Prop :=
  env s.var = some v ∧ Duration.parse? v = none

/-- The listen address is set to a text that trimming leaves empty. -/
def BlankAddress (env : Lookup) : Prop :=
  ∃ v, env listenAddressVar = some v ∧ Text.trim v = ""

/-- The listen address a configuration takes: the variable's text trimmed, or the default. -/
def addressOf (env : Lookup) : String :=
  ((env listenAddressVar).map Text.trim).getD default.listenAddress

theorem durationVar_eq_error_iff {s : DurationSetting} {e : ConfigError} :
    durationVar env s = .error e ↔ ∃ v, Rejects env s v ∧ e = .invalidDuration s v := by
  unfold durationVar Rejects
  cases hv : env s.var with
  | none => simp
  | some v =>
    cases hp : Duration.parse? v with
    | none => simp [hp, eq_comm]
    | some d => simp [hp]

theorem reads_iff_durationVar {s : DurationSetting} {d : Duration} :
    Reads env s d ↔ ∃ o, durationVar env s = .ok o ∧ o.getD (default.duration s) = d := by
  unfold durationVar Reads
  cases hv : env s.var with
  | none => simp [eq_comm]
  | some v =>
    cases hp : Duration.parse? v with
    | none => simp [hp]
    | some d' => simp [hp]

/-- The defaults are within range. -/
theorem default_duration_le (s : DurationSetting) : default.duration s ≤ signedMax := by
  cases s <;> decide

theorem le_of_reads {s : DurationSetting} {d : Duration} (h : Reads env s d) : d ≤ signedMax := by
  rcases h with ⟨-, rfl⟩ | ⟨v, -, hv⟩
  · exact default_duration_le s
  · exact Duration.parse?_le hv

/-- A configuration with an address and durations within range fails validation only on a zero
poll interval. -/
theorem validate_eq (ha : Text.isBlankText c.listenAddress = false)
    (ht : c.readinessTimeout ≤ signedMax) (hp : c.readinessPollInterval ≤ signedMax) :
    c.validate =
      if c.readinessPollInterval = Duration.zero then .error (.zeroDuration .pollInterval)
      else .ok () := by
  have ht' : ¬ signedMax < c.readinessTimeout := Nat.not_lt.2 ht
  have hp' : ¬ signedMax < c.readinessPollInterval := Nat.not_lt.2 hp
  simp only [validate, ha, ht', hp', Bool.false_eq_true, if_false]

theorem blankAddress_iff :
    BlankAddress env ↔ ∃ v, env listenAddressVar = some v ∧ Text.isBlankText v = true := by
  simp only [BlankAddress, Text.isBlankText_iff_trim_eq]

theorem ofLookup_of_blank (h : BlankAddress env) : ofLookup env = .error .emptyListenAddress := by
  obtain ⟨v, hv, hb⟩ := blankAddress_iff.1 h
  simp [ofLookup, hv, hb, bind, Except.bind]

theorem isBlankText_of_not_blank {v : String} (h : ¬ BlankAddress env)
    (hv : env listenAddressVar = some v) : Text.isBlankText v = false :=
  Bool.eq_false_iff.2 fun hb => h (blankAddress_iff.2 ⟨v, hv, hb⟩)

/-- A reading that does not end on the address found it not blank. -/
theorem not_blankAddress_of_ofLookup {x : Except ConfigError ServerConfig} (h : ofLookup env = x)
    (hx : x ≠ .error .emptyListenAddress) : ¬ BlankAddress env :=
  fun hb => hx (h ▸ ofLookup_of_blank hb)

/-- An address that is not blank stays so once trimmed. -/
theorem isBlankText_addressOf (h : ¬ BlankAddress env) :
    Text.isBlankText (addressOf env) = false := by
  unfold addressOf
  cases hv : env listenAddressVar with
  | none => rfl
  | some v =>
    rw [Option.map_some, Option.getD_some, Bool.eq_false_iff, ne_eq, Text.isBlankText_iff_trim_eq,
      Text.trim_trim]
    exact fun hb => h ⟨v, hv, hb⟩

/-- Once the address is not blank, reading checks the timeout text, then the poll interval text,
and then only that the poll interval is not zero: the address stays not blank and every
duration read is within range. -/
theorem ofLookup_of_not_blank (h : ¬ BlankAddress env) :
    ofLookup env =
      match durationVar env .readinessTimeout, durationVar env .pollInterval with
      | .error e, _ => .error e
      | .ok _, .error e => .error e
      | .ok t, .ok p =>
        if p.getD default.readinessPollInterval = Duration.zero then
          .error (.zeroDuration .pollInterval)
        else .ok ⟨addressOf env, t.getD default.readinessTimeout, p.getD default.readinessPollInterval⟩ := by
  have hA := isBlankText_addressOf h
  have hle : ∀ {s o}, durationVar env s = .ok o → o.getD (default.duration s) ≤ signedMax :=
    fun hd => le_of_reads (reads_iff_durationVar.2 ⟨_, hd, rfl⟩)
  unfold ofLookup
  simp only [bind, Except.bind, pure, Except.pure]
  cases ha : env listenAddressVar
  case' none => rw [show default.listenAddress = addressOf env by simp [addressOf, ha]]
  case' some v =>
    simp only [isBlankText_of_not_blank h ha, Bool.false_eq_true, if_false]
    rw [show Text.trim v = addressOf env by simp [addressOf, ha]]
  all_goals
    cases ht : durationVar env .readinessTimeout with
    | error e => rfl
    | ok t =>
      cases hp : durationVar env .pollInterval with
      | error e => rfl
      | ok p =>
        dsimp only
        rw [@validate_eq ⟨addressOf env, t.getD default.readinessTimeout,
          p.getD default.readinessPollInterval⟩ hA (hle ht) (hle hp)]
        by_cases hz : p.getD default.readinessPollInterval = Duration.zero <;> simp [hz]

/-- Past a set address, reading ends in one of four ways: the readiness timeout is refused, the
poll interval is refused, the poll interval read is zero, or a configuration is read. -/
theorem ofLookup_outcomes (hb : ¬ BlankAddress env) :
    (∃ v, Rejects env .readinessTimeout v ∧
        ofLookup env = .error (.invalidDuration .readinessTimeout v)) ∨
    (∃ t v, Reads env .readinessTimeout t ∧ Rejects env .pollInterval v ∧
        ofLookup env = .error (.invalidDuration .pollInterval v)) ∨
    (∃ t, Reads env .readinessTimeout t ∧ Reads env .pollInterval Duration.zero ∧
        ofLookup env = .error (.zeroDuration .pollInterval)) ∨
    ∃ c, ofLookup env = .ok c := by
  rw [ofLookup_of_not_blank hb]
  cases ht : durationVar env .readinessTimeout with
  | error e =>
    obtain ⟨v, hr, rfl⟩ := durationVar_eq_error_iff.1 ht
    exact .inl ⟨v, hr, rfl⟩
  | ok t =>
    have hrt := reads_iff_durationVar.2 ⟨t, ht, rfl⟩
    cases hp : durationVar env .pollInterval with
    | error e =>
      obtain ⟨v, hr, rfl⟩ := durationVar_eq_error_iff.1 hp
      exact .inr (.inl ⟨_, v, hrt, hr, rfl⟩)
    | ok p =>
      by_cases hz : p.getD default.readinessPollInterval = Duration.zero
      · have hrp := reads_iff_durationVar.2 ⟨p, hp, hz⟩
        exact .inr (.inr (.inl ⟨_, hrt, hrp, if_pos hz⟩))
      · exact .inr (.inr (.inr ⟨_, if_neg hz⟩))

theorem ofLookup_eq_ok_iff :
    ofLookup env = .ok c ↔
      ¬ BlankAddress env ∧ c.listenAddress = addressOf env ∧
        Reads env .readinessTimeout c.readinessTimeout ∧
        Reads env .pollInterval c.readinessPollInterval ∧ c.readinessPollInterval ≠ Duration.zero := by
  obtain ⟨address, timeout, poll⟩ := c
  constructor
  · intro h
    have hb := not_blankAddress_of_ofLookup h nofun
    rw [ofLookup_of_not_blank hb] at h
    split at h
    · cases h
    · cases h
    · next t p ht hp =>
      split at h
      · cases h
      · next hz =>
        cases h
        exact ⟨hb, rfl, reads_iff_durationVar.2 ⟨t, ht, rfl⟩, reads_iff_durationVar.2 ⟨p, hp, rfl⟩,
          hz⟩
  · rintro ⟨hb, rfl, ht, hp, hz⟩
    obtain ⟨t, hdt, rfl⟩ := reads_iff_durationVar.1 ht
    obtain ⟨p, hdp, rfl⟩ := reads_iff_durationVar.1 hp
    rw [ofLookup_of_not_blank hb, hdt, hdp]
    simp only [duration_readinessTimeout, duration_pollInterval] at hz ⊢
    rw [if_neg hz]

theorem ofLookup_eq_emptyListenAddress_iff :
    ofLookup env = .error .emptyListenAddress ↔ BlankAddress env := by
  refine ⟨fun h => ?_, ofLookup_of_blank⟩
  by_contra hb
  -- a duration variable refuses with its own error, never with the address's
  rcases ofLookup_outcomes hb with ⟨_, -, h'⟩ | ⟨_, _, -, -, h'⟩ | ⟨_, -, -, h'⟩ | ⟨_, h'⟩ <;>
    rw [h'] at h <;> cases h

theorem ofLookup_eq_invalidDuration_iff {s : DurationSetting} {v : String} :
    ofLookup env = .error (.invalidDuration s v) ↔
      ¬ BlankAddress env ∧
        ((s = .readinessTimeout ∧ Rejects env .readinessTimeout v) ∨
          (s = .pollInterval ∧ (∃ t, Reads env .readinessTimeout t) ∧ Rejects env .pollInterval v)) := by
  constructor
  · intro h
    have hb := not_blankAddress_of_ofLookup h nofun
    refine ⟨hb, ?_⟩
    rcases ofLookup_outcomes hb with ⟨_, hr, h'⟩ | ⟨t, _, ht, hr, h'⟩ | ⟨_, -, -, h'⟩ | ⟨_, h'⟩ <;>
      rw [h'] at h <;> cases h
    · exact .inl ⟨rfl, hr⟩
    · exact .inr ⟨rfl, ⟨t, ht⟩, hr⟩
  · rintro ⟨hb, ⟨rfl, hr⟩ | ⟨rfl, ⟨t, ht⟩, hr⟩⟩
    · rw [ofLookup_of_not_blank hb, durationVar_eq_error_iff.2 ⟨v, hr, rfl⟩]
    · obtain ⟨t, hdt, -⟩ := reads_iff_durationVar.1 ht
      rw [ofLookup_of_not_blank hb, hdt, durationVar_eq_error_iff.2 ⟨v, hr, rfl⟩]

theorem ofLookup_eq_zeroDuration_iff {s : DurationSetting} :
    ofLookup env = .error (.zeroDuration s) ↔
      s = .pollInterval ∧ ¬ BlankAddress env ∧ (∃ t, Reads env .readinessTimeout t) ∧
        Reads env .pollInterval Duration.zero := by
  constructor
  · intro h
    have hb := not_blankAddress_of_ofLookup h nofun
    rcases ofLookup_outcomes hb with ⟨_, -, h'⟩ | ⟨_, _, -, -, h'⟩ | ⟨t, ht, hp, h'⟩ | ⟨_, h'⟩ <;>
      rw [h'] at h <;> cases h
    exact ⟨rfl, hb, ⟨t, ht⟩, hp⟩
  · rintro ⟨rfl, hb, ⟨t, ht⟩, hp⟩
    obtain ⟨t, hdt, -⟩ := reads_iff_durationVar.1 ht
    obtain ⟨p, hdp, hz⟩ := reads_iff_durationVar.1 hp
    rw [ofLookup_of_not_blank hb, hdt, hdp]
    simp only [duration_pollInterval] at hz
    simp only [hz, if_true]

/-- Reading never finds a duration out of range: every duration it reads is within range. -/
theorem ofLookup_ne_durationOutOfRange (s : DurationSetting) :
    ofLookup env ≠ .error (.durationOutOfRange s) := by
  intro h
  by_cases hb : BlankAddress env
  · rw [ofLookup_of_blank hb] at h
    cases h
  rcases ofLookup_outcomes hb with ⟨_, -, h'⟩ | ⟨_, _, -, -, h'⟩ | ⟨_, -, -, h'⟩ | ⟨_, h'⟩ <;>
    rw [h'] at h <;> cases h

/-- Every configuration read passes validation. -/
theorem validate_of_ofLookup (h : ofLookup env = .ok c) : c.validate = .ok () := by
  obtain ⟨hb, ha, ht, hp, hz⟩ := ofLookup_eq_ok_iff.1 h
  have hA : Text.isBlankText c.listenAddress = false := ha ▸ isBlankText_addressOf hb
  rw [validate_eq hA (le_of_reads ht) (le_of_reads hp), if_neg hz]

end ServerConfig

namespace Server

variable {env : Lookup}

theorem ofLookup_of_config_error {e : ConfigError} (h : ServerConfig.ofLookup env = .error e) :
    Server.ofLookup env = .error (.config e) := by
  simp [Server.ofLookup, h]

/-- A server built from a configuration that was read keeps it: the builder validates it again,
and it passes. -/
theorem ofLookup_of_config_ok {m : Metrics.Registry} {c : ServerConfig}
    (hm : Metrics.Registry.create (ServiceInfo.ofLookup env) .standard = .ok m)
    (h : ServerConfig.ofLookup env = .ok c) :
    ∃ s, Server.ofLookup env = .ok s ∧ s.config = c := by
  have hv := ServerConfig.validate_of_ofLookup h
  simp only [Server.ofLookup, h, Builder.build, Builder.buildWith, hv, hm]
  exact ⟨_, rfl, rfl⟩

theorem ofLookup_eq_error_iff {m : Metrics.Registry} {e : ServerError}
    (hm : Metrics.Registry.create (ServiceInfo.ofLookup env) .standard = .ok m) :
    Server.ofLookup env = .error e ↔ ∃ ce, e = .config ce ∧ ServerConfig.ofLookup env = .error ce := by
  constructor
  · intro h
    cases hc : ServerConfig.ofLookup env with
    | error ce =>
      rw [ofLookup_of_config_error hc] at h
      cases h
      exact ⟨ce, rfl, rfl⟩
    | ok c =>
      obtain ⟨s, hs, -⟩ := ofLookup_of_config_ok hm hc
      rw [hs] at h
      cases h
  · rintro ⟨ce, rfl, hc⟩
    exact ofLookup_of_config_error hc

end Server

namespace ServerConfig

/-- How reading the server settings from an environment ends, and what a server built from the
same environment does with them. -/
structure ReadingRules (env : Lookup) : Prop where
  /-- A set listen address that is blank once trimmed is refused first. -/
  emptyAddress : ofLookup env = .error .emptyListenAddress ↔ BlankAddress env
  /-- Then the timeout text and then the poll interval text, each refused with its value as
  set, untrimmed. -/
  invalidDuration : ∀ s v, ofLookup env = .error (.invalidDuration s v) ↔
    ¬ BlankAddress env ∧
      ((s = .readinessTimeout ∧ Rejects env .readinessTimeout v) ∨
        (s = .pollInterval ∧ (∃ t, Reads env .readinessTimeout t) ∧ Rejects env .pollInterval v))
  /-- Then a poll interval of zero. -/
  zeroDuration : ∀ s, ofLookup env = .error (.zeroDuration s) ↔
    s = .pollInterval ∧ ¬ BlankAddress env ∧ (∃ t, Reads env .readinessTimeout t) ∧
      Reads env .pollInterval Duration.zero
  /-- Otherwise the trimmed address, or `:28080`, and the durations read, or one minute and
  fifteen seconds. -/
  read : ∀ c, ofLookup env = .ok c ↔
    ¬ BlankAddress env ∧ c.listenAddress = addressOf env ∧
      Reads env .readinessTimeout c.readinessTimeout ∧
      Reads env .pollInterval c.readinessPollInterval ∧ c.readinessPollInterval ≠ Duration.zero
  /-- No duration read is out of range. -/
  inRange : ∀ s, ofLookup env ≠ .error (.durationOutOfRange s)
  /-- What is read passes validation. -/
  valid : ∀ c, ofLookup env = .ok c → c.validate = .ok ()
  /-- A server built from the environment, once its metrics registry is made, fails exactly
  with the error of reading its settings, and otherwise keeps the settings read. -/
  server : ∀ m, Metrics.Registry.create (ServiceInfo.ofLookup env) .standard = .ok m →
    (∀ e, Server.ofLookup env = .error e ↔ ∃ ce, e = .config ce ∧ ofLookup env = .error ce) ∧
      ∀ c, ofLookup env = .ok c → ∃ s, Server.ofLookup env = .ok s ∧ s.config = c

/-- Reading the server settings from any environment follows the reading rules. -/
theorem config_reading (env : Lookup) : ReadingRules env where
  emptyAddress := ofLookup_eq_emptyListenAddress_iff
  invalidDuration _ _ := ofLookup_eq_invalidDuration_iff
  zeroDuration _ := ofLookup_eq_zeroDuration_iff
  read _ := ofLookup_eq_ok_iff
  inRange := ofLookup_ne_durationOutOfRange
  valid _ := validate_of_ofLookup
  server _ hm := ⟨fun _ => Server.ofLookup_eq_error_iff hm, fun _ => Server.ofLookup_of_config_ok hm⟩

/-- With only the service identity set, the metrics registry is made and the server takes the
default settings. -/
theorem config_reading_service_only :
    let env : Lookup := fun k =>
      if k = serviceNameVar then some "svc" else if k = serviceVersionVar then some "1" else none
    ∃ s, Server.ofLookup env = .ok s ∧ s.config = default := by
  intro env
  have hr := config_reading env
  obtain ⟨m, hm⟩ : ∃ m, Metrics.Registry.create (ServiceInfo.ofLookup env) .standard = .ok m :=
    ⟨_, rfl⟩
  have hunset : ∀ s : DurationSetting, Reads env s (default.duration s) := by
    intro s
    cases s <;> exact .inl ⟨by decide, rfl⟩
  have hblank : ¬ BlankAddress env := by
    have hnone : env listenAddressVar = none := by decide
    rintro ⟨v, hv, -⟩
    rw [hnone] at hv
    cases hv
  have hc : ofLookup env = .ok default :=
    (hr.read default).2 ⟨hblank, by decide, hunset .readinessTimeout, hunset .pollInterval,
      by decide⟩
  exact (hr.server m hm).2 default hc

end ServerConfig
end Sidecar
