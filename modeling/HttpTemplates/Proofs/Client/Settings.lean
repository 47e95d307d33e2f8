import HttpTemplates.Client.Settings
import HttpTemplates.Proofs.Charset.Coding

/-!
# Settings from the environment

Six of the eight variables are read by a parser that knows their name and says it when it refuses
their text. The charset and the timeout are checked once more when everything has been read, and this
check does not know where they come from. **So a failure names a variable that makes no sense if one
cannot be read, and else only if the text for the charset spells its name by chance**
(`Settings.isUpheld_ofEnvironment_iff`). The check refuses a timeout that is zero or negative; one
that is no number is neither, and is used.

The variables are read one after the other, each by the same rule (`ReadsTo.bind`), and the check
leaves the six cases of `Outcome`.
-/

namespace HttpTemplates

/-- Whether a timeout is greater than zero. -/
def Timeout.isPositive : Timeout → Bool
  | .whole n => 0 < n
  | .real x => x.isPositive

/-- What is not refused for being zero or negative is greater than zero or no number. -/
theorem Binary64.isNotPositive_eq_false_iff {x : Binary64} :
    x.isNotPositive = false ↔ x.isPositive = true ∨ x = .nan := by
  cases x <;> simp [isNotPositive, isPositive]

/-- The failure is that of a single value, or of a charset that nothing could be the name of. -/
inductive Error.IsValueError : Error → Prop
  /-- A value is refused. -/
  | input (e : InputError) : IsValueError (.input e)
  /-- The name of a charset holds a null character. -/
  | embeddedNull : IsValueError (.charset .embeddedNull)

/-- The setting that a refused value was given for, if it is known. -/
def InputError.setting? : InputError → Option Text
  | .notFlag setting _ | .notLevel setting _ | .notNumber setting _ | .notFormat setting _ =>
    some setting
  | _ => none

/-- What is said of a setting begins with its name. -/
theorem InputError.setting_prefix_message {e : InputError} {setting : Text}
    (h : e.setting? = some setting) : setting <+: e.message := by
  have hbegins : ∀ a b : Text, setting <+: setting ++ a ++ b := fun a b =>
    (List.prefix_append setting a).trans (List.prefix_append _ b)
  cases e with
  | notFlag | notLevel | notNumber | notFormat =>
      obtain rfl := Option.some.inj h
      exact hbegins _ _
  | emptyLiteral | emptyExpressionName | unknownFormat | unknownCharset | missingTimeout
  | timeoutNotPositive | notStatus | longStatus => exact absurd h (by simp [setting?])

/-- A charset with a name is unknown under this name, or its name holds a null character. -/
theorem Charset.eq_of_codec_eq_error {registry : Registry} {name : Text} {e : CharsetError}
    (h : (Charset.ofName registry name).codec = .error e) :
    e = .embeddedNull ∨ e = .unknown name := by
  simp only [codec, ofName] at h
  split at h
  · exact Or.inl (Except.error.inj h).symm
  · split at h
    · exact Or.inr (Except.error.inj h).symm
    · split at h
      · exact absurd h (by simp)
      · exact absurd h (by simp)
      · exact Or.inr (Except.error.inj h).symm

namespace Settings

/-! ### Variables -/

/-- What a variable is read for. -/
inductive Setting where
  /-- The charset of encoded characters and of bodies. -/
  | charset
  /-- Whether slashes in values stay as they are. -/
  | decodeSlash
  /-- How several values of a query parameter are written. -/
  | format
  /-- The user agent that is named if the request names none. -/
  | userAgent
  /-- How long to wait for a response. -/
  | timeout
  /-- Whether log lines are JSON objects. -/
  | jsonLogs
  /-- The level below which nothing is logged. -/
  | logLevel
  /-- Whether certificates are not checked. -/
  | insecure
  deriving DecidableEq

namespace Setting

/-- The name of the variable. -/
def name (v : Setting) : Text :=
  Environment.lead ++
    match v with
    | .charset => "CHARSET".toList
    | .decodeSlash => "DECODE_SLASH".toList
    | .format => "COLLECTION_FORMAT".toList
    | .userAgent => "USER_AGENT".toList
    | .timeout => "TIMEOUT".toList
    | .jsonLogs => "JSON_LOGS".toList
    | .logLevel => "LOG_LEVEL".toList
    | .insecure => "INSECURE_TLS".toList

/-- Whether the text of the variable can be read. -/
def isReadable : Setting → Text → Bool
  | .charset, _ | .userAgent, _ => true
  | .decodeSlash, t | .jsonLogs, t | .insecure, t => (flag? t).isSome
  | .format, t => (CollectionFormat.ofName? t).isSome
  | .timeout, t => (Numeral.real? t).isSome
  | .logLevel, t => (level? t).isSome

/-- Whether the text of the variable makes sense: it can be read, a charset is known or registered,
and a timeout is greater than zero. -/
def isSensible (registry : Registry) : Setting → Text → Bool
  | .charset, t => (Charset.ofName registry (Text.trim t)).codec?.isSome
  | .timeout, t => (Numeral.real? t).any Binary64.isPositive
  | v, t => v.isReadable t

theorem isSensible_eq_false_of_isReadable {registry : Registry} {v : Setting} {t : Text}
    (h : v.isReadable t = false) : v.isSensible registry t = false := by
  cases v with
  | charset => exact absurd h (by simp [isReadable])
  | timeout =>
      have hnone : Numeral.real? t = none := by simpa [isReadable] using h
      simp [isSensible, hnone]
  | decodeSlash | format | userAgent | jsonLogs | logLevel | insecure => exact h

/-- The variable is set and cannot be read. -/
def IsUnreadable (env : Environment) (v : Setting) : Prop :=
  ∃ t, env.get? v.name = some t ∧ v.isReadable t = false

/-- The variable is set and makes no sense. -/
def IsInvalid (registry : Registry) (env : Environment) (v : Setting) : Prop :=
  ∃ t, env.get? v.name = some t ∧ v.isSensible registry t = false

variable {registry : Registry} {env : Environment} {v : Setting}

theorem IsUnreadable.isInvalid (h : IsUnreadable env v) : IsInvalid registry env v :=
  h.imp fun _ => And.imp_right isSensible_eq_false_of_isReadable

theorem isInvalid_iff_of_some {t : Text} (ht : env.get? v.name = some t) :
    IsInvalid registry env v ↔ v.isSensible registry t = false :=
  ⟨fun ⟨_, hu, h⟩ => Option.some.inj (ht.symm.trans hu) ▸ h, fun h => ⟨t, ht, h⟩⟩

theorem not_isInvalid_of_none (hnone : env.get? v.name = none) : ¬ IsInvalid registry env v :=
  fun ⟨_, ht, _⟩ => absurd (hnone.symm.trans ht) (by simp)

theorem isInvalid_charset_of_error {t : Text} {e : CharsetError}
    (ht : env.get? Setting.charset.name = some t)
    (hc : (Charset.ofName registry (Text.trim t)).codec = .error e) :
    IsInvalid registry env .charset := by
  refine ⟨t, ht, ?_⟩
  simp [isSensible, Charset.codec?, hc, Except.toOption]

/-- The names of the variables hold a capital letter. -/
theorem mem_of_name_infix {m : Text} (h : v.name <:+: m) : 'R' ∈ m :=
  h.subset (List.mem_append_left _ (by decide))

end Setting

open Setting (IsUnreadable IsInvalid)

/-! ### Reading -/

section Reading

variable {registry : Registry} {env : Environment} {α β : Type}

/-- The computation fails on a variable that cannot be read, whose name it knows, or it gives a
result of this kind. -/
inductive ReadsTo (env : Environment) (P : α → Prop) : Except Error α → Prop
  /-- The text of a variable is refused. -/
  | refused {v : Setting} {e : InputError} (hv : IsUnreadable env v)
      (he : e.setting? = some v.name) : ReadsTo env P (.error (.input e))
  /-- There is a result. -/
  | ok {a : α} (h : P a) : ReadsTo env P (.ok a)

theorem ReadsTo.bind {P : α → Prop} {Q : β → Prop} {x : Except Error α} {f : α → Except Error β}
    (hx : ReadsTo env P x) (hf : ∀ a, P a → ReadsTo env Q (f a)) : ReadsTo env Q (x >>= f) := by
  cases hx with
  | refused hv he => exact .refused hv he
  | ok h => exact hf _ h

/-- A variable that is set is read, or its text is refused; without it the fallback stands. -/
theorem readsTo_read (v : Setting) {suffix : String}
    (hname : Environment.lead ++ suffix.toList = v.name) {parse : Text → Option α}
    (hparse : ∀ t, (parse t).isSome = v.isReadable t) {fault : Text → Text → InputError}
    (hfault : ∀ t, (fault v.name t).setting? = some v.name) (fallback : α) :
    ReadsTo env
      (fun a => ¬ IsUnreadable env v ∧
        (env.get? v.name = none ∧ a = fallback ∨ ∃ t, env.get? v.name = some t ∧ parse t = some a))
      (read env suffix parse fault fallback) := by
  rw [read, hname]
  cases hset : env.get? v.name with
  | none =>
      refine .ok ⟨fun ⟨t, ht, _⟩ => ?_, Or.inl ⟨rfl, rfl⟩⟩
      exact absurd (hset.symm.trans ht) (by simp)
  | some t =>
      have hread := hparse t
      cases hresult : parse t with
      | none =>
          rw [hresult] at hread
          simp only [hresult]
          exact .refused ⟨t, hset, hread.symm⟩ (hfault t)
      | some a =>
          rw [hresult] at hread
          simp only [hresult]
          refine .ok ⟨fun ⟨u, hu, hfalse⟩ => ?_, Or.inr ⟨t, rfl, hresult⟩⟩
          obtain rfl := Option.some.inj (hset.symm.trans hu)
          exact absurd (hread.trans hfalse) (by simp)

/-- Settings that have been read from variables: their texts could be read, and the charset and the
timeout are those of their variables, if these are set. -/
structure Draft.IsRead (registry : Registry) (env : Environment) (d : Draft) : Prop where
  readable : ∀ v, ¬ IsUnreadable env v
  charset : env.get? Setting.charset.name = none ∧ d.charset = .utf8 ∨
    ∃ t, env.get? Setting.charset.name = some t ∧ d.charset = .ofName registry (Text.trim t)
  timeout : env.get? Setting.timeout.name = none ∧ d.timeout = some .standard ∨
    ∃ t x, env.get? Setting.timeout.name = some t ∧ Numeral.real? t = some x ∧
      d.timeout = some (.real x)

/-- Either one of the variables cannot be read, or all of them are. -/
theorem Draft.ofEnvironment_readsTo (registry : Registry) (env : Environment) :
    ReadsTo env (Draft.IsRead registry env) (Draft.ofEnvironment registry env) := by
  rw [Draft.ofEnvironment]
  refine (readsTo_read .decodeSlash rfl (by simp [Setting.isReadable]) (fun _ => rfl) _).bind
    fun slash hslash => ?_
  refine (readsTo_read .format rfl (by simp [Setting.isReadable]) (fun _ => rfl) _).bind
    fun format hformat => ?_
  refine (readsTo_read .timeout rfl (by simp [Setting.isReadable]) (fun _ => rfl) _).bind
    fun timeout htimeout => ?_
  refine (readsTo_read .jsonLogs rfl (fun _ => rfl) (fun _ => rfl) _).bind fun json hjson => ?_
  refine (readsTo_read .logLevel rfl (fun _ => rfl) (fun _ => rfl) _).bind fun level hlevel => ?_
  refine (readsTo_read .insecure rfl (fun _ => rfl) (fun _ => rfl) _).bind
    fun insecure hinsecure => ?_
  refine .ok ⟨fun v => ?_, ?_, ?_⟩
  · cases v with
    | charset | userAgent => exact fun ⟨_, _, h⟩ => absurd h (by simp [Setting.isReadable])
    | decodeSlash => exact hslash.1
    | format => exact hformat.1
    | timeout => exact htimeout.1
    | jsonLogs => exact hjson.1
    | logLevel => exact hlevel.1
    | insecure => exact hinsecure.1
  · cases hset : env.get? Setting.charset.name with
    | none => exact Or.inl ⟨rfl, congrArg (fun o => (Option.map _ o).getD _) hset⟩
    | some t => exact Or.inr ⟨t, rfl, congrArg (fun o => (Option.map _ o).getD _) hset⟩
  · refine htimeout.2.imp_right fun ⟨t, ht, hparse⟩ => ?_
    obtain ⟨x, hx, rfl⟩ := Option.map_eq_some_iff.mp hparse
    exact ⟨t, x, ht, hx, rfl⟩

end Reading

/-! ### Checking -/

namespace Draft.IsRead

variable {registry : Registry} {env : Environment} {d : Draft} (hd : d.IsRead registry env)

include hd

theorem isInvalid_charset_iff :
    IsInvalid registry env .charset ↔ d.charset.codec?.isSome = false := by
  obtain ⟨hnone, hcharset⟩ | ⟨t, ht, hcharset⟩ := hd.charset
  · rw [hcharset, Charset.codec?, Charset.codec_utf8]
    exact iff_of_false (Setting.not_isInvalid_of_none hnone) (by simp [Except.toOption])
  · rw [Setting.isInvalid_iff_of_some ht, hcharset]
    rfl

theorem isInvalid_timeout_iff :
    IsInvalid registry env .timeout ↔ d.timeout.any Timeout.isPositive = false := by
  obtain ⟨hnone, htimeout⟩ | ⟨t, x, ht, hx, htimeout⟩ := hd.timeout
  · have hpositive : (some Timeout.standard).any Timeout.isPositive = true := by decide +kernel
    rw [htimeout, hpositive]
    exact iff_of_false (Setting.not_isInvalid_of_none hnone) (by simp)
  · rw [Setting.isInvalid_iff_of_some ht, htimeout, Setting.isSensible, hx]
    rfl

/-- A charset without an encoding is that of the variable. -/
theorem exists_of_codec_eq_error {e : CharsetError} (h : d.charset.codec = .error e) :
    ∃ t, env.get? Setting.charset.name = some t ∧
      (Charset.ofName registry (Text.trim t)).codec = .error e := by
  obtain ⟨-, hcharset⟩ | ⟨t, ht, hcharset⟩ := hd.charset
  · rw [hcharset, Charset.codec_utf8] at h
    exact absurd h (by simp)
  · exact ⟨t, ht, hcharset ▸ h⟩

/-- There is a timeout, with a fraction. -/
theorem exists_timeout : ∃ x, d.timeout = some (.real x) := by
  obtain ⟨-, h⟩ | ⟨-, x, -, -, h⟩ := hd.timeout
  · exact ⟨_, h⟩
  · exact ⟨x, h⟩

/-- Of variables that can be read, only those that are checked later may make no sense. -/
theorem eq_of_isInvalid {v : Setting} (hv : IsInvalid registry env v) :
    v = .charset ∨ v = .timeout := by
  obtain ⟨t, ht, h⟩ := hv
  cases v with
  | charset => exact Or.inl rfl
  | timeout => exact Or.inr rfl
  | decodeSlash | format | userAgent | jsonLogs | logLevel | insecure =>
      exact absurd ⟨t, ht, h⟩ (hd.readable _)

/-- If the charset is known, nothing but the timeout may make no sense. -/
theorem isInvalid_iff_eq_timeout (hcharset : d.charset.codec?.isSome = true)
    (htimeout : IsInvalid registry env .timeout) (v : Setting) :
    IsInvalid registry env v ↔ v = .timeout := by
  constructor
  · intro hv
    refine (hd.eq_of_isInvalid hv).resolve_left ?_
    rintro rfl
    exact absurd (hd.isInvalid_charset_iff.mp hv) (by simp [hcharset])
  · rintro rfl
    exact htimeout

end Draft.IsRead

/-- What becomes of an environment. -/
inductive Outcome (registry : Registry) (env : Environment) : Except Error Settings → Prop
  /-- A variable cannot be read, and the failure knows which one. -/
  | unreadable {v : Setting} {e : InputError} (hv : IsUnreadable env v)
      (he : e.setting? = some v.name) : Outcome registry env (.error (.input e))
  /-- The text for the charset holds a null character. -/
  | brokenCharset {t : Text} (hread : ∀ v, ¬ IsUnreadable env v)
      (ht : env.get? Setting.charset.name = some t)
      (hc : (Charset.ofName registry (Text.trim t)).codec = .error .embeddedNull) :
      Outcome registry env (.error (.charset .embeddedNull))
  /-- The text for the charset is that of no charset. -/
  | unknownCharset {t : Text} (hread : ∀ v, ¬ IsUnreadable env v)
      (ht : env.get? Setting.charset.name = some t)
      (hc : (Charset.ofName registry (Text.trim t)).codec = .error (.unknown (Text.trim t))) :
      Outcome registry env (.error (.input (.unknownCharset (Text.trim t))))
  /-- The timeout is zero or negative, and all else makes sense. -/
  | timeoutNotPositive {d : Draft} (hread : d.IsRead registry env)
      (hinvalid : ∀ v, IsInvalid registry env v ↔ v = .timeout)
      (hd : d.timeout.any Timeout.isNotPositive = true) :
      Outcome registry env (.error (.input .timeoutNotPositive))
  /-- The timeout is no number, and all else makes sense. -/
  | notANumber {s : Settings} (hread : s.toDraft.IsRead registry env)
      (hinvalid : ∀ v, IsInvalid registry env v ↔ v = .timeout)
      (hs : s.timeout = some (.real .nan)) : Outcome registry env (.ok s)
  /-- All variables make sense. -/
  | ok {s : Settings} (hread : s.toDraft.IsRead registry env)
      (hinvalid : ∀ v, ¬ IsInvalid registry env v) (hs : s.timeout.any Timeout.isPositive = true) :
      Outcome registry env (.ok s)

section Check

variable {registry : Registry} {env : Environment} {d : Draft}

/-- Settings have passed the check, which a timeout passes that is no number. -/
theorem Outcome.of_settings {s : Settings} (hread : s.toDraft.IsRead registry env) :
    Outcome registry env (.ok s) := by
  obtain ⟨x, hx⟩ := hread.exists_timeout
  have hpassed : x.isNotPositive = false := by
    simpa [hx, Timeout.isNotPositive] using s.timeout_positive
  have hinvalid : IsInvalid registry env .timeout ↔ x.isPositive = false := by
    rw [hread.isInvalid_timeout_iff, hx]
    rfl
  obtain hpositive | rfl := Binary64.isNotPositive_eq_false_iff.mp hpassed
  · refine .ok hread (fun v hv => ?_) (by rw [hx]; exact hpositive)
    obtain rfl | rfl := hread.eq_of_isInvalid hv
    · exact absurd (hread.isInvalid_charset_iff.mp hv) (by simp [s.charset_known])
    · exact absurd (hinvalid.mp hv) (by simp [hpositive])
  · exact .notANumber hread
      (hread.isInvalid_iff_eq_timeout s.charset_known (hinvalid.mpr rfl)) hx

/-- A draft with a known charset fails the check for a timeout that is zero or negative. -/
theorem Outcome.of_timeoutNotPositive (hread : d.IsRead registry env)
    (hcharset : d.charset.codec?.isSome = true)
    (hfailed : ¬ d.timeout.any (!·.isNotPositive) = true) :
    Outcome registry env (.error (.input .timeoutNotPositive)) := by
  obtain ⟨x, hx⟩ := hread.exists_timeout
  have hnot : x.isNotPositive = true := by simpa [hx, Timeout.isNotPositive] using hfailed
  have hpositive : x.isPositive = false := Bool.eq_false_iff.mpr fun h =>
    absurd (Binary64.isNotPositive_eq_false_iff.mpr (Or.inl h)) (by simp [hnot])
  have hinvalid : IsInvalid registry env .timeout := by
    rw [hread.isInvalid_timeout_iff, hx]
    exact hpositive
  exact .timeoutNotPositive hread (hread.isInvalid_iff_eq_timeout hcharset hinvalid)
    (by rw [hx]; exact hnot)

theorem Draft.IsRead.outcome_check (hd : d.IsRead registry env) : Outcome registry env d.check := by
  rw [Draft.check]
  split
  next name hcodec =>
    obtain ⟨t, ht, hcodec⟩ := hd.exists_of_codec_eq_error hcodec
    obtain h | h := Charset.eq_of_codec_eq_error hcodec
    · exact absurd h (by simp)
    · obtain rfl := CharsetError.unknown.inj h
      exact .unknownCharset hd.readable ht hcodec
  next e hknown hcodec =>
    obtain ⟨t, ht, hcodec⟩ := hd.exists_of_codec_eq_error hcodec
    obtain rfl | rfl := Charset.eq_of_codec_eq_error hcodec
    · exact .brokenCharset hd.readable ht hcodec
    · exact absurd rfl (hknown _)
  next k hcodec =>
    split
    next => exact .of_settings hd
    next h =>
      have hsome : d.timeout.isNone = false := by
        obtain ⟨x, hx⟩ := hd.exists_timeout
        rw [hx, Option.isNone_some]
      rw [hsome]
      exact .of_timeoutNotPositive hd (by simp [Charset.codec?, hcodec, Except.toOption]) h

end Check

theorem outcome_ofEnvironment (registry : Registry) (env : Environment) :
    Outcome registry env (ofEnvironment registry env) := by
  have hread := Draft.ofEnvironment_readsTo registry env
  rw [ofEnvironment]
  generalize Draft.ofEnvironment registry env = x at hread ⊢
  cases hread with
  | refused hv he => exact .unreadable hv he
  | ok hd => exact hd.outcome_check

/-! ### Naming the variable -/

/-- Settings have a known charset and a timeout greater than zero, and a failure is a value error
that names a variable which is set and makes no sense. -/
def IsUpheld (registry : Registry) (env : Environment) : Except Error Settings → Prop
  | .ok s => s.charset.codec?.isSome = true ∧ s.timeout.any Timeout.isPositive = true
  | .error e => e.IsValueError ∧ ∃ v, IsInvalid registry env v ∧ v.name <:+: e.message

/-- The charset is unknown, and showing its text happens to show the name of a variable that makes
no sense. -/
def SpellsInvalid (registry : Registry) (env : Environment) : Prop :=
  ∃ t v, env.get? Setting.charset.name = some t ∧
    (Charset.ofName registry (Text.trim t)).codec = .error (.unknown (Text.trim t)) ∧
    IsInvalid registry env v ∧ v.name <:+: (InputError.unknownCharset (Text.trim t)).message

theorem not_expected_of_timeout {registry : Registry} {env : Environment}
    (hread : ∀ v, ¬ IsUnreadable env v)
    (hinvalid : ∀ v, IsInvalid registry env v ↔ v = .timeout) :
    ¬ ((∃ v, IsUnreadable env v) ∨ (∀ v, ¬ IsInvalid registry env v) ∨
      SpellsInvalid registry env) := by
  rintro (⟨v, hv⟩ | hvalid | ⟨t, -, ht, hc, -, -⟩)
  · exact hread v hv
  · exact hvalid _ ((hinvalid .timeout).mpr rfl)
  · exact absurd ((hinvalid _).mp (Setting.isInvalid_charset_of_error ht hc)) (by simp)

/-- **What becomes of an environment, and when that is sound.** Either settings with a known charset
and a timeout greater than zero are used, or the failure names a variable that makes no sense, exactly
if a variable cannot be read, or all variables make sense, or the text for an unknown charset spells
the name of one that does not. -/
theorem isUpheld_ofEnvironment_iff (registry : Registry) (env : Environment) :
    Outcome registry env (ofEnvironment registry env) ∧
    (IsUpheld registry env (ofEnvironment registry env) ↔
      (∃ v, IsUnreadable env v) ∨ (∀ v, ¬ IsInvalid registry env v) ∨
        SpellsInvalid registry env) := by
  have houtcome := outcome_ofEnvironment registry env
  refine ⟨houtcome, ?_⟩
  generalize ofEnvironment registry env = x at houtcome ⊢
  cases houtcome with
  | unreadable hv he =>
      exact iff_of_true ⟨.input _, _, hv.isInvalid, (InputError.setting_prefix_message he).isInfix⟩
        (Or.inl ⟨_, hv⟩)
  | @brokenCharset t hread ht hc =>
      refine iff_of_false (fun ⟨_, _, _, h⟩ => ?_) ?_
      · exact absurd (Setting.mem_of_name_infix h) (by decide)
      · rintro (⟨v, hv⟩ | hvalid | ⟨u, v, hu, hunknown, -, -⟩)
        · exact hread v hv
        · exact hvalid _ (Setting.isInvalid_charset_of_error ht hc)
        · obtain rfl := Option.some.inj (ht.symm.trans hu)
          exact absurd (hc.symm.trans hunknown) (by simp)
  | @unknownCharset t hread ht hc =>
      constructor
      · rintro ⟨-, v, hv, h⟩
        exact Or.inr (Or.inr ⟨t, v, ht, hc, hv, h⟩)
      · rintro (⟨v, hv⟩ | hvalid | ⟨u, v, hu, -, hv, h⟩)
        · exact absurd hv (hread v)
        · exact absurd (Setting.isInvalid_charset_of_error ht hc) (hvalid _)
        · obtain rfl := Option.some.inj (ht.symm.trans hu)
          exact ⟨.input _, v, hv, h⟩
  | timeoutNotPositive hread hinvalid _ =>
      refine iff_of_false (fun ⟨_, _, _, h⟩ => ?_) (not_expected_of_timeout hread.readable hinvalid)
      exact absurd (Setting.mem_of_name_infix h) (by decide)
  | notANumber hread hinvalid hs =>
      refine iff_of_false (fun ⟨_, h⟩ => ?_) (not_expected_of_timeout hread.readable hinvalid)
      rw [hs] at h
      exact absurd h (by decide)
  | ok _ hinvalid hs =>
      exact iff_of_true ⟨Settings.charset_known _, hs⟩ (Or.inr (Or.inl hinvalid))

/-- Whether a timeout is used that is not greater than zero, or a failure holds no letter with which
the name of a variable could begin. -/
def missesVariable : Except Error Settings → Bool
  | .ok s => !s.timeout.any Timeout.isPositive
  | .error e => !e.message.contains 'R'

theorem not_isUpheld_of_missesVariable {registry : Registry} {env : Environment}
    {x : Except Error Settings} (h : missesVariable x = true) : ¬ IsUpheld registry env x := by
  cases x with
  | ok s => exact fun ⟨_, hs⟩ => absurd hs (by simpa [missesVariable] using h)
  | error e =>
      have hmessage : 'R' ∉ e.message := by simpa [missesVariable] using h
      exact fun ⟨_, _, _, hname⟩ => hmessage (Setting.mem_of_name_infix hname)

/-- The environment with this variable only. -/
def Setting.only (v : Setting) (t : Text) : Environment :=
  [(v.name, t)]

/-- A timeout that is no number is used, and neither a timeout of zero nor an unknown charset is
reported with the name of its variable. Nothing is registered here. -/
theorem not_isUpheld_ofEnvironment :
    ¬ IsUpheld .empty (Setting.timeout.only "nan")
      (ofEnvironment .empty (Setting.timeout.only "nan")) ∧
    ¬ IsUpheld .empty (Setting.timeout.only "0")
      (ofEnvironment .empty (Setting.timeout.only "0")) ∧
    ¬ IsUpheld .empty (Setting.charset.only "no-such-codec")
      (ofEnvironment .empty (Setting.charset.only "no-such-codec")) :=
  ⟨not_isUpheld_of_missesVariable (by decide +kernel),
    not_isUpheld_of_missesVariable (by decide +kernel),
    not_isUpheld_of_missesVariable (by decide +kernel)⟩

end Settings

end HttpTemplates
