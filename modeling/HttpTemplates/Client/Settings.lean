import HttpTemplates.Client.Environment
import HttpTemplates.CollectionFormat
import HttpTemplates.Log.Level
import HttpTemplates.Number.Numeral
import HttpTemplates.Request.Timeout

/-!
# Settings

The settings of a client. `Draft` holds settings that nobody has looked at; `Draft.check` makes
`Settings` of them, whose charset is known and which have a timeout that is not zero or negative.
`Settings.ofEnvironment` reads them from variables.
-/

namespace HttpTemplates

namespace Settings

/-- Settings that nobody has looked at. -/
structure Draft where
  /-- The charset of encoded characters and of bodies. -/
  charset : Charset := .utf8
  /-- Whether slashes in values stay as they are, if that was chosen. -/
  decodeSlash : Option Bool := some true
  /-- How several values of a query parameter are written, if that was chosen. -/
  format : Option CollectionFormat := some .exploded
  /-- The user agent that is named if the request names none. -/
  userAgent : Text := "restplate/1.0"
  /-- How long to wait for a response. -/
  timeout : Option Timeout := some .standard
  /-- Log lines are JSON objects. -/
  jsonLogs : Bool := false
  /-- The level below which nothing is logged. -/
  logLevel : Log.Level := .info
  /-- Certificates are not checked. -/
  insecure : Bool := false

end Settings

/-- The settings of a client. -/
structure Settings extends Settings.Draft where
  /-- The charset is known. -/
  charset_known : charset.codec?.isSome = true
  /-- There is a timeout, and it is not zero or negative. -/
  timeout_positive : timeout.any (!·.isNotPositive) = true

namespace Settings

/-- Settings whose charset is known and whose timeout is given and not zero or negative. -/
def Draft.check (d : Draft) : Except Error Settings :=
  match hc : d.charset.codec with
  | .error (.unknown name) => .error (.input (.unknownCharset name))
  | .error e => .error (.charset e)
  | .ok _ =>
    if ht : d.timeout.any (!·.isNotPositive) = true then
      .ok ⟨d, by simp [Charset.codec?, hc, Except.toOption], ht⟩
    else .error (.input (if d.timeout.isNone then .missingTimeout else .timeoutNotPositive))

/-- The settings that are used unless others are asked for. -/
def standard : Settings :=
  ⟨{}, by decide +kernel, by decide +kernel⟩

/-! ## Reading variables -/

/-- The words for yes. -/
def yesWords : List String := ["1", "true", "yes", "on"]

/-- The words for no; nothing at all is one of them. -/
def noWords : List String := ["0", "false", "no", "off", ""]

/-- Reads a flag. -/
def flag? (raw : Text) : Option Bool :=
  let word := Text.lower (Text.trim raw)
  if yesWords.any fun w => w.toList == word then some true
  else if noWords.any fun w => w.toList == word then some false
  else none

/-- Reads the name of a level. -/
def level? (raw : Text) : Option Log.Level :=
  Log.Level.ofName? (Text.upper (Text.trim raw))

/-- Reads a variable; without it `fallback` stands, and `fault` is reported if it makes no
sense. -/
def read {α : Type} (env : Environment) (suffix : String) (parse : Text → Option α)
    (fault : Text → Text → InputError) (fallback : α) : Except Error α :=
  let name := Environment.lead ++ suffix.toList
  match env.get? name with
  | none => .ok fallback
  | some raw =>
    match parse raw with
    | some a => .ok a
    | none => .error (.input (fault name raw))

/-- Reads settings from variables without looking at them as a whole. -/
def Draft.ofEnvironment (registry : Registry) (env : Environment) : Except Error Draft := do
  let d : Draft := {}
  let charset :=
    ((env.get? (Environment.lead ++ "CHARSET")).map fun t =>
      Charset.ofName registry (Text.trim t)).getD d.charset
  let decodeSlash ← read env "DECODE_SLASH" (fun t => (flag? t).map some) .notFlag d.decodeSlash
  let format ←
    read env "COLLECTION_FORMAT" (fun t => (CollectionFormat.ofName? t).map some) .notFormat
      d.format
  let userAgent := (env.get? (Environment.lead ++ "USER_AGENT")).getD d.userAgent
  let timeout ←
    read env "TIMEOUT" (fun t => (Numeral.real? t).map (some ∘ .real)) .notNumber d.timeout
  let jsonLogs ← read env "JSON_LOGS" flag? .notFlag d.jsonLogs
  let logLevel ← read env "LOG_LEVEL" level? .notLevel d.logLevel
  let insecure ← read env "INSECURE_TLS" flag? .notFlag d.insecure
  .ok { charset, decodeSlash, format, userAgent, timeout, jsonLogs, logLevel, insecure }

/-- Reads settings from variables. -/
def ofEnvironment (registry : Registry) (env : Environment) : Except Error Settings := do
  let d ← Draft.ofEnvironment registry env
  d.check

end Settings

end HttpTemplates
