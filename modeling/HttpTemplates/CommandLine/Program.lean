import HttpTemplates.Client.Execution
import HttpTemplates.CommandLine.Binding
import HttpTemplates.CommandLine.Invocation

/-!
# The program

`Program.run` carries out a command line, and `Program.report` says what is printed, what is
logged and with which status the program ends.
-/

namespace HttpTemplates.CommandLine

/-- Why a command line has no result. -/
inductive Stop where
  /-- Its words make no sense, or it asks for help. -/
  | refused (r : Refusal)
  /-- Something went wrong. -/
  | fault (f : Fault)
  deriving DecidableEq

/-- A failure of the library as a reason to stop. -/
def Stop.error (e : Error) : Stop :=
  .fault (.error e)

/-! ## Templates -/

/-- A template of any kind. -/
inductive AnyTemplate where
  | uri (t : UriTemplate)
  | query (t : QueryTemplate)
  | header (t : HeaderTemplate)
  | body (t : BodyTemplate)

namespace AnyTemplate

/-- The template as text. -/
def toText : AnyTemplate → Text
  | .uri t => t.toText
  | .query t => t.toText
  | .header t => t.base.toText
  | .body t => t.base.toText

/-- The names of the variables. -/
def variableNames : AnyTemplate → List Text
  | .uri t => t.variableNames
  | .query t => t.variableNames
  | .header t => t.variableNames
  | .body t => t.variableNames

/-- Fills in the variables. -/
def expand (vars : Variables) : AnyTemplate → Except Error (Option Text)
  | .uri t => t.expand vars
  | .query t => t.expand vars
  | .header t => t.expand vars
  | .body t => t.expand vars

end AnyTemplate

namespace Recipe

/-- The name that is given, or another one if there is none. -/
def nameOr (r : Recipe) (fallback : Text) : Text :=
  let name := r.name.getD []
  if name = [] then fallback else name

/-- The collection format that is given, or that of the settings. -/
def formatOr (r : Recipe) (fallback : CollectionFormat) : Except Error CollectionFormat :=
  let name := r.format.getD []
  if name = [] then .ok fallback
  else
    match CollectionFormat.ofName? name with
    | some f => .ok f
    | none => .error (.usage (.unknownFormat name))

/-- Builds the template. -/
def build (r : Recipe) (s : Settings) : Except Error AnyTemplate :=
  match r.kind with
  | .uri => (UriTemplate.create r.source s.charset (!r.keepSlashes)).map .uri
  | .body => (BodyTemplate.create r.source s.charset).map .body
  | .header =>
    (HeaderTemplate.create (r.nameOr "X-Header") [some r.source] s.charset).map .header
  | .query => do
    let format ← r.formatOr (s.format.getD .exploded)
    let q ← QueryTemplate.create (r.nameOr ['q']) [some r.source] s.charset format r.keepSlashes
    .ok (.query q)

end Recipe

/-! ## Requests -/

namespace Order

/-- The name and the value of a header. -/
def header? (raw : Text) : Option (Text × Text) :=
  match Text.cut ':' raw with
  | (name, some value) =>
    if Text.trim name = [] then none else some (Text.trim name, Text.trim value)
  | (_, none) => none

/-- Adds headers to a request. -/
def addHeaders (t : RequestTemplate) : List (Option Text) → Except Error RequestTemplate
  | [] => .ok t
  | none :: _ => .error (.usage .separatorHeader)
  | some raw :: rest =>
    match header? raw with
    | some (name, value) => do
      let t ← t.withHeader name [some value]
      addHeaders t rest
    | none => .error (.usage (.badHeader raw))

/-- Builds the template of the request. -/
def build (o : Order) (s : Settings) : Except Error RequestTemplate := do
  let t ← Client.template s o.method o.uri o.target
  let t ← addHeaders t o.headers
  match o.body with
  | some (some body) => t.withBodyTemplate (some body)
  | some none => .error (.usage .separatorBody)
  | none => .ok t

end Order

/-- The lines that show a request. -/
def requestLines (r : Request) : Except Error (List Text) := do
  let head := (r.method ++ ' ' :: r.url) :: r.flatHeaders.map fun p => p.1 ++ ": " ++ p.2
  let body := r.body.getD []
  if body = [] then .ok head
  else do
    let text ← r.charset.decodeLossy body
    .ok (head ++ [[], text])

/-- A request as text. -/
def showRequest (r : Request) : Except Error Text :=
  (requestLines r).map ['\n'].intercalate

/-! ## Running -/

/-- How the program logs. -/
structure Logging where
  /-- The layout of the lines. -/
  style : Log.Style
  /-- The level below which nothing is logged. -/
  level : Log.Level
  deriving DecidableEq

/-- What became of a command line. -/
structure Run where
  /-- How the program logs; nothing until that is decided. -/
  logging : Option Logging := none
  /-- The loggers that were asked for, in order. -/
  loggers : List Text := []
  /-- The lines for the log with their loggers, in order. -/
  entries : List (Text × LogEntry) := []
  /-- The result; there may be none although nothing went wrong. -/
  result : Except Stop (Option Text)

/-- The name of the logger of the program. -/
def programLogger : Text := "cli"

/-- The name of the logger of the client. -/
def clientLogger : Text := "client"

/-- The logging that an invocation and the settings ask for. -/
def loggingOf (i : Invocation) (s : Settings) : Except Error Logging :=
  let style := if i.jsonLogs || s.jsonLogs then .json else .plain
  let name := i.logLevel.getD []
  if name = [] then .ok ⟨style, s.logLevel⟩
  else
    match Settings.level? name with
    | some level => .ok ⟨style, level⟩
    | none => .error (.usage (.unknownLevel name))

/-- What is logged before a template is expanded. -/
def expandingEntry (template : Text) (bound : Nat) : LogEntry :=
  ⟨.debug, ⟨"expanding %r with %d variable(s)", [.text template, .int bound]⟩, []⟩

/-- A result of something that may go wrong. -/
def resultOf {α : Type} (r : Except Error α) : Except Stop α :=
  r.mapError .error

/-- Lists the variables of a template. -/
def listVariables (recipe : Recipe) (s : Settings) : Except Error Text := do
  let t ← recipe.build s
  .ok (['\n'].intercalate (HeaderTemplate.distinct t.variableNames))

/-- Expands a template. -/
def runExpand (start : Run) (recipe : Recipe) (bindings : List (Option Text)) (s : Settings) :
    Run :=
  let built := do
    let bound ← readGiven bindings
    let t ← recipe.build s
    .ok (bound, t)
  match built with
  | .error e => { start with result := .error (.error e) }
  | .ok (bound, t) =>
    { start with
      entries := [(programLogger, expandingEntry t.toText bound.length)]
      result := resultOf (t.expand (variablesOf bound)) }

/-- Shows a request. -/
def runShow (start : Run) (t : RequestTemplate) (vars : Variables) : Run :=
  let shown := do
    let resolved ← t.resolve vars
    let r ← resolved.request
    showRequest r
  { start with result := resultOf (shown.map some) }

/-- The run that an execution ends. -/
def afterExecution (start : Run) (e : Execution) : Run :=
  { start with
    entries := e.entries.map fun entry => (clientLogger, entry)
    result :=
      match e.outcome with
      | .ok response => resultOf (response.text.map some)
      | .error f => .error (.fault f) }

variable {m : Type → Type} [Monad m]

/-- Shows or sends a request. -/
def runRequest (start : Run) (order : Order) (bindings : List (Option Text)) (sends : Bool)
    (s : Settings) (tracing ownClient : Bool) (send : Request → m (Except Fault Response)) :
    m Run :=
  match readGiven bindings with
  | .error e => pure { start with result := .error (.error e) }
  | .ok bound =>
    let start :=
      if ownClient then { start with loggers := start.loggers ++ [clientLogger] } else start
    match order.build s with
    | .error e => pure { start with result := .error (.error e) }
    | .ok t =>
      if sends then do
        let e ← Client.execute s tracing send t (some (variablesOf bound))
        pure (afterExecution start e)
      else pure (runShow start t (variablesOf bound))

/-- Carries out a command once the settings are known. -/
def runCommand (command : Command) (logging : Logging) (s : Settings)
    (tracing ownClient : Bool) (send : Request → m (Except Fault Response)) : m Run :=
  let start : Run :=
    { logging := some logging, loggers := [programLogger], result := .ok none }
  match command with
  | .list recipe =>
    pure { start with result := resultOf ((listVariables recipe s).map some) }
  | .expand recipe bindings => pure (runExpand start recipe bindings s)
  | .request order bindings sends =>
    runRequest start order bindings sends s tracing ownClient send

/-- Carries out a command line. `ownClient` says that the program sets up a client of its own. -/
def run (settings : Except Error Settings) (tracing ownClient : Bool)
    (send : Settings → Request → m (Except Fault Response)) (words : List Text) : m Run :=
  match readInvocation words with
  | .error r => pure { result := .error (.refused r) }
  | .ok i =>
    match settings with
    | .error e => pure { result := .error (.error e) }
    | .ok s =>
      match loggingOf i s with
      | .error e => pure { result := .error (.error e) }
      | .ok logging => runCommand i.command logging s tracing ownClient (send s)

/-! ## Reporting -/

/-- What the program leaves behind. -/
structure Report where
  /-- The exit status. -/
  status : Nat
  /-- What is printed. -/
  output : Text := []
  /-- What is logged, and for a refused command line what is said about it. -/
  errors : Text := []
  deriving DecidableEq

/-- What stands for the explanation of the command line. -/
def usage : Text := "usage"

/-- Whether a fault lies in what the user has given. -/
def isMistake : Fault → Bool
  | .error (.charset (.unknown _)) => false
  | .error (.charset (.reported .notForTexts _)) => false
  | .error (.charset (.reported .broken _)) => false
  | .error (.pattern .invalid) => false
  | .error (.pattern .tooManyRepetitions) => false
  | .error (.pattern .tooFarBehind) => false
  | .error (.pattern .tooDeep) => false
  | .error .crossedGroup => false
  | .error (.usage .separatorBinding) => false
  | .error (.usage .separatorHeader) => false
  | .error (.usage .separatorBody) => false
  | .error (.transport _ _) => false
  | .error _ => true
  | .missingScheme _ => true
  | .authority _ => true
  | _ => false

/-- The status with which a fault ends the program and what is logged about it. Nothing is known
about some faults. -/
def farewell? : Fault → Option (Nat × Text)
  | .interrupt => some (130, "Interrupted by user.")
  | .error (.transport url cause) => some (1, Error.message (.transport url cause))
  | f => if isMistake f then some (2, f.message) else none

/-- The base logger of a run. -/
def baseOf (logging : Option Logging) : Log.Base :=
  match logging with
  | some l => Log.Base.configure {} ⟨.errorOutput, l.style⟩ l.level
  | none => {}

/-- The record of an entry. -/
def recordOf (now : Binary64) (logger : Text) (e : LogEntry) : Log.Record :=
  { logger := Log.Base.qualify logger, level := e.level, message := e.message, created := now,
    context := .map e.context }

/-- The lines of entries. -/
def linesOf (logging : Option Logging) (now : Binary64) (entries : List (Text × LogEntry)) :
    Text :=
  entries.flatMap fun (logger, e) =>
    (((baseOf logging).write (recordOf now logger e)).map (·.2)).getD []

/-- What is logged about a fault. -/
def farewellEntry (message : Text) : Text × LogEntry :=
  (programLogger, ⟨.error, ⟨"%s", [.text message]⟩, []⟩)

/-- What a run leaves behind. A fault about which nothing is known is passed on with `debug`, and if it
says that something is to stop. -/
def report (debug : Bool) (now : Binary64) (r : Run) : Except Fault Report :=
  let lines (more : List (Text × LogEntry)) := linesOf r.logging now (r.entries ++ more)
  match r.result with
  | .error (.refused .rejected) => .ok { status := 2, errors := usage }
  | .error (.refused .help) => .ok { status := 0, output := usage }
  | .ok none => .ok { status := 1, errors := lines [] }
  | .ok (some text) => .ok { status := 0, output := text ++ ['\n'], errors := lines [] }
  | .error (.fault f) =>
    match farewell? f with
    | some (status, message) => .ok { status, errors := lines [farewellEntry message] }
    | none =>
      if debug || f.isStop then .error f
      else
        .ok { status := 1,
              errors := lines [farewellEntry (("Unexpected error: " : Text) ++ f.message)] }

end HttpTemplates.CommandLine
