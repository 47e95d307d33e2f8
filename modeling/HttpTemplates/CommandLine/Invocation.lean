import HttpTemplates.CommandLine.Words

/-!
# Invocations

The commands of the program with their options and arguments, and how the words of a command line
are read as one of them.
-/

namespace HttpTemplates.CommandLine

/-- The kind of a template. -/
inductive Kind where
  /-- The template of a URI. -/
  | uri
  /-- The template of a query parameter. -/
  | query
  /-- The template of a header. -/
  | header
  /-- The template of a body. -/
  | body
  deriving DecidableEq

namespace Kind

/-- The names of the kinds. -/
def names : List (String × Kind) :=
  [("uri", uri), ("query", query), ("header", header), ("body", body)]

/-- The kind with this name. -/
def ofName? (name : Text) : Option Kind :=
  (names.find? fun p => p.1.toList == name).map (·.2)

end Kind

/-- How a template is built. -/
structure Recipe where
  /-- The text of the template. -/
  source : Text
  /-- Its kind. -/
  kind : Kind
  /-- The name of the parameter or header. -/
  name : Option Text := none
  /-- How several values of a parameter are written. -/
  format : Option Text := none
  /-- Slashes in values are not encoded. -/
  keepSlashes : Bool := false
  deriving DecidableEq

/-- What a request is built of. -/
structure Order where
  /-- The method. -/
  method : Text
  /-- The path. -/
  uri : Text
  /-- The absolute URL in front of the path. -/
  target : Text
  /-- The headers, each with a colon behind its name; the separator is none. -/
  headers : List (Option Text)
  /-- The template of the body, if one is given; the separator is none. -/
  body : Option (Option Text)
  deriving DecidableEq

/-- What is to be done. -/
inductive Command where
  /-- A template is expanded. -/
  | expand (recipe : Recipe) (bindings : List (Option Text))
  /-- The variables of a template are listed. -/
  | list (recipe : Recipe)
  /-- A request is shown or sent. -/
  | request (order : Order) (bindings : List (Option Text)) (send : Bool)
  deriving DecidableEq

/-- A command with the options for all commands. -/
structure Invocation where
  /-- Log lines are JSON objects. -/
  jsonLogs : Bool
  /-- The level below which nothing is logged. -/
  logLevel : Option Text
  /-- What is to be done. -/
  command : Command
  deriving DecidableEq

/-! ## Options -/

/-- What an option stands for. -/
inductive Key where
  | help
  | jsonLogs
  | logLevel
  | kind
  | name
  | binding
  | format
  | keepSlashes
  | target
  | header
  | body
  | send
  deriving DecidableEq

/-- The option that asks for help. -/
def helpOption : OptionSpec Key :=
  { key := .help, names := ["-h", "--help"], takesValue := false, isHelp := true }

/-- The option for the kind of a template. -/
def kindOption : OptionSpec Key :=
  { key := .kind, names := ["-k", "--kind"], takesValue := true, choices := Kind.names.map (·.1) }

/-- The option that binds a variable. -/
def bindingOption : OptionSpec Key :=
  { key := .binding, names := ["-v", "--var"], takesValue := true }

/-- The options in front of a command. -/
def commonOptions : List (OptionSpec Key) := [
  helpOption,
  { key := .jsonLogs, names := ["--json-logs"], takesValue := false },
  { key := .logLevel, names := ["--log-level"], takesValue := true }]

/-- The options of the command that expands a template. -/
def expandOptions : List (OptionSpec Key) := [
  helpOption,
  kindOption,
  { key := .name, names := ["-n", "--name"], takesValue := true },
  bindingOption,
  { key := .format, names := ["--format"], takesValue := true },
  { key := .keepSlashes, names := ["--no-encode-slash"], takesValue := false }]

/-- The options of the command that lists variables. -/
def variablesOptions : List (OptionSpec Key) :=
  [helpOption, kindOption]

/-- The options of the command for requests. -/
def requestOptions : List (OptionSpec Key) := [
  helpOption,
  { key := .target, names := ["-t", "--target"], takesValue := true },
  { key := .header, names := ["-H", "--header"], takesValue := true },
  { key := .body, names := ["-d", "--body"], takesValue := true },
  bindingOption,
  { key := .send, names := ["--send"], takesValue := false }]

/-! ## Reading -/

/-- The kind that is asked for. In place of the separator it is that of a query parameter. -/
def kindOf (r : Reading Key) : Kind :=
  match r.last? .kind with
  | none => .uri
  | some none => .query
  | some (some name) => (Kind.ofName? name).getD .uri

/-- The first argument. -/
def firstArgument (r : Reading Key) : Text :=
  r.arguments.headD []

/-- Reads the words behind the name of a command. -/
def readCommand (name : Text) (words : List Text) : Except Refusal Command :=
  if name = "expand" then do
    let r ← readAll expandOptions 1 words
    .ok (.expand
      { source := firstArgument r, kind := kindOf r, name := r.text? .name,
        format := r.text? .format, keepSlashes := r.has .keepSlashes }
      (r.all .binding))
  else if name = "variables" then do
    let r ← readAll variablesOptions 1 words
    .ok (.list { source := firstArgument r, kind := kindOf r })
  else if name = "request" then do
    let r ← readAll requestOptions 2 words
    .ok (.request
      { method := firstArgument r, uri := (r.arguments.drop 1).headD [],
        target := (r.text? .target).getD [], headers := r.all .header, body := r.last? .body }
      (r.all .binding) (r.has .send))
  else .error .rejected

/-- Reads a command line. -/
def readInvocation (words : List Text) : Except Refusal Invocation := do
  let (r, name, rest) ← readLeading commonOptions words
  let command ← readCommand name rest
  if r.hasSpare then .error .rejected
  else .ok { jsonLogs := r.has .jsonLogs, logLevel := r.text? .logLevel, command }

end HttpTemplates.CommandLine
