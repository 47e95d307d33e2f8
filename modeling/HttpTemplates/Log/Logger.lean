import HttpTemplates.Log.Record

/-!
# Loggers

All loggers hang below one base logger. Its level decides which records are written, and its
handler where they go and in which layout; a record of another logger is treated in the same way
and only carries another name. Without a handler, records that matter go to the error output as
bare messages.
-/

namespace HttpTemplates.Log

/-- Where lines go. -/
inductive Sink where
  /-- To the error output. -/
  | errorOutput
  /-- To a stream with a name. -/
  | stream (name : Text)
  deriving DecidableEq

/-- How lines look. -/
inductive Style where
  /-- As text with the level in front. -/
  | plain
  /-- As JSON objects. -/
  | json
  deriving DecidableEq

/-- What writes lines. -/
structure Handler where
  /-- Where the lines go. -/
  sink : Sink
  /-- How the lines look. -/
  style : Style
  deriving DecidableEq

/-- The base logger. -/
structure Base where
  /-- The level below which nothing is written. -/
  level : Level := .notSet
  /-- What writes the lines. -/
  handler : Option Handler := none
  deriving DecidableEq

namespace Base

/-- The name of the base logger. -/
def name : Text := "restplate"

/-- The name of a logger below the base logger. -/
def qualify (logger : Text) : Text :=
  if logger = [] || logger = name then name
  else if Text.startsWith logger (name ++ ['.']) then logger
  else name ++ '.' :: logger

/-- Sets the level, and installs a handler unless there is one. -/
def configure (b : Base) (h : Handler) (level : Level) : Base :=
  { level, handler := some (b.handler.getD h) }

/-- Removes the handler. -/
def reset (b : Base) : Base :=
  { b with handler := none }

/-- Whether records go on to those who have not asked for them. -/
def propagates (b : Base) : Bool :=
  b.handler.isNone

/-- The level that applies: warnings, unless one is set. -/
def effectiveLevel (b : Base) : Level :=
  if b.level = .notSet then .warning else b.level

/-- Whether records of a level are written. -/
def isEnabled (b : Base) (l : Level) : Bool :=
  0 < l.number && b.effectiveLevel.number ≤ l.number

/-- The line of a record. -/
def line (b : Base) (r : Record) : Except LogError Text :=
  match b.handler with
  | none => r.message.render
  | some ⟨_, .plain⟩ => r.plainLine
  | some ⟨_, .json⟩ => r.jsonLine

/-- Where the lines of the base logger go. -/
def sink (b : Base) : Sink :=
  match b.handler with
  | some h => h.sink
  | none => .errorOutput

/-- What is written for a record and where, if anything is. -/
def write (b : Base) (r : Record) : Option (Sink × Text) :=
  if b.isEnabled r.level && (b.handler.isSome || Level.warning.number ≤ r.level.number) then
    (b.line r).toOption.map fun t => (b.sink, t ++ ['\n'])
  else none

end Base

/-! ## Factories -/

/-- What configures the base logger when it is first asked for a logger. -/
structure Factory where
  /-- The handler to install. -/
  handler : Handler
  /-- The level to set. -/
  level : Level
  /-- The base logger has been configured. -/
  used : Bool := false
  deriving DecidableEq

namespace Factory

/-- Asks for a logger. Gives its name, the factory afterwards and the base logger afterwards. -/
def logger (f : Factory) (b : Base) (name : Text) : Text × Factory × Base :=
  (Base.qualify name, { f with used := true },
    if f.used then b else b.configure f.handler f.level)

end Factory

/-! ## Tracing -/

/-- A message with a context behind it. -/
def traceMessage (message : Text) (context : List (Value × Value)) : Message :=
  if context = [] then ⟨"%s", [.text message]⟩
  else ⟨"%s | ctx=%r", [.text message, .map context]⟩

/-- The names that a context cannot use. -/
def reservedNames : List String := ["logger", "message"]

/-- The record that traces an event with a context, unless a name in the context is reserved. -/
def traceRecord (logger message : Text) (context : List (Text × Value)) (created : Binary64) :
    Except LogError Record :=
  match context.find? fun p => reservedNames.any fun n => n.toList == p.1 with
  | some (name, _) => .error (.reservedName name)
  | none =>
    let entries := Value.entriesOf (context.map fun p => (.text p.1, p.2))
    .ok ⟨logger, .debug, traceMessage message entries, created, .map entries, none⟩

end HttpTemplates.Log
