import HttpTemplates.Log.Level
import HttpTemplates.Log.Message
import HttpTemplates.Log.Timestamp
import HttpTemplates.Value.Json

/-!
# Log records

What a logger is asked to write, and the two layouts in which it writes it: plain text with the
level in front, and one JSON object a line.
-/

namespace HttpTemplates.Log

/-- The failure that a record reports. -/
structure Failure where
  /-- What kind of failure it is. -/
  kind : Text
  /-- What is said about it. -/
  message : Text
  deriving DecidableEq

/-- A failure in a line. -/
def Failure.text (f : Failure) : Text :=
  if f.message = [] then f.kind else f.kind ++ ": " ++ f.message

/-- Something to be written to a log. -/
structure Record where
  /-- The name of the logger. -/
  logger : Text
  /-- The level. -/
  level : Level
  /-- The message. -/
  message : Message
  /-- When it happened, in seconds. -/
  created : Binary64
  /-- What else is known, as a map. -/
  context : Value := .null
  /-- The failure that is reported. -/
  failure : Option Failure := none

namespace Record

/-- The version in JSON lines. -/
def version : Text := "1.0.0"

/-- The message with the level in front. -/
def plainLine (r : Record) : Except LogError Text := do
  let message ← r.message.render
  .ok (r.level.name ++ ": " ++ message)

/-- The context as a field of a JSON line. An empty map is left out, and so is what is no map. -/
def contextField (r : Record) : List (Value × Value) :=
  match r.context with
  | .map (e :: es) => [(.text "ctx", .map (e :: es))]
  | _ => []

/-- The failure as a field of a JSON line. -/
def failureField (r : Record) : List (Value × Value) :=
  match r.failure with
  | some f => [(.text "exc", .text f.text)]
  | none => []

/-- The record as a JSON object. -/
def jsonLine (r : Record) : Except LogError Text := do
  let time ← timestamp r.created
  let message ← r.message.render
  let fields : List (Value × Value) := [
    (.text "ts", .text time),
    (.text "level", .text r.level.name),
    (.text "module", .text r.logger),
    (.text "msg", .text message),
    (.text "version", .text version)]
  match (Value.map (fields ++ r.contextField ++ r.failureField)).json? with
  | some line => .ok line
  | none => .error .keyNotName

end Record

end HttpTemplates.Log
