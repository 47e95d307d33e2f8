import HttpTemplates.Number.Shortest
import HttpTemplates.Text.Quoted
import HttpTemplates.Value.Display

/-!
# Values as JSON

`Value.json?` writes a value as JSON on one line, with a space behind every comma and colon and
with characters outside ASCII as they are. Byte strings become texts, and numbers that JSON does
not know have names of their own. A map whose keys include a byte string cannot be written.
-/

namespace HttpTemplates

namespace Text

/-- A character inside a JSON string. -/
def jsonChar (c : Char) : Text :=
  if c = quotation || c = '\\' then ['\\', c]
  else if c = '\n' then ['\\', 'n']
  else if c = '\r' then ['\\', 'r']
  else if c = '\t' then ['\\', 't']
  else if c.toNat = 0x08 then ['\\', 'b']
  else if c.toNat = 0x0C then ['\\', 'f']
  else if c.toNat < 0x20 then '\\' :: 'u' :: hexDigits 4 c.toNat
  else [c]

/-- A text as a JSON string. -/
def jsonQuoted (t : Text) : Text :=
  quotation :: t.flatMap jsonChar ++ [quotation]

end Text

namespace Value

/-- A number in JSON. -/
def jsonReal (x : Binary64) : Text :=
  match x with
  | .nan => "NaN"
  | .infinite negative => if negative then "-Infinity" else "Infinity"
  | x => x.display

/-- The name that stands for a key. -/
def jsonKey? : Value → Option Text
  | .text t => some t
  | .null => some "null"
  | .bool b => some (if b then "true" else "false")
  | .int n => some (Text.ofInt n)
  | .real x => some (jsonReal x)
  | _ => none

mutual

/-- A value as JSON. -/
def json? : Value → Option Text
  | .null => some "null"
  | .bool b => some (if b then "true" else "false")
  | .int n => some (Text.ofInt n)
  | .real x => some (jsonReal x)
  | .text t => some (Text.jsonQuoted t)
  | .bytes b => some (Text.jsonQuoted (Text.quotedBytes b))
  | .list items => (jsonItems? items).map fun t => '[' :: t ++ [']']
  | .map entries => (jsonEntries? entries).map fun t => '\x7b' :: t ++ ['\x7d']

/-- Values with commas between them. -/
def jsonItems? : List Value → Option Text
  | [] => some []
  | [v] => json? v
  | v :: rest => do
    let head ← json? v
    let tail ← jsonItems? rest
    some (head ++ ", " ++ tail)

/-- Entries with colons behind the names and commas between them. -/
def jsonEntries? : List (Value × Value) → Option Text
  | [] => some []
  | (k, v) :: rest => do
    let name ← jsonKey? k
    let value ← json? v
    let tail ← jsonEntries? rest
    let more : Text := if rest.isEmpty then [] else [',', ' '] ++ tail
    some (Text.jsonQuoted name ++ ": " ++ value ++ more)

end

example : (json? (.map [(.int 1, .list [.null, .text "a\n".toList])])).isSome = true := by
  decide +kernel

end Value

end HttpTemplates
