import HttpTemplates.Template.Basic

/-!
# URI templates

The first question mark outside expressions divides a URI template: literals in front of it are
encoded as a path, those behind it as a query string. Expressions without a value stay as encoded
literal text.
-/

namespace HttpTemplates

namespace UriTemplate

/-- The index of the first question mark outside expressions in a list of tokens that begins at
`offset`. -/
def findDelimiter (offset : Nat) : List Text → Except Error (Option Nat)
  | [] => .ok none
  | token :: rest => do
    let expression ← Expression.parse token
    if expression.isSome || !token.contains '?' then findDelimiter (offset + token.length) rest
    else .ok (some (offset + token.idxOf '?'))

/-- The index of the question mark that divides a URI template. -/
def queryDelimiter? (t : Text) : Except Error (Option Nat) :=
  findDelimiter 0 (Token.tokenize t)

/-- The chunks of a URI template. -/
def parseChunks (charset : Charset) (t : Text) : Except Error (List Chunk) := do
  match ← queryDelimiter? t with
  | none => Template.parseFragment (Percent.pathEncode charset) t
  | some i => do
    let path ← Template.parseFragment (Percent.pathEncode charset) (t.take i)
    let query ← Template.parseFragment (Percent.queryEncode charset) (t.drop i)
    .ok (path ++ query)

/-- The settings of a URI template. -/
def settings (charset : Charset) (encodeSlash : Bool) : Template.Settings :=
  Template.Settings.normalize ⟨true, true, encodeSlash, charset⟩

end UriTemplate

/-- A template of a URI or of a part of one. -/
structure UriTemplate where
  /-- The template. -/
  base : Template

namespace UriTemplate

/-- Parses a URI template. -/
def create (source : Text) (charset : Charset := .utf8) (encodeSlash : Bool := true) :
    Except Error UriTemplate := do
  let s := settings charset encodeSlash
  let chunks ← parseChunks s.charset source
  .ok ⟨⟨source, s, chunks⟩⟩

/-- Parses a URI template that may be missing. -/
def create? (source : Option Text) (charset : Charset) (encodeSlash : Bool) :
    Except Error UriTemplate :=
  match source with
  | some source => create source charset encodeSlash
  | none => .error (.template .missingTemplate)

/-- The template without text. -/
def empty (charset : Charset) (encodeSlash : Bool) : UriTemplate :=
  ⟨⟨[], settings charset encodeSlash, []⟩⟩

/-- The template without text is what parsing the empty text gives. -/
theorem create_nil (charset : Charset) (encodeSlash : Bool) :
    create [] charset encodeSlash = .ok (empty charset encodeSlash) := rfl

/-- The chunks as text. -/
def toText (t : UriTemplate) : Text :=
  t.base.toText

/-- The names of the expressions in order. -/
def variableNames (t : UriTemplate) : List Text :=
  t.base.variableNames

/-- The template followed by more text. -/
def append (t : UriTemplate) (fragment : Text) : Except Error UriTemplate :=
  create (t.toText ++ fragment) t.base.settings.charset t.base.settings.encodeSlash

/-- Fills in the variables. -/
def expand (t : UriTemplate) (vars : Variables) : Except Error (Option Text) :=
  t.base.expand vars

end UriTemplate

/-- Parses and expands a URI template. -/
def expandUri (source : Text) (vars : Variables) (charset : Charset := .utf8) :
    Except Error Text := do
  let t ← UriTemplate.create source charset
  let expanded ← t.expand vars
  .ok (expanded.getD [])

end HttpTemplates
