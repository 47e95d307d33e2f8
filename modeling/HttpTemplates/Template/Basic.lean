import HttpTemplates.Template.Expression

/-!
# Templates

A template is a list of chunks: literal text, which is encoded when the template is parsed, and
expressions, which are filled in when it is expanded.

* `Template.parse` reads a template and `Template.ofChunks` takes chunks as they are.
* `Template.toText` writes the chunks back.
* `Template.expand` fills in the variables.
-/

namespace HttpTemplates

/-! ## Chunks -/

/-- A part of a template. -/
inductive Chunk where
  /-- Text that is copied. -/
  | literal (text : Text) (text_ne_nil : text ≠ [])
  /-- A place for a value. -/
  | expression (e : Expression)

instance : DecidableEq Chunk
  | .literal s _, .literal t _ => decidable_of_iff (s = t) (by simp)
  | .expression e, .expression f => decidable_of_iff (e = f) (by simp)
  | .literal _ _, .expression _ => isFalse nofun
  | .expression _, .literal _ _ => isFalse nofun

namespace Chunk

/-- A literal chunk. -/
def ofText (t : Text) : Except Error Chunk :=
  if h : t = [] then .error (.input .emptyLiteral) else .ok (.literal t h)

/-- The literal chunk of a text, if the text is not empty. -/
def literal? (t : Text) : Option Chunk :=
  if h : t = [] then none else some (.literal t h)

/-- The text of a chunk. -/
def text : Chunk → Text
  | .literal t _ => t
  | .expression e => e.text

/-- The expression in a chunk. -/
def expression? : Chunk → Option Expression
  | .literal _ _ => none
  | .expression e => some e

/-- The text of a literal chunk. -/
def literalText? : Chunk → Option Text
  | .literal t _ => some t
  | .expression _ => none

end Chunk

namespace Template

/-- How a template treats its literals and its values. -/
structure Settings where
  /-- An expression without a value stays as literal text; otherwise it is dropped. -/
  keepUnresolved : Bool := false
  /-- Literals and values are percent-encoded. -/
  encode : Bool := true
  /-- The slashes in values are encoded too. -/
  encodeSlash : Bool := true
  /-- The charset of encoded characters. -/
  charset : Charset := .utf8

namespace Settings

/-- The settings with a charset that has a name. -/
def normalize (s : Settings) : Settings :=
  { s with charset := s.charset.orUtf8 }

/-- Encodes literal text and keeps its delimiters. -/
def encodeLiteral (s : Settings) (t : Text) : Except Error Text :=
  if s.encode then Percent.encode s.charset true t else .ok t

end Settings

/-! ## Parsing -/

/-- The chunks of a token; literal text goes through `encodeLiteral`. -/
def chunksOfToken (encodeLiteral : Text → Except Error Text) (token : Text) :
    Except Error (List Chunk) := do
  match ← Expression.parse token with
  | some e => .ok [.expression e]
  | none => do
    let t ← encodeLiteral token
    .ok (Chunk.literal? t).toList

/-- The chunks of a list of tokens. -/
def chunksOfTokens (encodeLiteral : Text → Except Error Text) :
    List Text → Except Error (List Chunk)
  | [] => .ok []
  | token :: rest => do
    let head ← chunksOfToken encodeLiteral token
    let tail ← chunksOfTokens encodeLiteral rest
    .ok (head ++ tail)

/-- The chunks of a text. -/
def parseFragment (encodeLiteral : Text → Except Error Text) (t : Text) :
    Except Error (List Chunk) :=
  chunksOfTokens encodeLiteral (Token.tokenize t)

end Template

/-- A parsed template. -/
structure Template where
  /-- The text it was parsed from. -/
  source : Text
  /-- How literals and values are treated. -/
  settings : Template.Settings
  /-- The parts in order. -/
  chunks : List Chunk

namespace Template

/-- Parses a template. -/
def parse (source : Text) (settings : Settings) : Except Error Template := do
  let settings := settings.normalize
  let chunks ← parseFragment settings.encodeLiteral source
  .ok ⟨source, settings, chunks⟩

/-- Parses a template that may be missing. -/
def parse? (source : Option Text) (settings : Settings) : Except Error Template :=
  match source with
  | some source => parse source settings
  | none => .error (.template .missingTemplate)

/-- The texts of chunks, one after the other. -/
def textOfChunks (chunks : List Chunk) : Text :=
  chunks.flatMap Chunk.text

/-- A template of chunks that were made elsewhere. -/
def ofChunks (chunks : List Chunk) (settings : Settings) : Template :=
  ⟨textOfChunks chunks, settings.normalize, chunks⟩

/-- A template of chunks that may be missing. -/
def ofChunks? (chunks : Option (List Chunk)) (settings : Settings) : Except Error Template :=
  match chunks with
  | some chunks => .ok (ofChunks chunks settings)
  | none => .error (.template .missingChunks)

/-! ## Views -/

/-- The chunks as text. -/
def toText (t : Template) : Text :=
  textOfChunks t.chunks

/-- The expressions in order. -/
def expressions (t : Template) : List Expression :=
  t.chunks.filterMap Chunk.expression?

/-- The names of the expressions in order; a name that is used twice is there twice. -/
def variableNames (t : Template) : List Text :=
  t.expressions.map (·.name)

/-- The literal texts in order. -/
def literals (t : Template) : List Text :=
  t.chunks.filterMap Chunk.literalText?

/-- Whether there are no expressions. -/
def isLiteral (t : Template) : Bool :=
  t.expressions.isEmpty

/-! ## Expansion -/

/-- Every encoded slash as a slash. -/
def decodeSlashes : Text → Text
  | [] => []
  | '%' :: '2' :: 'F' :: rest => '/' :: decodeSlashes rest
  | c :: rest => c :: decodeSlashes rest

/-- What an expression expands to; `none` if it is dropped. -/
def expandExpression (s : Settings) (e : Expression) (v : Value) : Except Error (Option Text) :=
  if v.isNull then
    if s.keepUnresolved then (s.encodeLiteral e.text).map some else .ok none
  else do
    let t ← e.expand s.encode s.charset v
    .ok (some (if s.encodeSlash then t else decodeSlashes t))

/-- What a chunk expands to; `none` if it is dropped. -/
def expandChunk (s : Settings) (vars : Variables) : Chunk → Except Error (Option Text)
  | .literal t _ => .ok (some t)
  | .expression e => expandExpression s e (vars.get e.name)

/-- What the chunks of a list expand to, without those that are dropped. -/
def expandChunks (s : Settings) (vars : Variables) : List Chunk → Except Error (List Text)
  | [] => .ok []
  | c :: rest => do
    let head ← expandChunk s vars c
    let tail ← expandChunks s vars rest
    .ok (head.toList ++ tail)

/-- Fills in the variables. There is no result if there are chunks and all of them are dropped. -/
def expand (t : Template) (vars : Variables) : Except Error (Option Text) := do
  let parts ← expandChunks t.settings vars t.chunks
  .ok (if parts = [] && t.chunks ≠ [] then none else some parts.flatten)

/-- Runs an expansion with variables that may be missing. -/
def withVariables? {α : Type} (expand : Variables → Except Error α) (vars : Option Variables) :
    Except Error α :=
  match vars with
  | some vars => expand vars
  | none => .error (.template .missingVariables)

end Template

end HttpTemplates
