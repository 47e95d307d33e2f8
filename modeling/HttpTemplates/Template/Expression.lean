import HttpTemplates.Percent
import HttpTemplates.Regex.Basic
import HttpTemplates.Template.Token
import HttpTemplates.Text.Blank
import HttpTemplates.Value.Display

/-!
# Expressions

An expression is a named place in a template, perhaps with a pattern for what may be put there.
`Expression.parse` reads one from a brace span, `Expression.text` writes it, and
`Expression.expand` renders a value for it.
-/

namespace HttpTemplates

/-! ## Patterns -/

/-- The text of a constraint together with what it compiles to. The empty text constrains
nothing. -/
structure Pattern where
  /-- The text of the pattern. -/
  text : Text
  /-- The compiled pattern. -/
  regex : Option Regex
  /-- The two belong together. -/
  compiled : (if text = [] then .ok none else (Regex.compile text).map some) = Except.ok regex

namespace Pattern

/-- Patterns with the same text are the same. -/
theorem ext {p q : Pattern} (h : p.text = q.text) : p = q := by
  obtain ⟨t, r, hr⟩ := p
  obtain ⟨u, s, hs⟩ := q
  obtain rfl : t = u := h
  obtain rfl : r = s := by simpa using hr.symm.trans hs
  rfl

instance : DecidableEq Pattern := fun p q =>
  if h : p.text = q.text then isTrue (ext h) else isFalse fun e => h (e ▸ rfl)

/-- Compiles the text of a pattern. -/
def ofText (t : Text) : Except PatternError Pattern :=
  match h : (if t = [] then .ok none else (Regex.compile t).map some) with
  | .ok r => .ok ⟨t, r, h⟩
  | .error e => .error e

/-- Whether a text satisfies the constraint. -/
def accepts (p : Pattern) (t : Text) : Except Error Bool :=
  match p.regex with
  | some r =>
    match r.judge t with
    | .matched => .ok true
    | .mismatched => .ok false
    | .crossed => .error .crossedGroup
  | none => .ok true

end Pattern

/-! ## Expressions -/

/-- A named place in a template. -/
structure Expression where
  /-- The name of the variable. -/
  name : Text
  /-- What its values have to match. -/
  pattern : Option Pattern
  /-- The operator in front of the name. It is kept, but has no effect. -/
  modifier : Text
  /-- A name is not empty. -/
  name_ne_nil : name ≠ []
  deriving DecidableEq

namespace Expression

/-- An expression with the given name, pattern and modifier. -/
def create (name : Text) (pattern : Option Text) (modifier : Text) : Except Error Expression :=
  if h : name = [] then .error (.input .emptyExpressionName)
  else
    match pattern with
    | none => .ok ⟨name, none, modifier, h⟩
    | some t =>
      match Pattern.ofText t with
      | .ok p => .ok ⟨name, some p, modifier, h⟩
      | .error e => .error (.pattern e)

/-- The text of the pattern, empty if there is none. -/
def patternText (e : Expression) : Text :=
  (e.pattern.map (·.text)).getD []

/-- The expression as a brace span. -/
def text (e : Expression) : Text :=
  Token.openBrace :: e.modifier ++ e.name
    ++ (if e.patternText = [] then [] else ':' :: e.patternText) ++ [Token.closeBrace]

/-- Whether a text may be put in the place. -/
def accepts (e : Expression) (t : Text) : Except Error Bool :=
  match e.pattern with
  | some p => p.accepts t
  | none => .ok true

/-! ### Reading -/

/-- What stands between the braces of a span that begins and ends with one. -/
def stripBraces? : Text → Option Text
  | c :: rest =>
    if c = Token.openBrace && rest.getLast? == some Token.closeBrace then some rest.dropLast
    else none
  | [] => none

/-- Whether a character is an operator. -/
def isModifier (c : Char) : Bool :=
  c = '+' || c = '#' || c = '.' || c = '/' || c = ';' || c = '?' || c = '&'

/-- Takes an operator off the front of a text. -/
def takeModifier : Text → Text × Text
  | c :: rest => if isModifier c then ([c], rest) else ([], c :: rest)
  | [] => ([], [])

/-- The expression in the text between two braces: an operator, a name and, behind a colon, a
pattern. There is none if the name is empty or holds a brace, or if the pattern is invalid; any
other fault in a pattern is an error. -/
def parseBody (body : Text) : Except Error (Option Expression) :=
  let (modifier, rest) := takeModifier body
  let (name, pattern) := Text.cut ':' (Text.trim rest)
  let name := Text.trim name
  let pattern := pattern.bind fun p => if p = [] then none else some p
  if name = [] || name.contains Token.openBrace then .ok none
  else
    match create name pattern modifier with
    | .ok e => .ok (some e)
    | .error (.pattern .invalid) => .ok none
    | .error e => .error e

/-- The expression that a token stands for. -/
def parse (token : Text) : Except Error (Option Expression) :=
  match stripBraces? token with
  | none => .ok none
  | some [] => .ok none
  | some body => parseBody body

/-! ### Rendering values -/

/-- A single value as text: byte strings are decoded, truth values are lower-case words. -/
def scalarText (charset : Charset) : Value → Except Error Text
  | .bytes bytes => charset.decode bytes
  | .bool b => .ok (if b then "true" else "false")
  | v => .ok v.plain

/-- A single value as text, encoded if `encode` says so. -/
def renderScalar (encode : Bool) (charset : Charset) (v : Value) : Except Error Text := do
  let t ← scalarText charset v
  if encode then Percent.encode charset false t else .ok t

/-- Adds an element to a comma-separated list, of which `pieces` has what each element so far has
added, the latest first. An empty element leaves a comma behind, and a list that is a single comma
gets no second one. -/
def addElement (pieces : List Text) (element : Text) : List Text :=
  if element = [] then [','] :: pieces
  else if pieces = [] || pieces = [[',']] then element :: pieces
  else (',' :: element) :: pieces

/-- The elements of a list, separated by commas. -/
def joinElements (elements : List Text) : Text :=
  (elements.foldl addElement []).reverse.flatten

/-- Renders the values of a list one after the other; those that are nothing are left out. -/
def renderItems (encode : Bool) (charset : Charset) : List Value → Except Error (List Text)
  | [] => .ok []
  | v :: rest =>
    if v.isNull then renderItems encode charset rest
    else do
      let head ← renderScalar encode charset v
      let tail ← renderItems encode charset rest
      .ok (head :: tail)

/-- Renders the entries of a map one after the other; a value that is nothing is empty. -/
def renderEntries (encode : Bool) (charset : Charset) :
    List (Value × Value) → Except Error (List Text)
  | [] => .ok []
  | (k, v) :: rest => do
    let name ← renderScalar encode charset k
    let value ← if v.isNull then .ok [] else renderScalar encode charset v
    let tail ← renderEntries encode charset rest
    .ok ((name ++ '=' :: value) :: tail)

/-- A value of any kind as text. -/
def render (encode : Bool) (charset : Charset) : Value → Except Error Text
  | .map entries => do
    let pairs ← renderEntries encode charset entries
    .ok ([','].intercalate pairs)
  | .list items => do
    let elements ← renderItems encode charset items
    .ok (joinElements elements)
  | v => renderScalar encode charset v

/-- A value as text that the pattern accepts. -/
def expand (e : Expression) (encode : Bool) (charset : Charset) (v : Value) :
    Except Error Text := do
  let t ← render encode charset v
  if ← e.accepts t then .ok t else .error (.template (.mismatch t e.patternText))

end Expression

end HttpTemplates
