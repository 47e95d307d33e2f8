import HttpTemplates.CollectionFormat
import HttpTemplates.Template.Basic

/-!
# Query templates

One parameter of a query string: a name and the templates of its values, all of which may hold
expressions. A parameter without value templates is *pure* and stands without an equals sign.
`QueryTemplate.expand` gives nothing if there is nothing to send.
-/

namespace HttpTemplates

namespace QueryTemplate

/-- The values that are given and not blank. -/
def given (values : List (Option Text)) : List Text :=
  (values.filterMap id).filter Text.hasInk

/-- The settings for the name. -/
def nameSettings (charset : Charset) : Template.Settings :=
  ⟨true, true, false, charset⟩

/-- The settings for the values. -/
def valueSettings (charset : Charset) (decodeSlash : Bool) : Template.Settings :=
  ⟨false, true, !decodeSlash, charset⟩

/-- The templates of the texts of a list. -/
def parseAll (settings : Template.Settings) : List Text → Except Error (List Template)
  | [] => .ok []
  | v :: rest => do
    let head ← Template.parse v settings
    let tail ← parseAll settings rest
    .ok (head :: tail)

end QueryTemplate

/-- A template of a query parameter. -/
structure QueryTemplate where
  /-- The template of the name. -/
  name : Template
  /-- The templates of the values. -/
  values : List Template
  /-- The charset of encoded characters. -/
  charset : Charset
  /-- How several values are written. -/
  format : CollectionFormat
  /-- Slashes in values are not encoded. -/
  decodeSlash : Bool

namespace QueryTemplate

/-- A parameter with the values that are given and not blank. -/
def create (name : Text) (values : List (Option Text)) (charset : Charset := .utf8)
    (format : CollectionFormat := .exploded) (decodeSlash : Bool := true) :
    Except Error QueryTemplate :=
  if name = [] then .error (.template .missingName)
  else do
    let charset := charset.orUtf8
    let nameTemplate ← Template.parse name (nameSettings charset)
    let templates ← parseAll (valueSettings charset decodeSlash) (given values)
    .ok ⟨nameTemplate, templates, charset, format, decodeSlash⟩

/-- A parameter whose list of values may be missing. -/
def create? (name : Text) (values : Option (List (Option Text))) (charset : Charset)
    (format : CollectionFormat) (decodeSlash : Bool) : Except Error QueryTemplate :=
  match values with
  | some values => create name values charset format decodeSlash
  | none =>
    if name = [] then .error (.template .missingName) else .error (.template .missingValues)

/-- The texts of the value templates. -/
def valueTexts (q : QueryTemplate) : List Text :=
  q.values.map (·.source)

/-- The parameter with more values. -/
def append (q : QueryTemplate) (values : List (Option Text))
    (format : Option CollectionFormat := none) (decodeSlash : Bool := true) :
    Except Error QueryTemplate :=
  create q.name.source ((q.valueTexts ++ given values).map some) q.charset
    (format.getD q.format) decodeSlash

/-- Whether the parameter stands without an equals sign. -/
def isPure (q : QueryTemplate) : Bool :=
  q.values.isEmpty

/-- The names of the expressions in the name and in the values. -/
def variableNames (q : QueryTemplate) : List Text :=
  q.name.variableNames ++ q.values.flatMap (·.variableNames)

/-- Whether there are no expressions. -/
def isLiteral (q : QueryTemplate) : Bool :=
  q.name.isLiteral && q.values.all (·.isLiteral)

/-- The parameter as text. -/
def toText (q : QueryTemplate) : Text :=
  if q.isPure then q.name.toText
  else ['&'].intercalate (q.values.map fun v => q.name.toText ++ '=' :: v.toText)

/-! ## Expansion -/

/-- The parts of a comma-separated list, without the empty ones at its end. -/
def splitList (t : Text) : List Text :=
  ((Text.pieces ',' t).reverse.dropWhile (· = [])).reverse

/-- The values that an expanded value template stands for. -/
def valuesOf (expanded : Text) : List Text :=
  if expanded.contains ',' then splitList expanded else [expanded]

/-- The values that the templates of a list expand to. -/
def expandValues (vars : Variables) : List Template → Except Error (List Text)
  | [] => .ok []
  | t :: rest => do
    let head ← t.expand vars
    let tail ← expandValues vars rest
    .ok ((head.map valuesOf).getD [] ++ tail)

/-- Whether the name holds expressions, none of which has a value. -/
def nameUnresolved (q : QueryTemplate) (vars : Variables) : Bool :=
  !q.name.variableNames.isEmpty && q.name.variableNames.all fun n => (vars.get n).isNull

/-- The parameter with the variables filled in, if there is anything to send. -/
def expand (q : QueryTemplate) (vars : Variables) : Except Error (Option Text) := do
  let expandedName ← q.name.expand vars
  let name := expandedName.getD []
  if q.isPure then
    .ok (if q.nameUnresolved vars then none else some name)
  else do
    let resolved ← expandValues vars q.values
    if resolved = [] then .ok none
    else (q.format.join name (resolved.map some) q.charset).map some

end QueryTemplate

end HttpTemplates
