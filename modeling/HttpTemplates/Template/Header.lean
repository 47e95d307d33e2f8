import HttpTemplates.Template.Basic

/-!
# Header templates

A header and its values, as one template of the name, a space and the values with commas between
them. Nothing is encoded, and expressions without a value leave no trace behind the last value.
-/

namespace HttpTemplates

namespace HeaderTemplate

/-- The list without the later occurrences of its elements. -/
def distinct : List Text → List Text
  | [] => []
  | t :: rest => t :: (distinct rest).filter (· ≠ t)

/-- The values that are given and not blank, each at its first occurrence. -/
def given (values : List (Option Text)) : List Text :=
  distinct ((values.filterMap id).filter Text.hasInk)

/-- The settings of a header template. -/
def settings (charset : Charset) : Template.Settings :=
  ⟨false, false, false, charset⟩

end HeaderTemplate

/-- A template of a header. -/
structure HeaderTemplate where
  /-- The name of the header. -/
  name : Text
  /-- The texts of the values. -/
  values : List Text
  /-- The template of the whole header. -/
  base : Template

namespace HeaderTemplate

/-- A header with the values that are given and not blank. -/
def create (name : Text) (values : List (Option Text)) (charset : Charset := .utf8) :
    Except Error HeaderTemplate :=
  if name = [] then .error (.template .missingName)
  else do
    let kept := given values
    let base ← Template.parse (name ++ ' ' :: [','].intercalate kept) (settings charset)
    .ok ⟨name, kept, base⟩

/-- A header whose list of values may be missing. -/
def create? (name : Text) (values : Option (List (Option Text))) (charset : Charset) :
    Except Error HeaderTemplate :=
  match values with
  | some values => create name values charset
  | none =>
    if name = [] then .error (.template .missingName) else .error (.template .missingValues)

/-- The header with more values. -/
def append (h : HeaderTemplate) (values : List (Option Text)) : Except Error HeaderTemplate :=
  create h.name (h.values.map some ++ values) h.base.settings.charset

/-- The header with more values, whose list may be missing. -/
def append? (h : HeaderTemplate) (values : Option (List (Option Text))) :
    Except Error HeaderTemplate :=
  match values with
  | some values => h.append values
  | none => .error (.template .missingValues)

/-- A header with a parsed template, which may be missing, as its only value. -/
def ofTemplate? (name : Text) (t : Option Template) : Except Error HeaderTemplate :=
  match t with
  | some t => create name [some t.toText] t.settings.charset
  | none => .error (.template .missingValues)

/-- The names of the expressions in order. -/
def variableNames (h : HeaderTemplate) : List Text :=
  h.base.variableNames

/-- A space behind every comma. -/
def spaceCommas (t : Text) : Text :=
  t.flatMap fun c => if c = ',' then [',', ' '] else [c]

/-- Fills in the variables. -/
def expand (h : HeaderTemplate) (vars : Variables) : Except Error (Option Text) := do
  let expanded ← h.base.expand vars
  .ok (expanded.map fun t => spaceCommas (Text.dropEnd (· = ',') t))

end HeaderTemplate

end HttpTemplates
