import HttpTemplates.Text.Casing

/-!
# Header fields

Values by name, in the order in which the names were first given. `Fields.insert` overwrites a
value in place, and names that differ in letter case are different names here; `Fields.lookup?`
ignores the case.
-/

namespace HttpTemplates

/-- Values by name in order. -/
abbrev Fields (α : Type) := List (Text × α)

namespace Fields

variable {α : Type}

/-- Puts a value under a name. A name that is there already keeps its place. -/
def insert (name : Text) (value : α) : Fields α → Fields α
  | [] => [(name, value)]
  | (n, v) :: rest =>
    if n = name then (n, value) :: rest else (n, v) :: insert name value rest

/-- The fields of a list of pairs, put in one after the other. -/
def ofList (pairs : List (Text × α)) : Fields α :=
  pairs.foldl (fun fields p => fields.insert p.1 p.2) []

/-- The value under exactly this name. -/
def get? (fields : Fields α) (name : Text) : Option α :=
  List.lookup name fields

/-- The value of the first field with this name in any letter case. -/
def lookup? (fields : Fields α) (name : Text) : Option α :=
  (fields.find? fun p => Text.lower p.1 == Text.lower name).map (·.2)

end Fields

end HttpTemplates
