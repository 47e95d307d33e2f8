import HttpTemplates.Error
import HttpTemplates.Request.Fields
import HttpTemplates.Value.Basic

/-!
# Bindings

Variables as they are given on a command line: a name, an equals sign and a value. A name that is
given several times has several values.
-/

namespace HttpTemplates.CommandLine

/-- The name and the value in a binding; the name may not be empty. -/
def binding? (raw : Text) : Option (Text × Text) :=
  match Text.cut '=' raw with
  | (name, some value) => if name = [] then none else some (name, value)
  | (_, none) => none

/-- Adds a value to those of a name. -/
def addBinding (bound : Fields (List Text)) (name value : Text) : Fields (List Text) :=
  bound.insert name ((bound.get? name).getD [] ++ [value])

/-- Adds bindings, and stops at the first that is none. -/
def addBindings (bound : Fields (List Text)) : List Text → Except Error (Fields (List Text))
  | [] => .ok bound
  | raw :: rest =>
    match binding? raw with
    | some (name, value) => addBindings (addBinding bound name value) rest
    | none => .error (.usage (.badBinding raw))

/-- The values of each name in a list of bindings. -/
def readBindings (raws : List Text) : Except Error (Fields (List Text)) :=
  addBindings [] raws

/-- The values of each name in a list of options. The separator is no binding, and is found when the
bindings in front of it are read. -/
def readGiven (given : List (Option Text)) : Except Error (Fields (List Text)) := do
  let bound ← readBindings (given.takeWhile Option.isSome).reduceOption
  if given.contains none then .error (.usage .separatorBinding) else .ok bound

/-- One value stands for itself, several are a list. -/
def valueOfTexts : List Text → Value
  | [t] => .text t
  | ts => .list (ts.map .text)

/-- Bindings as variables. -/
def variablesOf (bound : Fields (List Text)) : Variables :=
  ⟨bound.map fun p => (p.1, valueOfTexts p.2)⟩

end HttpTemplates.CommandLine
