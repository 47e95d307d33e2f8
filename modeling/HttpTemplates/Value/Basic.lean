import HttpTemplates.Number.Binary64
import HttpTemplates.Text.Basic

/-!
# Values

What callers bind to the variables of a template: nothing, scalars, byte strings, lists and maps.
A map keeps the order in which its keys were first given.
-/

namespace HttpTemplates

/-- The value of a variable. -/
inductive Value where
  /-- Nothing. -/
  | null
  /-- A truth value. -/
  | bool (b : Bool)
  /-- A whole number. -/
  | int (n : Int)
  /-- A floating point number. -/
  | real (x : Binary64)
  /-- A text. -/
  | text (t : Text)
  /-- A byte string. -/
  | bytes (bytes : List UInt8)
  /-- Several values. -/
  | list (items : List Value)
  /-- Values by key. -/
  | map (entries : List (Value × Value))
  deriving Inhabited

namespace Value

/-- Whether a value is nothing. -/
def isNull : Value → Bool
  | .null => true
  | _ => false

/-- A truth value as the key 0 or 1, and any other value as it is. -/
def asKey : Value → Value
  | .bool b => .int (if b then 1 else 0)
  | v => v

/-- Whether two values are the same key. Numbers are compared by value across their kinds. -/
def sameKey (a b : Value) : Bool :=
  match a.asKey, b.asKey with
  | .null, .null => true
  | .int m, .int n => m == n
  | .int n, .real x => x.sameInt n
  | .real x, .int n => x.sameInt n
  | .real x, .real y => x.sameValue y
  | .text s, .text t => s == t
  | .bytes s, .bytes t => s == t
  | _, _ => false

/-- Puts a value under a key. A key that is there already keeps its spelling and its place. -/
def insertEntry (key value : Value) : List (Value × Value) → List (Value × Value)
  | [] => [(key, value)]
  | (k, v) :: rest =>
    if sameKey k key then (k, value) :: rest else (k, v) :: insertEntry key value rest

/-- The entries of a map into which a list of them is put one after the other. -/
def entriesOf (entries : List (Value × Value)) : List (Value × Value) :=
  entries.foldl (fun m e => insertEntry e.1 e.2 m) []

/-- Whether a value can be the key of a map: it is nothing or a scalar. -/
def isKey : Value → Bool
  | .list _ | .map _ => false
  | _ => true

/-- The map of a list of entries, unless a key is a list or a map. -/
def ofEntries? (entries : List (Value × Value)) : Option Value :=
  if entries.all fun e => e.1.isKey then some (.map (entriesOf entries)) else none

end Value

/-! ## Variables -/

/-- The values that a template is expanded with, by name. -/
structure Variables where
  /-- The bindings. Of two for one name the first counts. -/
  bindings : List (Text × Value)

namespace Variables

/-- No variable at all. -/
def empty : Variables := ⟨[]⟩

/-- The value of a variable. One without a binding is nothing. -/
def get (vars : Variables) (name : Text) : Value :=
  (vars.bindings.lookup name).getD .null

@[simp] theorem get_empty (name : Text) : empty.get name = .null := rfl

end Variables

end HttpTemplates
