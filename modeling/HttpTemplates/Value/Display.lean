import HttpTemplates.Number.Shortest
import HttpTemplates.Text.Quoted
import HttpTemplates.Value.Basic

/-!
# The text of values

`Value.display` writes a value so that its kind can be seen: texts are quoted, lists stand in
brackets and maps in braces. `Value.plain` writes a text as it is and everything else in the same
way.
-/

namespace HttpTemplates.Value

mutual

/-- A value with its texts quoted. -/
def display : Value → Text
  | .null => "None"
  | .bool b => if b then "True" else "False"
  | .int n => Text.ofInt n
  | .real x => x.display
  | .text t => Text.quoted t
  | .bytes b => Text.quotedBytes b
  | .list items => ('[' : Char) :: displayItems items ++ [']']
  | .map entries => ('\x7b' : Char) :: displayEntries entries ++ ['\x7d']

/-- Values with commas between them. -/
def displayItems : List Value → Text
  | [] => []
  | [v] => display v
  | v :: rest => display v ++ ", " ++ displayItems rest

/-- Entries with colons behind the keys and commas between them. -/
def displayEntries : List (Value × Value) → Text
  | [] => []
  | [(k, v)] => display k ++ ": " ++ display v
  | (k, v) :: rest => display k ++ ": " ++ display v ++ ", " ++ displayEntries rest

end

/-- A text as it is, any other value displayed. -/
def plain : Value → Text
  | .text t => t
  | v => v.display

example : display (.list [.text "a".toList, .null, .bool true]) = "['a', None, True]".toList := by
  decide +kernel

end HttpTemplates.Value
