import HttpTemplates.Regex.Matcher
import HttpTemplates.Regex.Reader

/-!
# Compiled patterns

`Regex.compile` reads a pattern once; `Regex.judge` tests texts against it.
-/

namespace HttpTemplates

/-- A regular expression ready to match. -/
structure Regex where
  /-- The syntax tree. -/
  node : Regex.Node
  /-- The flags of the whole pattern. -/
  mode : Regex.Mode
  /-- The least number of characters that it matches. -/
  least : Nat
  deriving DecidableEq

namespace Regex

/-- Reads a pattern. -/
def compile (pattern : Text) : Except PatternError Regex :=
  (parse pattern).map fun parsed => ⟨parsed.node, .ofFlags parsed.flags, parsed.least⟩

/-- What comes of matching the pattern with a whole text, by the rule of older releases for
possessive repetitions unless another one is asked for. -/
def judge (r : Regex) (t : Text) (rule : Resume := .reached) : Verdict :=
  r.node.judge r.mode rule r.least t

/-- The second round fails behind the last letter, where the older rule goes on. -/
example : (compile "(?:ab?c)*+").toOption.map (fun r => (r.judge "aca", r.judge "aca" .begun)) =
    some (.matched, .mismatched) := by
  decide +kernel

/-- Whether the pattern matches the text from beginning to end. -/
def fullMatch (r : Regex) (t : Text) : Bool :=
  r.judge t = .matched

end Regex

end HttpTemplates
