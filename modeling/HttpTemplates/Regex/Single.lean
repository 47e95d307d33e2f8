import HttpTemplates.Regex.Syntax
import HttpTemplates.Text.Blank
import HttpTemplates.Text.Casing
import HttpTemplates.Text.Word

/-!
# Single characters of a pattern

The parts of a pattern that match exactly one character. `Node.single?` gives such a part its
`Single`: a test on code points together with the `Shape` by which the matcher tells apart the parts
that it can look ahead for.
-/

namespace HttpTemplates.Regex

/-! ## Letter case -/

/-- Groups of lower-case letters that have the same upper case. -/
def letterVariants : List (List Nat) := [
  [0x69, 0x131], [0x73, 0x17F], [0xB5, 0x3BC], [0x345, 0x3B9, 0x1FBE], [0x390, 0x1FD3],
  [0x3B0, 0x1FE3], [0x3B2, 0x3D0], [0x3B5, 0x3F5], [0x3B8, 0x3D1], [0x3BA, 0x3F0],
  [0x3C0, 0x3D6], [0x3C1, 0x3F1], [0x3C2, 0x3C3], [0x3C6, 0x3D5], [0x432, 0x1C80],
  [0x434, 0x1C81], [0x43E, 0x1C82], [0x441, 0x1C83], [0x442, 0x1C84, 0x1C85], [0x44A, 0x1C86],
  [0x463, 0x1C87], [0x1C88, 0xA64B], [0x1E61, 0x1E9B], [0xFB05, 0xFB06]]

/-- The other lower-case letters with the same upper case. -/
def variantsOf (n : Nat) : List Nat :=
  match letterVariants.find? (·.contains n) with
  | some variants => variants.filter (· ≠ n)
  | none => []

/-- The case-independent form of a code point. -/
def Mode.fold (m : Mode) (n : Nat) : Nat :=
  if m.ascii then Text.asciiLowerCode n else Text.lowerCode n

/-- Whether a letter with the code point `n` has a case. -/
def Mode.isCased (m : Mode) (n : Nat) : Bool :=
  if m.ascii then Text.isAsciiLetterCode n else Text.isCasedCode n

/-- The code points, already folded, that match the folded code point `n` in either case. -/
def Mode.variants (m : Mode) (n : Nat) : List Nat :=
  if m.ascii then [n] else n :: variantsOf n

/-! ## Classes and sets -/

/-- Whether a code point belongs to a class. -/
def Category.contains (ascii : Bool) (k : Category) (n : Nat) : Bool :=
  let c := Char.ofNat n
  match k with
  | .digit => if ascii then c.isDigit else Text.isDecimalDigit c
  | .space => if ascii then Text.isAsciiBlank c else Text.isBlank c
  | .word => (if ascii then c.isAlphanum else Text.isAlphanumeric c) || c = '_'

/-- Whether a set member contains a code point as it is. -/
def SetItem.contains (m : Mode) (x : Nat) : SetItem → Bool
  | .code n => n == x
  | .range a b => a ≤ x && x ≤ b
  | .category k negated => k.contains m.ascii x != negated

/-- Whether a set member makes its set disregard case. Beyond the basic plane every member does. -/
def SetItem.isCased (m : Mode) : SetItem → Bool
  | .code n => m.isCased n || 0x10000 ≤ n
  | .range a b =>
    0x10000 ≤ b || (List.range (b + 1 - a)).any fun i => m.isCased (a + i)
  | .category .. => false

/-- Whether a set member contains a code point, given folded, in either case. A single code point
beyond the basic plane is compared as it is, and a range there also with the first letter of the
upper case. -/
def SetItem.containsFolded (m : Mode) (x : Nat) : SetItem → Bool
  | .code n => if 0x10000 ≤ n then n == x else (m.variants (m.fold n)).contains x
  | .range a b =>
    let sources := (m.variants x).flatMap fun v =>
      if m.ascii then (if Text.asciiLowerCode v = v then [v] else []) ++
        (if 0x61 ≤ v && v ≤ 0x7A then [v - 32] else [])
      else Text.lowerSources v
    let capital := ((Text.upper [Char.ofNat x]).head?.map Char.toNat).getD x
    sources.any (fun y => a ≤ y && y ≤ b && y < 0x10000)
      || (0x10000 ≤ b && ((a ≤ x && x ≤ b) || (a ≤ capital && capital ≤ b)))
  | .category k negated => k.contains m.ascii x != negated

/-! ## Tests -/

/-- What the matcher knows about a part of one character before it tries it. -/
inductive Shape where
  /-- It is this code point and no other. -/
  | literal (n : Nat)
  /-- It is a set of code points. -/
  | set
  /-- It is a set of code points in either case. -/
  | folded
  /-- It is anything else. -/
  | other

/-- A part of a pattern that matches one character. -/
structure Single where
  /-- How it looks to the matcher. -/
  shape : Shape
  /-- The code points that it matches. -/
  accepts : Nat → Bool

/-- A single code point, or any other one. -/
def Mode.code (m : Mode) (n : Nat) (negated : Bool) : Single :=
  if m.ignoreCase && m.isCased n then
    let variants := m.variants (m.fold n)
    ⟨if variants.length = 1 then .other else .folded,
      fun x => variants.contains (m.fold x) != negated⟩
  else ⟨if negated then .other else .literal n, fun x => (n == x) != negated⟩

/-- A set, or everything outside it. -/
def Mode.set (m : Mode) (negated : Bool) (items : List SetItem) : Single :=
  if m.ignoreCase && items.any (SetItem.isCased m) then
    ⟨.folded, fun x => items.any (SetItem.containsFolded m (m.fold x)) != negated⟩
  else ⟨.set, fun x => items.any (SetItem.contains m x) != negated⟩

/-- The test of a part that matches one character. Switching flags around it makes no difference to
what it is. -/
def Node.single? (m : Mode) : Node → Option Single
  | .literal n => some (m.code n false)
  | .notLiteral n => some (m.code n true)
  | .any => some ⟨.other, fun x => m.dotAll || x != 10⟩
  | .set negated items => some (m.set negated items)
  | .scoped on off body => single? (m.enter on off) body
  | _ => none

end HttpTemplates.Regex
