import HttpTemplates.Regex.Single

/-!
# Matching instructions

`Node.code` turns a syntax tree into instructions for the matcher. Every instruction holds the one
behind it, so that a sequence costs nothing, and the parts of a choice or of a repetition end with
`done`.
-/

namespace HttpTemplates.Regex

/-- Instructions for the matcher. -/
inductive Code where
  /-- The part ends. -/
  | done
  /-- A single character. -/
  | single (s : Single) (next : Code)
  /-- A condition on the place. -/
  | anchor (m : Mode) (a : Anchor) (next : Code)
  /-- Records the place: under `2 * i` group `i + 1` begins, under `2 * i + 1` it ends. -/
  | mark (slot : Nat) (next : Code)
  /-- The text of a group again, compared by a form of its characters. -/
  | backreference (form : Nat → Nat) (index : Nat) (next : Code)
  /-- One of two parts, by whether a group has matched. The second may be missing. -/
  | cond (index : Nat) (yes : Code) (no : Option Code) (next : Code)
  /-- The first of several parts that leads to a match. -/
  | branch (alternatives : List Code) (next : Code)
  /-- What follows, or what begins `behind` characters back, matches or does not match. -/
  | look (behind : Nat) (negative : Bool) (body next : Code)
  /-- The first way to match a part and no other. -/
  | atomic (body next : Code)
  /-- A single character several times over. -/
  | several (least : Nat) (most : Option Nat) (greed : Greed) (s : Single) (next : Code)
  /-- A part several times over. -/
  | loop (least : Nat) (most : Option Nat) (greed : Greed) (body next : Code)

mutual

/-- The instructions for a pattern, in front of `next`. -/
def Node.code (m : Mode) : Node → Code → Code
  | .empty, next => next
  | .never, next => .branch [] next
  | .literal n, next => .single (m.code n false) next
  | .notLiteral n, next => .single (m.code n true) next
  | .any, next => .single ⟨.other, fun x => m.dotAll || x != 10⟩ next
  | .set negated items, next => .single (m.set negated items) next
  | .anchor a, next => .anchor m a next
  | .backreference i, next =>
    .backreference (fun x => if m.ignoreCase then m.fold x else x) i next
  | .seq a b, next => code m a (code m b next)
  | .alt first others, next => .branch (code m first .done :: alternatives m others) next
  | .group i body, next => .mark (2 * i - 2) (code m body (.mark (2 * i - 1) next))
  | .scoped on off body, next => code (m.enter on off) body next
  | .atomic body, next => .atomic (code m body .done) next
  | .look behind negative body, next => .look (behind.getD 0) negative (code m body .done) next
  | .cond i yes no, next =>
    .cond i (code m yes .done) (if no = .empty then none else some (code m no .done)) next
  | .loop least most greed body, next =>
    match body.single? m with
    | some s => .several least most greed s next
    | none => .loop least most greed (code m body .done) next

/-- The instructions for the alternatives of a chain. -/
def Node.alternatives (m : Mode) : Node → List Code
  | .alt first others => code m first .done :: alternatives m others
  | _ => []

end

end HttpTemplates.Regex
