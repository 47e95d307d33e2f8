/-!
# Regular expressions

The syntax tree of a regular expression with captures, back references, conditions, look-around,
atomic groups and three kinds of repetition. Characters are code points, so that a pattern can name
surrogates, which no text holds.
-/

namespace HttpTemplates.Regex

/-- A named class of characters. -/
inductive Category where
  /-- The decimal digits. -/
  | digit
  /-- White space. -/
  | space
  /-- Letters, numerals and the low line. -/
  | word
  deriving DecidableEq

/-- A member of a character set. -/
inductive SetItem where
  /-- A single code point. -/
  | code (n : Nat)
  /-- All code points from one to another. -/
  | range (first last : Nat)
  /-- A named class, or everything outside it. -/
  | category (k : Category) (negated : Bool)
  deriving DecidableEq

/-- A condition on a place between two characters. -/
inductive Anchor where
  /-- The beginning of the text or of a line. -/
  | lineStart
  /-- The end of the text or of a line. -/
  | lineEnd
  /-- The beginning of the text. -/
  | textStart
  /-- The end of the text. -/
  | textEnd
  /-- A word begins or ends. -/
  | boundary
  /-- No word begins or ends. -/
  | noBoundary
  deriving DecidableEq

/-- A switch that a pattern can set. -/
inductive Flag where
  /-- Letters match in either case. -/
  | ignoreCase
  /-- Classes depend on the locale. -/
  | locale
  /-- Lines are anchored one by one. -/
  | multiline
  /-- A dot matches a line feed, too. -/
  | dotAll
  /-- White space and comments in the pattern are skipped. -/
  | verbose
  /-- Classes and letter case are those of ASCII. -/
  | ascii
  /-- Repetition is switched off. -/
  | template
  /-- Classes and letter case are those of Unicode. -/
  | unicode
  deriving DecidableEq

/-- How a repetition chooses among the numbers of rounds that match. -/
inductive Greed where
  /-- As many as possible, fewer on failure. -/
  | greedy
  /-- As few as possible, more on failure. -/
  | lazy
  /-- As many as possible and no others. -/
  | possessive
  deriving DecidableEq

/-- A regular expression. -/
inductive Node where
  /-- The empty text. -/
  | empty
  /-- Nothing at all. -/
  | never
  /-- A code point. -/
  | literal (n : Nat)
  /-- Any character but one. -/
  | notLiteral (n : Nat)
  /-- Any character, as a rule without the line feed. -/
  | any
  /-- A character of a set, or one outside it. -/
  | set (negated : Bool) (items : List SetItem)
  /-- A condition on the place. -/
  | anchor (a : Anchor)
  /-- The text that a group matched last. -/
  | backreference (index : Nat)
  /-- One after the other. -/
  | seq (a b : Node)
  /-- The first, or else one of the others. A list of alternatives is a chain of these that ends
  with `never`. -/
  | alt (first others : Node)
  /-- A capturing group. -/
  | group (index : Nat) (body : Node)
  /-- A part with some flags switched. -/
  | scoped (on off : List Flag) (body : Node)
  /-- The first way to match and no other. -/
  | atomic (body : Node)
  /-- What follows, or what precedes at the given width, matches or does not match. -/
  | look (behind : Option Nat) (negative : Bool) (body : Node)
  /-- One of two parts, by whether a group has matched. -/
  | cond (index : Nat) (yes no : Node)
  /-- A part several times over; without an upper limit for `none`. -/
  | loop (least : Nat) (most : Option Nat) (greed : Greed) (body : Node)
  deriving DecidableEq

namespace Node

/-- The parts of a list, one after the other. -/
def ofList : List Node → Node
  | [] => .empty
  | [n] => n
  | n :: rest => .seq n (ofList rest)

/-- The alternatives of a list, in order. -/
def ofAlternatives : List (List Node) → Node
  | [] => .never
  | a :: rest => .alt (ofList a) (ofAlternatives rest)

end Node

/-! ## Widths -/

/-- The least and the greatest number of characters that a pattern matches. -/
structure Width where
  /-- The least number. -/
  least : Nat
  /-- The greatest number. -/
  most : Nat
  deriving DecidableEq

/-- The width from which on a pattern counts as unlimited. -/
def Width.limit : Nat :=
  4294967295

/-- A width cut down to the numbers that can be told apart. The least number stays below the limit,
so that two numbers beyond it never agree. -/
def Width.capped (w : Width) : Width :=
  ⟨min w.least (limit - 1), min w.most limit⟩

/-- The width of a pattern, where `groups` gives the widths of the groups. -/
def Node.width (groups : Nat → Width) : Node → Width
  | .empty | .anchor _ | .look .. => ⟨0, 0⟩
  | .never => ⟨Width.limit - 1, 0⟩
  | .literal _ | .notLiteral _ | .any | .set .. => ⟨1, 1⟩
  | .backreference i => groups i
  | .seq a b => ⟨(width groups a).least + (width groups b).least,
      (width groups a).most + (width groups b).most⟩
  | .alt a b | .cond _ a b => ⟨min (width groups a).least (width groups b).least,
      max (width groups a).most (width groups b).most⟩
  | .group _ body | .scoped _ _ body | .atomic body => width groups body
  | .loop least most _ body =>
    ⟨(width groups body).least * least,
      match most with
      | some n => (width groups body).most * n
      | none => (width groups body).most * Width.limit⟩

/-! ## Modes -/

/-- The flags that matching depends on. -/
structure Mode where
  /-- Letters match in either case. -/
  ignoreCase : Bool
  /-- Lines are anchored one by one. -/
  multiline : Bool
  /-- A dot matches a line feed, too. -/
  dotAll : Bool
  /-- Classes and letter case are those of ASCII. -/
  ascii : Bool
  deriving DecidableEq

/-- The mode of a pattern with these flags. -/
def Mode.ofFlags (flags : List Flag) : Mode where
  ignoreCase := flags.contains .ignoreCase
  multiline := flags.contains .multiline
  dotAll := flags.contains .dotAll
  ascii := flags.contains .ascii

/-- The mode inside a part that switches flags on and off. -/
def Mode.enter (m : Mode) (on off : List Flag) : Mode where
  ignoreCase := (m.ignoreCase || on.contains .ignoreCase) && !off.contains .ignoreCase
  multiline := (m.multiline || on.contains .multiline) && !off.contains .multiline
  dotAll := (m.dotAll || on.contains .dotAll) && !off.contains .dotAll
  ascii := (m.ascii && !on.contains .unicode) || on.contains .ascii

end HttpTemplates.Regex
