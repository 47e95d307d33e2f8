import HttpTemplates.Text.Bands
import HttpTemplates.Text.CharacterName.Aliases
import HttpTemplates.Text.CharacterName.Alphabets
import HttpTemplates.Text.CharacterName.Asian
import HttpTemplates.Text.CharacterName.Historic
import HttpTemplates.Text.CharacterName.Pictures
import HttpTemplates.Text.CharacterName.Symbols
import HttpTemplates.Text.Digit

/-!
# Names of characters

`Text.codeNamed?` finds the code point with a given name. Most names stand in tables; those of
Hangul syllables and of unified ideographs follow from their code points.

A table is a list of entries with semicolons between them; line breaks mean nothing. An entry is
the name of the code point that follows the one in front, unless a code point in hexadecimal digits
and a colon stand at its beginning. The small letters in front of a name say how many characters to
take over from the name in front of it: `a` stands for none, `z` for 25, and several letters for
their sum.
-/

namespace HttpTemplates.Text

namespace CharacterName

/-! ## Tables -/

/-- A name in a table. -/
structure Entry where
  /-- The code point. -/
  code : Nat
  /-- Its name. -/
  name : Text

/-- The name that an entry stands for, where `previous` is the name in front of it. -/
def unfold (previous entry : Text) : Text :=
  let letters := entry.takeWhile Char.isLower
  previous.take (letters.foldl (fun n c => n + (c.toNat - 0x61)) 0) ++ entry.drop letters.length

/-- The entry behind `e`. -/
def Entry.following (e : Entry) (entry : Text) : Entry :=
  match cut ':' entry with
  | (digits, some rest) => ⟨numberIn 16 digits, unfold e.name rest⟩
  | (rest, none) => ⟨e.code + 1, unfold e.name rest⟩

/-- The code point that has a name in the entries behind `e`. -/
def find? (name : Text) (e : Entry) : List Text → Option Nat
  | [] => none
  | entry :: rest =>
    let e := e.following entry
    if e.name = name then some e.code else find? name e rest

/-- The code point that has a name in a table. -/
def findIn? (name : Text) (table : String) : Option Nat :=
  find? name ⟨0, []⟩ (pieces ';' (table.toList.filter (· ≠ '\n')))

/-! ## Names that follow from code points -/

/-- The sounds at the beginning of a Hangul syllable. -/
def hangulInitials : List String :=
  ["G", "GG", "N", "D", "DD", "R", "M", "B", "BB", "S", "SS", "", "J", "JJ", "C", "K", "T", "P",
    "H"]

/-- The sounds in the middle of a Hangul syllable. -/
def hangulMedials : List String :=
  ["A", "AE", "YA", "YAE", "EO", "E", "YEO", "YE", "O", "WA", "WAE", "OE", "YO", "U", "WEO", "WE",
    "WI", "YU", "EU", "YI", "I"]

/-- The sounds at the end of a Hangul syllable. -/
def hangulFinals : List String :=
  ["", "G", "GG", "GS", "N", "NJ", "NH", "D", "L", "LG", "LM", "LB", "LS", "LT", "LP", "LH", "M",
    "B", "BS", "S", "SS", "NG", "J", "C", "K", "T", "P", "H"]

/-- The Hangul syllables in the order of their code points. -/
def hangulSyllables : List Text :=
  hangulInitials.flatMap fun a =>
    hangulMedials.flatMap fun b =>
      hangulFinals.map fun c => a.toList ++ b.toList ++ c.toList

/-- The bands of unified ideographs. -/
def ideographBounds : List Nat := [
  0x3400, 0x4DC0, 0x4E00, 0xA000, 0x20000, 0x2A6E0, 0x2A700, 0x2B739, 0x2B740, 0x2B81E, 0x2B820,
  0x2CEA2, 0x2CEB0, 0x2EBE1, 0x30000, 0x3134B]

/-- The unified ideograph with a code point in four or five digits. -/
def ideograph? (digits : Text) : Option Nat :=
  let n := numberIn 16 digits
  if (digits.length = 4 || digits.length = 5)
      && digits.all (fun c => c.isDigit || ('A' ≤ c && c ≤ 'F')) && inBands ideographBounds n then
    some n
  else none

end CharacterName

/-! ## All names -/

/-- The code point with a name. Letter case makes no difference, except for the names that follow
from code points. -/
def codeNamed? (name : Text) : Option Nat :=
  let syllable : Text := "HANGUL SYLLABLE "
  let ideograph : Text := "CJK UNIFIED IDEOGRAPH-"
  if startsWith name syllable then
    (CharacterName.hangulSyllables.idxOf? (name.drop syllable.length)).map (0xAC00 + ·)
  else if startsWith name ideograph then CharacterName.ideograph? (name.drop ideograph.length)
  else
    let capitals := name.map Char.toUpper
    [CharacterName.alphabets, CharacterName.symbols, CharacterName.asian, CharacterName.historic,
      CharacterName.pictures, CharacterName.aliases].findSome? (CharacterName.findIn? capitals)

end HttpTemplates.Text
