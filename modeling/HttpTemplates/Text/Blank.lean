import HttpTemplates.Text.Basic
import HttpTemplates.Text.Bands

/-!
# Blanks

White space in the sense of the Unicode character database, with the four separators U+001C to
U+001F. `trim` removes it at both ends of a text; a text is blank if nothing remains.
-/

namespace HttpTemplates.Text

/-- The bands of white space. -/
def blankBounds : List Nat := [
  0x9, 0xE, 0x1C, 0x21, 0x85, 0x86, 0xA0, 0xA1, 0x1680, 0x1681, 0x2000, 0x200B, 0x2028, 0x202A,
  0x202F, 0x2030, 0x205F, 0x2060, 0x3000, 0x3001]

/-- Whether a character is white space. -/
def isBlank (c : Char) : Bool :=
  inBands blankBounds c.toNat

/-- The white space of ASCII proper: tab to carriage return, and the space. -/
def isAsciiBlank (c : Char) : Bool :=
  (9 ≤ c.toNat && c.toNat ≤ 13) || c = ' '

example : [' ', '\t', '\n', '\r', '\u00A0', '\u3000', '\x1f'].all isBlank = true := by decide

example : ['a', '0', '\u200B', '\x00'].any isBlank = false := by decide

/-- The text without white space at its beginning and its end. -/
def trim (t : Text) : Text :=
  dropEnd isBlank (t.dropWhile isBlank)

@[simp] theorem trim_nil : trim [] = [] := rfl

/-- Whether a text holds anything but white space. -/
def hasInk (t : Text) : Bool :=
  t.any fun c => !isBlank c

@[simp] theorem hasInk_nil : hasInk [] = false := rfl

@[simp] theorem hasInk_append (s t : Text) : hasInk (s ++ t) = (hasInk s || hasInk t) := by
  simp [hasInk]

end HttpTemplates.Text
