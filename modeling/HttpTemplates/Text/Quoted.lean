import HttpTemplates.Text.Basic
import HttpTemplates.Text.Printable

/-!
# Quoted texts

A text or a byte string inside quotation marks, on one line and with everything invisible written
as an escape. Apostrophes are the quotation marks, unless the content holds an apostrophe and no
double quotation mark.
-/

namespace HttpTemplates.Text

/-- The apostrophe. -/
def apostrophe : Char := '\x27'

/-- The double quotation mark. -/
def quotation : Char := '\x22'

/-- The lower-case hexadecimal digits of `n`, at least `width` of them. -/
def hexDigits (width n : Nat) : Text :=
  padLeft width '0' (Nat.toDigits 16 n)

/-- The quotation mark for a content: the apostrophe, if that needs no more escapes. -/
def quoteMark (content : Text) : Char :=
  if content.contains apostrophe && !content.contains quotation then quotation else apostrophe

/-- The numeric escape of a code point, in the shortest of its three widths. -/
def codeEscape (n : Nat) : Text :=
  if n < 0x100 then '\\' :: 'x' :: hexDigits 2 n
  else if n < 0x10000 then '\\' :: 'u' :: hexDigits 4 n
  else '\\' :: 'U' :: hexDigits 8 n

/-- A character between quotation marks `mark`; `keep` says which characters are shown as they
are. -/
def quotedChar (mark : Char) (keep : Char → Bool) (c : Char) : Text :=
  if c = mark || c = '\\' then ['\\', c]
  else if c = '\n' then ['\\', 'n']
  else if c = '\r' then ['\\', 'r']
  else if c = '\t' then ['\\', 't']
  else if keep c then [c]
  else codeEscape c.toNat

/-- A text in quotation marks, where `keep` says which characters are shown as they are. -/
def quotedWith (keep : Char → Bool) (t : Text) : Text :=
  let mark := quoteMark t
  mark :: t.flatMap (quotedChar mark keep) ++ [mark]

/-- A text in quotation marks. -/
def quoted (t : Text) : Text :=
  quotedWith isPrintable t

/-- Whether a character belongs to printable ASCII. -/
def isAsciiPrintable (c : Char) : Bool :=
  0x20 ≤ c.toNat && c.toNat < 0x7F

/-- Every character outside ASCII as a numeric escape. -/
def escapeNonAscii (t : Text) : Text :=
  t.flatMap fun c => if c.toNat < 0x80 then [c] else codeEscape c.toNat

/-- A byte string in quotation marks, marked with a `b`. -/
def quotedBytes (bytes : List UInt8) : Text :=
  'b' :: quotedWith isAsciiPrintable (bytes.map fun b => Char.ofNat b.toNat)

example : quoted "it's".toList = "\"it's\"".toList := by decide +kernel

example : quoted "a\n\u200B".toList = "'a\\n\\u200b'".toList := by decide +kernel

example : quotedBytes [0x78, 0xFF] = "b'x\\xff'".toList := by decide +kernel

end HttpTemplates.Text
