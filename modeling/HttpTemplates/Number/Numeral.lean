import HttpTemplates.Number.Binary64
import HttpTemplates.Text.Blank
import HttpTemplates.Text.Casing
import HttpTemplates.Text.Word

/-!
# Reading numbers

Numerals may stand between white space, may be written in the decimal digits of any script, and
may have single low lines between their digits.
-/

namespace HttpTemplates.Numeral

/-- Decimal digits and white space of any script as those of ASCII. -/
def normalize (t : Text) : Text :=
  t.map fun c =>
    if c.toNat < 0x80 then c
    else if Text.isBlank c then ' '
    else
      match Text.digitValue? c with
      | some v => Char.ofNat (0x30 + v)
      | none => '?'

/-- A normalized numeral without the white space around it. -/
def strip (t : Text) : Text :=
  Text.dropEnd Text.isAsciiBlank ((normalize t).dropWhile Text.isAsciiBlank)

/-- Takes a sign off a numeral; `true` stands for the minus sign. -/
def takeSign : Text → Bool × Text
  | '-' :: rest => (true, rest)
  | '+' :: rest => (false, rest)
  | t => (false, t)

/-- The numeral without its low lines, if each stands between two digits; `previous` says whether
the character in front was a digit. -/
def dropLowLines (previous : Bool) : Text → Option Text
  | [] => some []
  | '_' :: d :: rest =>
    if previous && d.isDigit then (dropLowLines true rest).map (d :: ·) else none
  | ['_'] => none
  | c :: rest => (dropLowLines c.isDigit rest).map (c :: ·)

/-- The value of a text of ASCII digits. -/
def digitsValue (t : Text) : Nat :=
  t.foldl (fun n c => 10 * n + (c.toNat - 0x30)) 0

/-- Why a text is no integer. -/
inductive Fault where
  /-- It is not written as one. -/
  | malformed
  /-- It has too many digits. -/
  | tooLong (digits : Nat)
  deriving DecidableEq

/-- The greatest number of digits in an integer, zeros in front included. -/
def digitLimit : Nat :=
  4300

/-- Reads an integer. What stands behind its digits is looked at only if there are not too many. -/
def int (t : Text) : Except Fault Int :=
  let (negative, body) := takeSign ((normalize t).dropWhile Text.isAsciiBlank)
  let run := body.takeWhile fun c => c.isDigit || c = '_'
  match dropLowLines false run with
  | none => .error .malformed
  | some digits =>
    if digitLimit < digits.length then .error (.tooLong digits.length)
    else if digits = [] || !(body.drop run.length).all Text.isAsciiBlank then .error .malformed
    else .ok (if negative then -(digitsValue digits : Int) else digitsValue digits)

/-- The integer that a text stands for, if there is one. -/
def int? (t : Text) : Option Int :=
  (int t).toOption

/-- The number with these digits, times a power of ten. If its first digit other than zero is far
outside the format, that decides at once. -/
def scaled (negative : Bool) (digits : Text) (exponent : Int) : Binary64 :=
  let digits := digits.dropWhile (· = '0')
  let magnitude := exponent + digits.length
  let n := digitsValue digits
  if digits = [] || magnitude < -400 then .ofRatio negative 0 1
  else if 400 < magnitude then .infinite negative
  else .ofRatio negative (n * Nat.pow 10 exponent.toNat) (Nat.pow 10 (-exponent).toNat)

/-- Reads the exponent of a numeral, which may be missing. -/
def exponent? : Text → Option Int
  | [] => some 0
  | c :: rest =>
    if c = 'e' || c = 'E' then
      let (negative, digits) := takeSign rest
      if digits ≠ [] && digits.all Char.isDigit then
        some (if negative then -(digitsValue digits : Int) else digitsValue digits)
      else none
    else none

/-- Reads a number without sign: digits, a point and an exponent, of which only a digit in front
of the exponent is required. -/
def unsigned? (negative : Bool) (t : Text) : Option Binary64 := do
  let whole := t.takeWhile Char.isDigit
  let afterWhole := t.dropWhile Char.isDigit
  let (fraction, rest) := match afterWhole with
    | '.' :: more => (more.takeWhile Char.isDigit, more.dropWhile Char.isDigit)
    | _ => ([], afterWhole)
  if whole = [] && fraction = [] then none
  else
    let e ← exponent? rest
    some (scaled negative (whole ++ fraction) (e - fraction.length))

/-- Reads a floating point number, among them the words for infinity and for no number. -/
def real? (t : Text) : Option Binary64 := do
  let plain ← dropLowLines false (strip t)
  let (negative, body) := takeSign plain
  let word := body.map fun c => Char.ofNat (Text.asciiLowerCode c.toNat)
  if word = "inf" || word = "infinity" then some (.infinite negative)
  else if word = "nan" then some .nan
  else unsigned? negative body

example : int? " 1_000 ".toList = some 1000 ∧ int? "1__0".toList = none := by decide +kernel

example : real? ".5".toList = some (.ofRatio false 1 2) ∧ real? "1e".toList = none := by
  decide +kernel

end HttpTemplates.Numeral
