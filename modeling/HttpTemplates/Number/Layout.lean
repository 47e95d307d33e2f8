import HttpTemplates.Number.Shortest

/-!
# Numbers in given widths

The digits of a number for a table or a message: a given number of digits, leading zeros, other
bases, and a sign and a mark of the base in front.
-/

namespace HttpTemplates

/-- How a number is laid out. -/
structure Layout where
  /-- The text stands on the left of its column. -/
  leftAligned : Bool := false
  /-- Positive numbers have a plus sign. -/
  plus : Bool := false
  /-- Positive numbers have a space for a sign. -/
  space : Bool := false
  /-- The mark of the base, and the decimal point, are always written. -/
  marked : Bool := false
  /-- The column is filled with zeros. -/
  zeros : Bool := false
  /-- The width of the column. -/
  width : Nat := 0
  /-- The number of digits. -/
  precision : Option Nat := none
  deriving DecidableEq

namespace Layout

/-- A text in its column. -/
def text (l : Layout) (t : Text) : Text :=
  let fill := List.replicate (l.width - t.length) ' '
  if l.leftAligned then t ++ fill else fill ++ t

/-- The sign of a number. -/
def sign (l : Layout) (negative : Bool) : Text :=
  if negative then ['-'] else if l.plus then ['+'] else if l.space then [' '] else []

/-- A number in its column; zeros go between `mark` and `digits`. -/
def number (l : Layout) (negative : Bool) (mark digits : Text) : Text :=
  let front := l.sign negative ++ mark
  if l.zeros && !l.leftAligned then
    front ++ Text.padLeft (l.width - front.length) '0' digits
  else l.text (front ++ digits)

/-- Letters of ASCII in upper case. -/
def upperAscii (t : Text) : Text :=
  t.map Char.toUpper

/-- A whole number in base 10, 8 or 16. -/
def whole (l : Layout) (base : Nat) (upper : Bool) (n : Int) : Text :=
  let digits := Text.padLeft (l.precision.getD 0) '0' (Nat.toDigits base n.natAbs)
  let mark : Text :=
    if !l.marked || base = 10 then []
    else ['0', if base = 8 then 'o' else 'x']
  let cased (t : Text) : Text := if upper then upperAscii t else t
  l.number (n < 0) (cased mark) (cased digits)

/-- A way to write a number with a fraction. -/
inductive Style where
  /-- Without an exponent. -/
  | fixed
  /-- With an exponent. -/
  | exponent
  /-- With an exponent if that is shorter. -/
  | general
  deriving DecidableEq

/-- Digits with a point in front of the last `places` of them. -/
def point (l : Layout) (places n : Nat) : Text :=
  Binary64.pointed places n ++ (if l.marked && places = 0 then ['.'] else [])

/-- A number without the zeros at its end, unless they are to be marked. -/
def trim (l : Layout) (t : Text) : Text :=
  if l.marked || !t.contains '.' then t
  else Text.dropEnd (· = '.') (Text.dropEnd (· = '0') t)

/-- A number of digits that writes every number exactly; further ones are zeros. -/
def exactDigits : Nat := 1100

/-- The digits of `m * 2 ^ e`. -/
def digits (l : Layout) (style : Style) (m : Nat) (e : Int) : Text :=
  let precision := l.precision.getD 6
  let exact := min precision exactDigits
  let zeros := List.replicate (precision - exact) '0'
  match style with
  | .fixed => Binary64.fixed m e exact ++ zeros ++ (if l.marked && precision = 0 then ['.'] else [])
  | .exponent =>
    let d := Binary64.significant m e exact
    l.point exact d.digits ++ zeros ++ 'e' :: Binary64.exponentText (d.exponent + exact)
  | .general =>
    let last := (if l.marked then precision else exact) - 1
    let d := Binary64.significant m e last
    let k := d.exponent + last
    if -4 ≤ k && k ≤ last then l.trim (l.point (-d.exponent).toNat d.digits)
    else l.trim (l.point last d.digits) ++ 'e' :: Binary64.exponentText k

/-- A number with a fraction. -/
def real (l : Layout) (style : Style) (upper : Bool) (x : Binary64) : Text :=
  let cased (t : Text) : Text := if upper then upperAscii t else t
  match x with
  | .nan => l.number false [] (cased "nan")
  | .infinite negative => l.number negative [] (cased "inf")
  | .finite negative m e => l.number negative [] (cased (l.digits style m e))

example : whole { width := 5, zeros := true } 10 false 42 = "00042".toList := by decide +kernel

example : whole { marked := true } 16 true (-255) = "-0XFF".toList := by decide +kernel

example : real { precision := some 2 } .fixed false (.ofRatio false 2345 1000) = "2.35".toList := by
  decide +kernel

example : real {} .general false (.ofInt 1000000) = "1e+06".toList := by decide +kernel

end Layout

end HttpTemplates
