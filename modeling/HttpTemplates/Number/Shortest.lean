import HttpTemplates.Number.Binary64
import HttpTemplates.Text.Basic

/-!
# Decimal texts of binary numbers

`Binary64.shortest` finds the fewest decimal digits that round to a given number and, among those
of that length, the nearest to it. For each number of digits only the two neighbours of the value
on the decimal grid need to be tried: if any point of the grid rounds to the number, one of these
does. `Binary64.display` lays the digits out.
-/

namespace HttpTemplates

/-- A decimal number `digits * 10 ^ exponent`. -/
structure Decimal where
  /-- The digits, read as a natural number. -/
  digits : Nat
  /-- The power of ten. -/
  exponent : Int
  deriving DecidableEq

/-- How many decimal digits a natural number has. -/
def decimalLength (n : Nat) : Nat :=
  (Nat.toDigits 10 n).length

namespace Decimal

/-- The same number without trailing zeros, at most `fuel` of them. -/
def trimZeros (d : Decimal) : Nat → Decimal
  | 0 => d
  | fuel + 1 =>
    if d.digits ≠ 0 ∧ d.digits % 10 = 0 then trimZeros ⟨d.digits / 10, d.exponent + 1⟩ fuel else d

end Decimal

namespace Binary64

/-- The largest `k` with `10 ^ k ≤ m * 2 ^ e`, for a positive `m` and an exponent of the format. -/
def floorLog10 (m : Nat) (e : Int) : Int :=
  (decimalLength (m * Nat.pow 10 400 * Nat.pow 2 e.toNat / Nat.pow 2 (-e).toNat) : Int) - 1 - 400

/-- The better of the two neighbours of `m * 2 ^ e` on the grid of the multiples of `10 ^ p`, if
one of them rounds to it. Bounds are in quarters of the last place, so that the halves of the
gaps on both sides are whole; below a power of two the gap is half as wide. -/
def neighbour? (m : Nat) (e p : Int) : Option Decimal :=
  let grid := Nat.pow 10 p.toNat * Nat.pow 2 (2 - e).toNat
  let place := Nat.pow 10 (-p).toNat * Nat.pow 2 (e - 2).toNat
  let low := (4 * m - (if m = Nat.pow 2 52 ∧ -1074 < e then 1 else 2)) * place
  let high := (4 * m + 2) * place
  let value := 4 * m * place
  let rounds (c : Nat) : Bool :=
    if m % 2 = 0 then low ≤ c * grid && c * grid ≤ high else low < c * grid && c * grid < high
  let c := value / grid
  match rounds c, rounds (c + 1) with
  | false, false => none
  | true, false => some ⟨c, p⟩
  | false, true => some ⟨c + 1, p⟩
  | true, true =>
    let below := value - c * grid
    let above := (c + 1) * grid - value
    if below < above || (below == above && c % 2 == 0) then some ⟨c, p⟩ else some ⟨c + 1, p⟩

/-- The first hit on ever finer grids, starting with that of the multiples of `10 ^ p`. -/
def searchGrids (m : Nat) (e p : Int) : Nat → Decimal
  | 0 => ⟨0, 0⟩
  | fuel + 1 =>
    match neighbour? m e p with
    | some d => d
    | none => searchGrids m e (p - 1) fuel

/-- The shortest decimal number that rounds to `m * 2 ^ e`. Seventeen digits always suffice. -/
def shortest (m : Nat) (e : Int) : Decimal :=
  if m = 0 then ⟨0, 0⟩
  else (searchGrids m e (floorLog10 m e) 17).trimZeros 20

/-- An exponent with its sign and at least two digits. -/
def exponentText (k : Int) : Text :=
  (if k < 0 then '-' else '+') :: Text.padLeft 2 '0' (Text.ofNat k.natAbs)

/-- The digits of a decimal number in positional notation, with at least one decimal place. -/
def positional (d : Decimal) : Text :=
  let digits := Text.ofNat d.digits
  if 0 ≤ d.exponent then digits ++ List.replicate d.exponent.toNat '0' ++ ['.', '0']
  else
    let places := (-d.exponent).toNat
    let padded := Text.padLeft (places + 1) '0' digits
    padded.take (padded.length - places) ++ '.' :: padded.drop (padded.length - places)

/-- The digits of a decimal number in exponential notation. -/
def exponential (d : Decimal) : Text :=
  let digits := Text.ofNat d.digits
  let k := d.exponent + digits.length - 1
  let fraction := digits.drop 1
  digits.take 1 ++ (if fraction = [] then [] else '.' :: fraction) ++ 'e' :: exponentText k

/-- The shortest decimal text that reads back as the number. Numbers from `10 ^ -4` up to, but
without, `10 ^ 16` are written positionally. -/
def display : Binary64 → Text
  | .nan => "nan"
  | .infinite negative => if negative then "-inf" else "inf"
  | .finite negative m e =>
    let d := shortest m e
    let k := d.exponent + decimalLength d.digits - 1
    let body := if m = 0 || (-4 ≤ k && k < 16) then positional d else exponential d
    if negative then '-' :: body else body

example : display (ofRatio false 1 10) = "0.1".toList := by decide +kernel

example : display (ofRatio false (Nat.pow 10 16) 1) = "1e+16".toList := by decide +kernel

example : display (ofRatio true 0 1) = "-0.0".toList := by decide +kernel

example : display (.finite false 1 (-1074)) = "5e-324".toList := by decide +kernel

/-! ## Given numbers of digits -/

/-- A natural number with a decimal point before its last `places` digits. -/
def pointed (places n : Nat) : Text :=
  let padded := Text.padLeft (places + 1) '0' (Text.ofNat n)
  if places = 0 then padded
  else padded.take (padded.length - places) ++ '.' :: padded.drop (padded.length - places)

/-- `m * 2 ^ e` with `places` digits after the point, a tie to the even digit. -/
def fixed (m : Nat) (e : Int) (places : Nat) : Text :=
  pointed places
    (roundHalfEven (m * Nat.pow 10 places * Nat.pow 2 e.toNat) (Nat.pow 2 (-e).toNat))

/-- `m * 2 ^ e` rounded to `places + 1` significant digits, a tie to the even digit. -/
def significant (m : Nat) (e : Int) (places : Nat) : Decimal :=
  if m = 0 then ⟨0, -places⟩
  else
    let p := floorLog10 m e - places
    let n := roundHalfEven (m * Nat.pow 2 e.toNat * Nat.pow 10 (-p).toNat)
      (Nat.pow 2 (-e).toNat * Nat.pow 10 p.toNat)
    if n = Nat.pow 10 (places + 1) then ⟨Nat.pow 10 places, p + 1⟩ else ⟨n, p⟩

end Binary64

end HttpTemplates
