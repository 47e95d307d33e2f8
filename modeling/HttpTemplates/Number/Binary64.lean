/-!
# Binary floating point numbers

The binary64 format as exact arithmetic: a finite number is a sign, a mantissa and a power of two.
`Binary64.ofRatio` rounds a quotient of natural numbers to the nearest such number, a tie to the
even mantissa; everything else is computed on the exact values.
-/

namespace HttpTemplates

/-- A number of the binary64 format. A finite one is `mantissa * 2 ^ exponent` with its sign;
`Binary64.ofRatio` produces mantissas below `2 ^ 53` and exponents from `-1074` on. -/
inductive Binary64 where
  /-- The result of an undefined operation. -/
  | nan
  /-- A number too large for the format. -/
  | infinite (negative : Bool)
  /-- A number with a value. -/
  | finite (negative : Bool) (mantissa : Nat) (exponent : Int)
  deriving DecidableEq

/-- The quotient of two natural numbers rounded to a natural number, a tie to the even one. -/
def roundHalfEven (num den : Nat) : Nat :=
  let q := num / den
  let r := num % den
  if 2 * r < den then q
  else if den < 2 * r then q + 1
  else if q % 2 = 0 then q
  else q + 1

namespace Binary64

/-- The largest `k` with `2 ^ k ≤ num / den`, for positive `num` and `den`. -/
def floorLog2 (num den : Nat) : Int :=
  let k : Int := (num.log2 : Int) - (den.log2 : Int)
  if den * Nat.pow 2 k.toNat ≤ num * Nat.pow 2 (-k).toNat then k else k - 1

/-- The number nearest to `num / den`, with the given sign. -/
def ofRatio (negative : Bool) (num den : Nat) : Binary64 :=
  if num = 0 then .finite negative 0 (-1074)
  else
    let e := max (floorLog2 num den - 52) (-1074)
    let m := roundHalfEven (num * Nat.pow 2 (-e).toNat) (den * Nat.pow 2 e.toNat)
    let (m, e) := if m = Nat.pow 2 53 then (Nat.pow 2 52, e + 1) else (m, e)
    if 971 < e then .infinite negative else .finite negative m e

/-- The number nearest to an integer. -/
def ofInt (n : Int) : Binary64 :=
  ofRatio (n < 0) n.natAbs 1

/-- The exact value of a finite number as a signed numerator over a power of two. -/
def ratio? : Binary64 → Option (Int × Nat)
  | .finite negative m e =>
    let n : Int := m * Nat.pow 2 e.toNat
    some (if negative then -n else n, Nat.pow 2 (-e).toNat)
  | _ => none

/-- Whether two numbers have the same value. Zeros are equal whatever their signs, and what is no
number equals nothing. -/
def sameValue : Binary64 → Binary64 → Bool
  | .infinite s, .infinite t => s == t
  | x, y =>
    match x.ratio?, y.ratio? with
    | some (a, b), some (c, d) => a * d == c * b
    | _, _ => false

/-- Whether a number has the value of an integer. -/
def sameInt (x : Binary64) (n : Int) : Bool :=
  match x.ratio? with
  | some (a, b) => a == n * b
  | none => false

/-- Whether a number is greater than zero. -/
def isPositive : Binary64 → Bool
  | .nan => false
  | .infinite negative => !negative
  | .finite negative m _ => !negative && m != 0

/-- Whether a number is not greater than zero. What is no number at all is neither. -/
def isNotPositive : Binary64 → Bool
  | .nan => false
  | x => !x.isPositive

/-- The integer part, the rest cut off. -/
def truncate? (x : Binary64) : Option Int :=
  x.ratio?.map fun (n, d) => n.tdiv d

example : ofRatio false 1 10 = .finite false 0x1999999999999A (-56) := by decide +kernel

example : ofRatio false (Nat.pow 2 1024) 1 = .infinite false := by decide +kernel

end Binary64

end HttpTemplates
