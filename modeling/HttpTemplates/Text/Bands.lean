/-!
# Sets of code points as bands

A property of characters that holds on long runs of code points is given by the ascending list of
the code points at which it changes.
-/

namespace HttpTemplates.Text

/-- Whether `n` lies in a band: an odd number of the ascending `bounds` is at most `n`. -/
def inBands : List Nat → Nat → Bool
  | [], _ => false
  | b :: rest, n => if n < b then false else !inBands rest n

end HttpTemplates.Text
