import HttpTemplates.Number.Shortest

/-!
# Timeouts

A number of seconds, as a whole number or with a fraction.
-/

namespace HttpTemplates

/-- A number of seconds. -/
inductive Timeout where
  /-- A whole number. -/
  | whole (seconds : Int)
  /-- A number with a fraction. -/
  | real (seconds : Binary64)
  deriving DecidableEq

namespace Timeout

/-- Half a minute, the timeout that is used unless another is asked for. -/
def standard : Timeout :=
  .real (.ofInt 30)

/-- Whether a timeout is zero or negative. -/
def isNotPositive : Timeout → Bool
  | .whole n => n ≤ 0
  | .real x => x.isNotPositive

/-- The timeout in digits. -/
def text : Timeout → Text
  | .whole n => Text.ofInt n
  | .real x => x.display

example : standard.text = "30.0".toList := by decide +kernel

end Timeout

end HttpTemplates
