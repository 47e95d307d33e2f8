import HttpTemplates.Log.Error
import HttpTemplates.Number.Binary64

/-!
# Points in time

A point in time is a number of seconds since the beginning of 1970, as a floating point number. It
is rounded to microseconds and written as a date and a time of day to the millisecond.
-/

namespace HttpTemplates.Log

/-- A day of the calendar. -/
structure Date where
  /-- The year. -/
  year : Int
  /-- The month, from 1 on. -/
  month : Nat
  /-- The day of the month, from 1 on. -/
  day : Nat
  deriving DecidableEq

namespace Date

/-- The date that lies `days` days after the first day of 1970. Years are counted from March on,
so that a leap day is the last day of its year, and in eras of 400 years. -/
def ofDays (days : Int) : Date :=
  let shifted := days + 719468
  let era := Int.fdiv shifted 146097
  let dayOfEra := (Int.fmod shifted 146097).toNat
  let yearOfEra := (dayOfEra - dayOfEra / 1460 + dayOfEra / 36524 - dayOfEra / 146096) / 365
  let dayOfYear := dayOfEra - (365 * yearOfEra + yearOfEra / 4 - yearOfEra / 100)
  let shiftedMonth := (5 * dayOfYear + 2) / 153
  let day := dayOfYear - (153 * shiftedMonth + 2) / 5 + 1
  let month := if shiftedMonth < 10 then shiftedMonth + 3 else shiftedMonth - 9
  ⟨yearOfEra + era * 400 + (if month ≤ 2 then 1 else 0), month, day⟩

/-- The date in digits. -/
def text (d : Date) : Text :=
  Text.padLeft 4 '0' (Text.ofInt d.year) ++ '-' :: Text.padLeft 2 '0' (Text.ofNat d.month)
    ++ '-' :: Text.padLeft 2 '0' (Text.ofNat d.day)

example : (ofDays 0).text = "1970-01-01".toList := by decide +kernel

example : (ofDays 11016).text = "2000-02-29".toList := by decide +kernel

end Date

/-- The microseconds in a number of seconds. The fraction is scaled in floating point and then
rounded, a tie to the even number. -/
def microseconds? (seconds : Binary64) : Option Int := do
  let (n, d) ← seconds.ratio?
  let whole := n.tdiv d
  let rest := n.tmod d
  let (a, b) ← (Binary64.ofRatio (rest < 0) (rest.natAbs * 1000000) d).ratio?
  let fraction : Int := roundHalfEven a.natAbs b
  some (whole * 1000000 + (if a < 0 then -fraction else fraction))

/-- The number of milliseconds of a whole day. -/
def dayLength : Int := 86400000

/-- The time of day in digits, where `ms` counts the milliseconds since midnight. -/
def timeText (ms : Nat) : Text :=
  let two (n : Nat) : Text := Text.padLeft 2 '0' (Text.ofNat n)
  two (ms / 3600000) ++ ':' :: two (ms / 60000 % 60) ++ ':' :: two (ms / 1000 % 60)
    ++ '.' :: Text.padLeft 3 '0' (Text.ofNat (ms % 1000))

/-- Seconds beyond this number, in either direction, are not counted. -/
def secondsLimit : Int := Nat.pow 2 63

/-- Years from here on are not counted. -/
def yearLimit : Int := Nat.pow 2 31 + 1900

/-- A point in time in digits. -/
def timestamp (seconds : Binary64) : Except LogError Text :=
  match microseconds? seconds with
  | none => .error .secondsOutOfRange
  | some us =>
    let ms := Int.fdiv us 1000
    let date := Date.ofDays (Int.fdiv ms dayLength)
    if secondsLimit < us / 1000000 || us / 1000000 < -secondsLimit then .error .secondsOutOfRange
    else if yearLimit ≤ date.year || date.year < 3800 - yearLimit then .error .timeOutOfRange
    else if date.year < 1 || 9999 < date.year then .error (.yearOutOfRange date.year)
    else .ok (date.text ++ 'T' :: timeText (Int.fmod ms dayLength).toNat ++ ['Z'])

/-- A number of milliseconds in seconds. -/
def ofMilliseconds (ms : Int) : Binary64 :=
  .ofRatio (ms < 0) ms.natAbs 1000

example : (timestamp (ofMilliseconds 981173106789)).toOption
    = some "2001-02-03T04:05:06.789Z".toList := by decide +kernel

end HttpTemplates.Log
