import HttpTemplates.Text.Basic

/-!
# What can go wrong in a log

Why a log line cannot be written.
-/

namespace HttpTemplates

/-- Why a log line cannot be written. -/
inductive LogError where
  /-- The message asks for more arguments than there are. -/
  | missingArgument
  /-- The message does not use all its arguments. -/
  | spareArgument
  /-- The message asks for arguments by name, but they have none. -/
  | namelessArguments
  /-- No argument has this name. -/
  | missingKey (key : Text)
  /-- An argument is of the wrong kind for its place. -/
  | wrongKind
  /-- A place in the message is not complete. -/
  | incompletePlace
  /-- A place in the message asks for a conversion that does not exist. -/
  | unknownConversion (c : Char)
  /-- A width or a precision has too many digits. -/
  | tooWide
  /-- A width or a precision among the arguments is too large. -/
  | widthOutOfRange
  /-- A whole number is to have too many digits. -/
  | tooManyDigits
  /-- There is no room for so wide a column. -/
  | noRoom
  /-- What is no number cannot be a whole number. -/
  | notNumber
  /-- An infinite number cannot be a whole number. -/
  | infinite
  /-- A whole number is too large for a floating point number. -/
  | tooLargeForReal
  /-- No character has this code. -/
  | noSuchCharacter
  /-- The key of a map cannot be a name. -/
  | keyNotName
  /-- A name in a context has a meaning of its own. -/
  | reservedName (name : Text)
  /-- The year of a time does not have one to four digits. -/
  | yearOutOfRange (year : Int)
  /-- The year of a time is out of all proportion. -/
  | timeOutOfRange
  /-- A time has too many seconds. -/
  | secondsOutOfRange
  deriving DecidableEq

/-- The wording of a log error. -/
def LogError.message : LogError → Text
  | .missingArgument => "not enough arguments for format string"
  | .spareArgument => "not all arguments converted during string formatting"
  | .namelessArguments => "format requires a mapping"
  | .missingKey key => key
  | .wrongKind => "an argument is of the wrong kind"
  | .incompletePlace => "incomplete format"
  | .unknownConversion c => ("unsupported format character " : Text) ++ [c]
  | .tooWide => "width too big"
  | .widthOutOfRange => "width out of range"
  | .tooManyDigits => "precision too large"
  | .noRoom => "no room for the column"
  | .notNumber => "cannot convert float NaN to integer"
  | .infinite => "cannot convert float infinity to integer"
  | .tooLargeForReal => "int too large to convert to float"
  | .noSuchCharacter => "no character has this code"
  | .keyNotName => "a key is no name"
  | .reservedName name =>
    ("trace_io() got multiple values for argument '" : Text) ++ name ++ "'"
  | .yearOutOfRange year => ("year " : Text) ++ Text.ofInt year ++ " is out of range"
  | .timeOutOfRange => "time out of range"
  | .secondsOutOfRange => "timestamp out of range"

end HttpTemplates
