import HttpTemplates.Text.Basic

/-!
# Log levels

How much a log line matters, as a number. Some numbers have names, and two of them have a second
one.
-/

namespace HttpTemplates.Log

/-- How much a log line matters. -/
structure Level where
  /-- The higher, the more. -/
  number : Int
  deriving DecidableEq

namespace Level

/-- Details for those who look for an error. -/
def debug : Level := ⟨10⟩

/-- What goes on. -/
def info : Level := ⟨20⟩

/-- What may turn out to be wrong. -/
def warning : Level := ⟨30⟩

/-- What went wrong. -/
def error : Level := ⟨40⟩

/-- What ends the program. -/
def critical : Level := ⟨50⟩

/-- The level of a logger that leaves the choice to others. -/
def notSet : Level := ⟨0⟩

/-- The levels with a name. The first name of a level is the one it is written with. -/
def names : List (String × Level) := [
  ("CRITICAL", critical),
  ("FATAL", critical),
  ("ERROR", error),
  ("WARNING", warning),
  ("WARN", warning),
  ("INFO", info),
  ("DEBUG", debug),
  ("NOTSET", notSet)]

/-- The name of a level; a level without one is named by its number. -/
def name (l : Level) : Text :=
  match names.find? fun p => p.2 = l with
  | some (n, _) => n
  | none => ("Level " : Text) ++ Text.ofInt l.number

/-- The level with this name. -/
def ofName? (n : Text) : Option Level :=
  (names.find? fun p => p.1.toList == n).map (·.2)

example : ofName? "WARN" = some warning ∧ warning.name = "WARNING".toList := by decide +kernel

example : (Level.mk 15).name = "Level 15".toList := by decide +kernel

end Level

end HttpTemplates.Log
