import HttpTemplates.CommandLine.Program
import Std.Time.DateTime.Timestamp

/-!
# The command line program

Reads the environment and the clock, carries out the command line, and prints what is to be
printed. There is no network here: a request that is to be sent fails. Nor is there a registry of
encodings: the charsets are those of the known codings.
-/

open HttpTemplates HttpTemplates.CommandLine

/-- The variables of the environment that mean something to the program. -/
def readEnvironment : IO Environment := do
  let found ← Environment.known.mapM fun name => do
    let text ← IO.getEnv (String.ofList name)
    pure (text.map fun t => (name, t.toList))
  pure (found.filterMap id)

/-- The time in seconds. -/
def readClock : IO Binary64 := do
  let now ← Std.Time.Timestamp.now
  pure (Log.ofMilliseconds now.toMillisecondsSinceUnixEpoch.toInt)

/-- Opens no URL. -/
def openNothing (_ : Call) : IO (Except Fault Reply) :=
  pure (.error (.failure .ordinary "OSError" "no network"))

/-- Carries out a command line. -/
def main (words : List String) : IO UInt32 := do
  let env ← readEnvironment
  let now ← readClock
  let send (s : Settings) := Transport.send openNothing s.userAgent s.insecure
  let r ← run (Settings.ofEnvironment .empty env) env.traces true send (words.map String.toList)
  match report env.debugs now r with
  | .ok report =>
    (← IO.getStderr).putStr (String.ofList report.errors)
    (← IO.getStdout).putStr (String.ofList report.output)
    pure report.status.toUInt32
  | .error f => throw (IO.userError (String.ofList f.message))
