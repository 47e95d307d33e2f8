import HttpTemplates.Text.Basic

/-!
# Environments

The variables that a program is started with.
-/

namespace HttpTemplates

/-- Variables and their texts. -/
abbrev Environment := List (Text × Text)

namespace Environment

/-- The text of a variable. -/
def get? (env : Environment) (name : Text) : Option Text :=
  List.lookup name env

/-- What the names of all settings begin with. -/
def lead : Text := "RESTPLATE_"

/-- The names of the variables that mean something here. -/
def known : List Text :=
  "DEBUG".toList :: [
    "CHARSET", "DECODE_SLASH", "COLLECTION_FORMAT", "USER_AGENT", "TIMEOUT", "JSON_LOGS",
    "LOG_LEVEL", "INSECURE_TLS", "TRACE_IO"].map fun n => lead ++ n.toList

/-- Whether requests and responses are traced. -/
def traces (env : Environment) : Bool :=
  env.get? (lead ++ "TRACE_IO") == some ['1']

/-- Whether an unexpected failure ends the program as it is. -/
def debugs (env : Environment) : Bool :=
  env.get? "DEBUG" == some ['1']

end Environment

end HttpTemplates
