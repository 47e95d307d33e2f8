import HttpTemplates.Client.Authority
import HttpTemplates.Error

/-!
# Faults

What may stop the exchange of a request and a response: a failure of the library, a URL or a
timeout that no transport takes, a fault from somewhere else, or the user. Of a fault from somewhere
else it matters whether it is of a kind of the library's own, a wish to stop, or any other failure
(`Fault.Nature`), which is a matter of its kind and not of the name that its kind has.
-/

namespace HttpTemplates

/-- What a fault means that something outside the library raises. -/
inductive Fault.Nature where
  /-- It is of a kind of the library's own: an extension reports it. -/
  | own
  /-- It is no failure, but says that something is to stop. -/
  | stop
  /-- It is a failure of some other kind. -/
  | ordinary
  deriving DecidableEq

/-- What stops an exchange. -/
inductive Fault where
  /-- A failure of the library. -/
  | error (e : Error)
  /-- A URL without a scheme. -/
  | missingScheme (url : Text)
  /-- A URL whose authority is refused. -/
  | authority (e : AuthorityError)
  /-- A timeout that is no floating point number. -/
  | timeoutTooLarge
  /-- A response without a status code. -/
  | missingStatus
  /-- A fault that something outside the library raises, with the name of its kind. -/
  | failure (nature : Fault.Nature) (kind message : Text)
  /-- The user wants no more of it. -/
  | interrupt
  deriving DecidableEq

/-- Whether an error is of a kind of the library's own: the failures of templates, of requests and of
command lines, and failures to send that are reported already. The others are kinds of what the
library is built on. -/
def Error.isOwn : Error → Bool
  | .template _ | .request _ | .transport _ _ => true
  | .usage .separatorBinding | .usage .separatorHeader | .usage .separatorBody => false
  | .usage _ => true
  | .charset _ | .pattern _ | .crossedGroup | .input _ => false

namespace Fault

/-- The wording of a fault. -/
def message : Fault → Text
  | .error e => e.message
  | .missingScheme url => ("unknown url type: " : Text) ++ Text.quoted url
  | .authority e => e.message
  | .timeoutTooLarge => "int too large to convert to float"
  | .missingStatus =>
    ("int() argument must be a string, a bytes-like object or a real number, not " : Text)
      ++ "'NoneType'"
  | .failure _ _ message => message
  | .interrupt => []

/-- Whether a fault is of a kind of the library's own. -/
def isOwn : Fault → Bool
  | .error e => e.isOwn
  | .failure nature _ _ => nature = .own
  | _ => false

/-- Whether a fault is no failure, but says that something is to stop. -/
def isStop : Fault → Bool
  | .interrupt => true
  | .failure nature _ _ => nature = .stop
  | _ => false

end Fault

end HttpTemplates
