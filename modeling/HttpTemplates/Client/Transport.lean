import HttpTemplates.Client.Fault
import HttpTemplates.Number.Numeral
import HttpTemplates.Request.Basic
import HttpTemplates.Text.Blank

/-!
# Transports

How a request is handed to something that opens URLs, and how its reply becomes a response.
`Transport.call` prepares the call, and `Transport.send` makes it.
-/

namespace HttpTemplates

/-- What a URL is opened with. -/
structure Call where
  /-- The URL. -/
  url : Text
  /-- The method. -/
  method : Text
  /-- The body. -/
  body : Option Bytes
  /-- The headers, with capitalized names. -/
  headers : Fields Text
  /-- How many seconds to wait. -/
  timeout : Binary64
  /-- The certificate of the server is not checked. -/
  unchecked : Bool
  deriving DecidableEq

/-- A status code as a server sends it. -/
inductive StatusCode where
  /-- As a number. -/
  | number (n : Int)
  /-- In digits. -/
  | digits (t : Text)
  deriving DecidableEq

/-- What opening a URL gives. -/
inductive Reply where
  /-- An answer. If its status is missing or zero, the code counts. -/
  | answer (status : Option Int) (code : Option StatusCode) (headers : Fields Text)
      (body : Bytes) (url : Text)
  /-- An answer that reports a failure. -/
  | refusal (status : Int) (headers : Fields Text) (body : Bytes) (url : Text)
  deriving DecidableEq

namespace Transport

/-! ## URLs -/

/-- A URL without the white space, the angle brackets and the `URL:` around it. -/
def unwrapUrl (url : Text) : Text :=
  let url := Text.trim url
  let url :=
    if url.head? == some '<' && url.getLast? == some '>' then Text.trim (url.drop 1).dropLast
    else url
  if Text.startsWith url "URL:" then Text.trim (url.drop 4) else url

/-- A URL without a number sign at its end, behind which there is nothing. -/
def dropEmptyFragment (url : Text) : Text :=
  if url.getLast? == some '#' then url.dropLast else url

/-- The URL in front of the last number sign. -/
def withoutFragment (url : Text) : Text :=
  match (Text.cut '#' url.reverse).2 with
  | some front => front.reverse
  | none => url

/-- Whether a URL begins with a scheme: with a colon behind one or more other characters, none of
which is a slash. -/
def hasScheme (url : Text) : Bool :=
  let scheme := url.takeWhile fun c => c ≠ '/' && c ≠ ':'
  scheme ≠ [] && (url.drop scheme.length).head? == some ':'

/-- Whether a URL asks for a secure connection. -/
def isSecure (url : Text) : Bool :=
  Text.startsWith (Text.lower url) "https"

/-! ## Calls -/

/-- The headers of a request, with a user agent if the request names none. -/
def headersOf (userAgent : Text) (r : Request) : Fields Text :=
  if userAgent ≠ [] && (r.header "User-Agent") = [] then
    r.flatHeaders.insert "User-Agent" userAgent
  else r.flatHeaders

/-- The headers with capitalized names; where two become the same, the later one counts. -/
def capitalizeNames (headers : Fields Text) : Fields Text :=
  .ofList (headers.map fun p => (Text.capitalize p.1, p.2))

/-- The timeout of a request as a floating point number. -/
def timeoutOf (t : Option Timeout) : Except Fault Binary64 :=
  match t.getD .standard with
  | .real x => .ok x
  | .whole n =>
    match Binary64.ofInt n with
    | .infinite _ => .error .timeoutTooLarge
    | x => .ok x

/-- The call that sends a request. -/
def call (userAgent : Text) (insecure : Bool) (r : Request) : Except Fault Call :=
  let url := dropEmptyFragment (unwrapUrl r.url)
  if !hasScheme (withoutFragment (unwrapUrl r.url)) then .error (.missingScheme url)
  else do
    (Authority.check (Authority.ofUrl url)).mapError .authority
    let timeout ← timeoutOf r.timeout
    .ok {
      url
      method := if r.method = [] then "GET" else r.method
      body := r.body
      headers := capitalizeNames (headersOf userAgent r)
      timeout
      unchecked := insecure && isSecure r.url }

/-! ## Replies -/

/-- The status code of an answer. -/
def statusOf (status : Option Int) (code : Option StatusCode) : Except Fault Int :=
  match status.filter (· ≠ 0), code with
  | some n, _ => .ok n
  | none, some (.number n) => .ok n
  | none, some (.digits t) =>
    match Numeral.int t with
    | .ok n => .ok n
    | .error .malformed => .error (.error (.input (.notStatus t)))
    | .error (.tooLong digits) => .error (.error (.input (.longStatus digits)))
  | none, none => .error .missingStatus

/-- The response that a reply stands for. -/
def response (r : Request) : Reply → Except Fault Response
  | .answer status code headers body url => do
    let status ← statusOf status code
    .ok { status, headers, body, url, request := some r }
  | .refusal status headers body url =>
    .ok { status, headers, body, url := if url = [] then r.url else url, request := some r }

/-- Sends a request through `opener`. -/
def send {m : Type → Type} [Monad m] (opener : Call → m (Except Fault Reply))
    (userAgent : Text) (insecure : Bool) (r : Request) : m (Except Fault Response) :=
  match call userAgent insecure r with
  | .error e => pure (.error e)
  | .ok c => do
    match ← opener c with
    | .error e => pure (.error e)
    | .ok reply => pure (response r reply)

end Transport

end HttpTemplates
