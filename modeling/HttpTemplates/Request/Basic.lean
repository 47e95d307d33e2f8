import HttpTemplates.Charset.Basic
import HttpTemplates.Request.Fields
import HttpTemplates.Request.Timeout

/-!
# Requests and responses

What goes over a transport and what comes back.
-/

namespace HttpTemplates

/-- A request that is ready to be sent. -/
structure Request where
  /-- The method. -/
  method : Text
  /-- The whole URL. -/
  url : Text
  /-- The values of each header. -/
  headers : Fields (List Text) := []
  /-- The body. -/
  body : Option Bytes := none
  /-- The charset of the body and of the texts in the URL. -/
  charset : Charset := .utf8
  /-- How long to wait for the response. -/
  timeout : Option Timeout := none

namespace Request

/-- The values of a header, whatever the letter case of its name. -/
def header (r : Request) (name : Text) : List Text :=
  (r.headers.lookup? name).getD []

/-- The values of a header as one text. -/
def foldValues (values : List Text) : Text :=
  [',', ' '].intercalate values

/-- One text for each header. -/
def flatHeaders (r : Request) : Fields Text :=
  r.headers.map fun p => (p.1, foldValues p.2)

end Request

/-- What came back for a request. -/
structure Response where
  /-- The status code. -/
  status : Int
  /-- The headers. -/
  headers : Fields Text
  /-- The body. -/
  body : Bytes
  /-- The URL that answered. -/
  url : Text
  /-- The request it is the answer to. -/
  request : Option Request := none

namespace Response

/-- Whether the status code reports success. -/
def isOk (r : Response) : Bool :=
  200 ≤ r.status && r.status < 300

/-- The charset of the request. -/
def charset (r : Response) : Charset :=
  (r.request.map (·.charset)).getD .utf8

/-- The body as text in a charset or, without one that has a name, in that of the request. There is a
replacement character for each ill-formed stretch. -/
def text (r : Response) (charset : Charset := { name := none }) : Except Error Text :=
  Charset.decodeLossy (if charset.name.getD [] = [] then r.charset else charset) r.body

end Response

end HttpTemplates
