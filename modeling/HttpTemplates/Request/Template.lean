import HttpTemplates.Request.Basic
import HttpTemplates.Template.Body
import HttpTemplates.Template.Header
import HttpTemplates.Template.Query
import HttpTemplates.Template.Uri

/-!
# Request templates

A request in the making: URI, query, header and body templates together with the settings they are
created with. Every `with` function gives a new template. `RequestTemplate.resolve` fills in the
variables, and `RequestTemplate.request` takes the request out of a resolved template.
-/

namespace HttpTemplates

/-- The URL and the headers of a resolved template. -/
structure Resolution where
  /-- The whole URL. -/
  url : Text
  /-- The values of each header that has any. -/
  headers : Fields (List Text)
  deriving DecidableEq

/-- A template of a request. -/
structure RequestTemplate where
  /-- The charset of encoded characters and of the body. -/
  charset : Charset := .utf8
  /-- How several values of a query parameter are written, if that was chosen. -/
  format : Option CollectionFormat := some .exploded
  /-- Whether slashes in values stay as they are, if that was chosen. -/
  decodeSlash : Option Bool := some true
  /-- The method. -/
  method : Text := "GET"
  /-- The absolute URL in front of the path, perhaps empty. -/
  target : Text := []
  /-- The template of the path. -/
  uri : UriTemplate := .empty .utf8 false
  /-- The query parameters in order. -/
  queries : List QueryTemplate := []
  /-- The headers in order. -/
  headers : List HeaderTemplate := []
  /-- The body. -/
  body : Option Bytes := none
  /-- The template of the body. -/
  bodyTemplate : Option BodyTemplate := none
  /-- What the variables were last resolved to. -/
  resolution : Option Resolution := none

namespace RequestTemplate

/-- Whether slashes in values stay as they are; they do only if that was chosen. -/
def keepsSlashes (t : RequestTemplate) : Bool :=
  t.decodeSlash.getD false

/-! ## Queries and headers -/

/-- Adds values to the parameter of this name in a list. Without values the parameter is removed;
a parameter that is not there yet comes last. -/
def addQuery (t : RequestTemplate) (name : Text) (values : List (Option Text)) :
    List QueryTemplate → Except Error (List QueryTemplate × Bool)
  | [] => .ok ([], false)
  | q :: rest => do
    let found := q.name.source = name
    let head ← if found then q.append values t.format t.keepsSlashes else .ok q
    let (tail, more) ← addQuery t name values rest
    .ok (head :: tail, found || more)

/-- Adds values to the query parameter of this name, and declares it if it is new. Without values
the parameter is removed. -/
def withQuery (t : RequestTemplate) (name : Text) (values : List (Option Text)) :
    Except Error RequestTemplate :=
  if name = [] then .error (.request .missingQueryName)
  else if values = [] then
    .ok { t with queries := t.queries.filter fun q => q.name.source ≠ name }
  else do
    let (queries, found) ← t.addQuery name values t.queries
    if found then .ok { t with queries }
    else do
      let q ← QueryTemplate.create name values t.charset (t.format.getD .exploded) t.keepsSlashes
      .ok { t with queries := queries ++ [q] }

/-- Whether a header has this name in any letter case. -/
def isNamed (name : Text) (h : HeaderTemplate) : Bool :=
  Text.lower h.name == Text.lower name

/-- Adds values to the header of this name in a list. The flag says whether it was there. -/
def addHeader (name : Text) (values : List (Option Text)) :
    List HeaderTemplate → Except Error (List HeaderTemplate × Bool)
  | [] => .ok ([], false)
  | h :: rest => do
    let found := isNamed name h
    let head ← if found then h.append values else .ok h
    let (tail, more) ← addHeader name values rest
    .ok (head :: tail, found || more)

/-- Adds values to the header of this name in any letter case, and declares it if it is new.
Without values the header is removed. -/
def withHeader (t : RequestTemplate) (name : Text) (values : List (Option Text)) :
    Except Error RequestTemplate :=
  if name = [] then .error (.request .missingHeaderName)
  else if values = [] then .ok { t with headers := t.headers.filter fun h => !isNamed name h }
  else do
    let (headers, found) ← addHeader name values t.headers
    if found then .ok { t with headers }
    else do
      let h ← HeaderTemplate.create name values t.charset
      .ok { t with headers := headers ++ [h] }

/-! ## Query lines -/

/-- The name and the value of a part of a query string; a part without a name is skipped, and an
empty value is none. -/
def queryPair? (part : Text) : Option (Text × Option Text) :=
  let (name, value) := Text.cut '=' part
  if name = [] then none else some (name, value.bind fun v => if v = [] then none else some v)

/-- The names and values in a query string. -/
def queryPairs (line : Text) : List (Text × Option Text) :=
  (Text.pieces '&' line).filterMap queryPair?

/-- Adds one value each to query parameters. -/
def withQueryPairs (t : RequestTemplate) : List (Text × Option Text) → Except Error RequestTemplate
  | [] => .ok t
  | (name, value) :: rest => do
    let t ← t.withQuery name [value]
    t.withQueryPairs rest

/-- Adds the parameters of a query string. -/
def withQueryLine (t : RequestTemplate) (line : Text) : Except Error RequestTemplate :=
  t.withQueryPairs (queryPairs line)

/-! ## Method, target and path -/

/-- Sets the method, in upper case. -/
def withMethod (t : RequestTemplate) (method : Text) : Except Error RequestTemplate :=
  if Text.trim method = [] then .error (.request .missingMethod)
  else .ok { t with method := Text.upper (Text.trim method) }

/-- Sets the absolute URL in front of the path. A query string in it is taken apart into query
parameters, and slashes at its end are dropped. -/
def withTarget (t : RequestTemplate) (target : Text) : Except Error RequestTemplate :=
  if target = [] then .ok { t with target := [] }
  else if !Percent.isAbsolute target then .error (.request (.relativeTarget target))
  else
    let (base, line) := Text.cut '?' target
    let t := { t with target := Text.dropEnd (· = '/') base }
    match line with
    | some line => t.withQueryLine line
    | none => .ok t

/-- Whether a text begins like a path: with a slash, an expression, a query string or
parameters. -/
def beginsPath : Text → Bool
  | c :: _ => c = '/' || c = Token.openBrace || c = '?' || c = ';'
  | [] => true

/-- A URI template cut at the question mark that divides it. -/
def splitQuery (uri : Text) : Except Error (Text × Text) := do
  match ← UriTemplate.queryDelimiter? uri with
  | some i => .ok (uri.take i, uri.drop (i + 1))
  | none => .ok (uri, [])

/-- Sets the path, or adds to it. A query string is taken apart into query parameters. -/
def withUri (t : RequestTemplate) (uri : Text) (append : Bool := false) :
    Except Error RequestTemplate :=
  if Percent.isAbsolute uri then .error (.request .absoluteUri)
  else do
    let (path, line) ← splitQuery uri
    let path :=
      if append then t.uri.toText ++ path else if beginsPath path then path else '/' :: path
    let template ← UriTemplate.create path t.charset (!t.keepsSlashes)
    let t := { t with uri := template }
    if line = [] then .ok t else t.withQueryLine line

/-! ## Body and settings -/

/-- Sets the body to a byte string. -/
def withBody (t : RequestTemplate) (body : Option Bytes) : RequestTemplate :=
  { t with body, bodyTemplate := none }

/-- Sets the body to a text in the charset of the template. -/
def withTextBody (t : RequestTemplate) (body : Text) : Except Error RequestTemplate := do
  let bytes ← t.charset.encode body
  .ok (t.withBody (some bytes))

/-- Sets the body to a template. -/
def withBodyTemplate (t : RequestTemplate) (body : Option Text) : Except Error RequestTemplate := do
  let b ← BodyTemplate.create? body t.charset
  .ok { t with body := none, bodyTemplate := some b }

/-- Sets the format of the query parameters that are added from now on. -/
def withFormat (t : RequestTemplate) (format : Option CollectionFormat) : RequestTemplate :=
  { t with format }

/-- The parameters of a list with another slash setting. -/
def recreateQueries (keepSlashes : Bool) :
    List QueryTemplate → Except Error (List QueryTemplate)
  | [] => .ok []
  | q :: rest => do
    let head ←
      QueryTemplate.create q.name.source (q.valueTexts.map some) q.charset q.format keepSlashes
    let tail ← recreateQueries keepSlashes rest
    .ok (head :: tail)

/-- Chooses whether slashes in values stay as they are, in the path and in all query parameters. -/
def withDecodeSlash (t : RequestTemplate) (decodeSlash : Option Bool) :
    Except Error RequestTemplate := do
  let t := { t with decodeSlash }
  let uri ← UriTemplate.create t.uri.toText t.charset (!t.keepsSlashes)
  let queries ← recreateQueries t.keepsSlashes t.queries
  .ok { t with uri, queries }

/-! ## Views -/

/-- Whether the variables have been filled in. -/
def isResolved (t : RequestTemplate) : Bool :=
  t.resolution.isSome

/-- The names of the variables in the path, the queries, the headers and the body, each at its
first occurrence. -/
def variableNames (t : RequestTemplate) : List Text :=
  HeaderTemplate.distinct
    (t.uri.variableNames ++ t.queries.flatMap (·.variableNames)
      ++ t.headers.flatMap (·.variableNames)
      ++ ((t.bodyTemplate.map (·.variableNames)).getD []))

/-- The values of the header of this name in any letter case. -/
def headerValues (t : RequestTemplate) (name : Text) : List Text :=
  ((t.headers.find? (isNamed name)).map (·.values)).getD []

/-- The query string before the variables are filled in. -/
def queryLine (t : RequestTemplate) : Text :=
  ['&'].intercalate (t.queries.map (·.toText))

/-- A URL with a query string behind it, if that is not empty. -/
def joinUrl (base line : Text) : Text :=
  if line = [] then base else base ++ (if base.contains '?' then '&' else '?') :: line

/-- The URL, with the variables filled in if the template is resolved. -/
def url (t : RequestTemplate) : Text :=
  match t.resolution with
  | some r => r.url
  | none => joinUrl (t.target ++ t.uri.toText) t.queryLine

/-! ## Resolution -/

/-- What the parameters of a list expand to; those with nothing to send are left out. -/
def expandQueries (vars : Variables) : List QueryTemplate → Except Error (List Text)
  | [] => .ok []
  | q :: rest => do
    let head ← q.expand vars
    let tail ← expandQueries vars rest
    let text := head.getD []
    .ok (if text = [] then tail else text :: tail)

/-- The value of a header with the variables filled in. -/
def expandHeader (vars : Variables) (h : HeaderTemplate) : Except Error Text := do
  let expanded ← h.expand vars
  .ok (Text.trim ((expanded.getD []).drop (h.name.length + 1)))

/-- What the headers of a list expand to; those without a value are left out. -/
def expandHeaders (vars : Variables) :
    List HeaderTemplate → Except Error (List (Text × List Text))
  | [] => .ok []
  | h :: rest => do
    let value ← expandHeader vars h
    let tail ← expandHeaders vars rest
    .ok (if value = [] then tail else (h.name, [value]) :: tail)

/-- The body with the variables filled in. -/
def expandBody (t : RequestTemplate) (vars : Variables) : Except Error (Option Bytes) :=
  match t.bodyTemplate with
  | none => .ok t.body
  | some b => do
    let expanded ← b.expand vars
    (t.charset.encode (expanded.getD [])).map some

/-- Fills in the variables. -/
def resolve (t : RequestTemplate) (vars : Variables) : Except Error RequestTemplate := do
  let path ← t.uri.expand vars
  let parameters ← expandQueries vars t.queries
  let headers ← expandHeaders vars t.headers
  let body ← t.expandBody vars
  let url := joinUrl (t.target ++ path.getD []) (['&'].intercalate parameters)
  .ok { t with resolution := some ⟨url, headers⟩, body }

/-- Fills in variables that may be missing. -/
def resolve? (t : RequestTemplate) (vars : Option Variables) : Except Error RequestTemplate :=
  match vars with
  | some vars => t.resolve vars
  | none => .error (.request .missingVariables)

/-- The request of a resolved template. -/
def request (t : RequestTemplate) (timeout : Option Timeout := none) : Except Error Request :=
  match t.resolution with
  | some r => .ok ⟨t.method, r.url, .ofList r.headers, t.body, t.charset, timeout⟩
  | none => .error (.request .unresolved)

/-! ## Building at once -/

/-- Adds the values of several headers. -/
def withHeaders (t : RequestTemplate) :
    Fields (List (Option Text)) → Except Error RequestTemplate
  | [] => .ok t
  | (name, values) :: rest => do
    let t ← t.withHeader name values
    t.withHeaders rest

/-- The template with a method, a target and a path. -/
def begin (t : RequestTemplate) (method target uri : Text) : Except Error RequestTemplate := do
  let t ← t.withMethod method
  let t ← t.withTarget target
  t.withUri uri

/-- The template with a method, a target, a path, headers and perhaps a body. -/
def build (t : RequestTemplate) (method target uri : Text)
    (headers : Fields (List (Option Text))) (body : Option Text) :
    Except Error RequestTemplate := do
  let t ← t.begin method target uri
  let t ← t.withHeaders headers
  match body with
  | some body => t.withBodyTemplate (some body)
  | none => .ok t

end RequestTemplate

end HttpTemplates
