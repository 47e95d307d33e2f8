import HttpTemplates.Client.Settings
import HttpTemplates.Client.Transport
import HttpTemplates.Log.Logger
import HttpTemplates.Request.Template

/-!
# Executing request templates

A client resolves a template, hands the request to a transport and logs what happens. A template
that cannot be resolved is not sent, and leaves nothing in the log.
-/

namespace HttpTemplates

/-- A line for the log. -/
structure LogEntry where
  /-- The level. -/
  level : Log.Level
  /-- The message. -/
  message : Log.Message
  /-- What else is known. -/
  context : List (Value × Value) := []

/-- What becomes of a request. -/
structure Conclusion where
  /-- The response, or what stood in its way. -/
  outcome : Except Fault Response
  /-- The fault of the transport behind a failure to send. -/
  cause : Option Fault := none

/-- What became of a request, and what was logged about it. -/
structure Execution extends Conclusion where
  /-- The lines for the log, in order. -/
  entries : List LogEntry

namespace Client

/-- A new request template with the settings of the client. -/
def template (s : Settings) (method uri target : Text) : Except Error RequestTemplate :=
  RequestTemplate.begin
    { charset := s.charset, decodeSlash := s.decodeSlash, format := s.format }
    method target uri

/-- Headers as a value. -/
def headersValue (headers : Fields Text) : Value :=
  .map (headers.map fun p => (.text p.1, .text p.2))

/-- The entry that traces an event, if events are traced. -/
def traceEntry (tracing : Bool) (event : Text) (context : List (Value × Value)) : List LogEntry :=
  if tracing then [⟨.debug, Log.traceMessage event context, context⟩] else []

/-- What is logged about a request. -/
def requestEntry (r : Request) : LogEntry :=
  ⟨.debug, ⟨"%s %s", [.text r.method, .text r.url]⟩, []⟩

/-- What is logged before a request is sent. -/
def entriesBefore (tracing : Bool) (r : Request) : List LogEntry :=
  requestEntry r
    :: traceEntry tracing "request"
      [(.text "url", .text r.url), (.text "headers", headersValue r.flatHeaders)]

/-- What is logged about a response. -/
def responseEntry (r : Request) (response : Response) : LogEntry :=
  ⟨.info, ⟨"%s %s -> %d", [.text r.method, .text r.url, .int response.status]⟩, []⟩

/-- What is logged after a response. -/
def entriesAfter (tracing : Bool) (r : Request) (response : Response) : List LogEntry :=
  responseEntry r response
    :: traceEntry tracing "response"
      [(.text "status", .int response.status), (.text "size", .int response.body.length)]

/-- What is logged about a fault. -/
def faultEntry (r : Request) (f : Fault) : LogEntry :=
  ⟨.error, ⟨"%s %s failed: %s", [.text r.method, .text r.url, .text f.message]⟩, []⟩

/-- The request that a template stands for. -/
def requestOf (s : Settings) (t : RequestTemplate) (vars : Option Variables) :
    Except Error Request := do
  let resolved ← t.resolve? vars
  resolved.request s.timeout

section Perform

variable {m : Type → Type} [Monad m]

/-- What a reply of the transport comes to. A fault of the library's own kinds, and one that says that
something is to stop, are passed on as they are; any other is a failure of the transport. -/
def conclude (tracing : Bool) (log : LogEntry → m PUnit) (r : Request) :
    Except Fault Response → m Conclusion
  | .ok response => do
    (entriesAfter tracing r response).forM log
    pure ⟨.ok response, none⟩
  | .error f =>
    if f.isOwn || f.isStop then pure ⟨.error f, none⟩
    else do
      log (faultEntry r f)
      pure ⟨.error (.error (.transport r.url f.message)), some f⟩

/-- Resolves a template and sends the request through `send`. The lines for the log go to `log` one by
one: first those about the request, before it is sent, and then those about the reply. -/
def perform (s : Settings) (tracing : Bool) (log : LogEntry → m PUnit)
    (send : Request → m (Except Fault Response)) (t : RequestTemplate) (vars : Option Variables) :
    m Conclusion :=
  match requestOf s t vars with
  | .error e => pure ⟨.error (.error e), none⟩
  | .ok r => do
    (entriesBefore tracing r).forM log
    let reply ← send r
    conclude tracing log r reply

/-- Adds a line to those that are kept. -/
def keepEntry (entry : LogEntry) : StateT (List LogEntry) m PUnit :=
  modify (· ++ [entry])

/-- Resolves a template, sends the request through `send`, and keeps the lines for the log. -/
def execute (s : Settings) (tracing : Bool) (send : Request → m (Except Fault Response))
    (t : RequestTemplate) (vars : Option Variables) : m Execution := do
  let (conclusion, entries) ←
    (perform s tracing keepEntry (fun r => StateT.lift (send r)) t vars).run []
  pure { conclusion with entries }

end Perform

end Client

end HttpTemplates
