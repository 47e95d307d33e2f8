import HttpTemplates.Client.Execution
import HttpTemplates.Proofs.Log.Message
import HttpTemplates.Proofs.Request.Resolution

/-!
# What clients do

A client that is given one job after another, over any transport, while nothing is traced. `Executes`
says what comes of a job: how it ends, what is logged, and in which order the lines and the exchange
with the transport follow each other. Every run of a client is made of such steps
(`exists_executesAll`). So the transport gets the requests of the jobs that can be resolved, each of
them once and in their order (`ExecutesAll.requests_eq`).
-/

namespace HttpTemplates.Client

/-- What a client is asked to do: to send what a template stands for. -/
structure Job where
  /-- The template. -/
  template : RequestTemplate
  /-- The variables to resolve it with. -/
  vars : Option Variables

/-- What can be seen of a client from outside. -/
inductive Event where
  /-- It logs a line. -/
  | line (entry : LogEntry)
  /-- It gives its transport a request, and the transport replies. -/
  | exchange (r : Request) (reply : Except Fault Response)

/-- The request that an event gives to the transport. -/
def Event.request? : Event → Option Request
  | .line _ => none
  | .exchange r _ => some r

/-! ### What may come of a job -/

/-- A line has this level and reads like this, and nothing else is known. -/
structure Reads (entry : LogEntry) (level : Log.Level) (text : Text) : Prop where
  level_eq : entry.level = level
  render_eq : entry.message.render = .ok text
  context_eq : entry.context = []

/-- What may come of the reply to a request, and the lines that are logged about it. -/
inductive Concludes (r : Request) :
    Except Fault Response → Conclusion → List LogEntry → Prop
  /-- A response is returned. -/
  | answered {response : Response} {entry : LogEntry}
      (hentry : Reads entry .info
        (r.method ++ ' ' :: r.url ++ " -> " ++ Text.ofInt response.status)) :
      Concludes r (.ok response) ⟨.ok response, none⟩ [entry]
  /-- An error of the library and a wish to stop are passed on as they are. -/
  | passed {f : Fault} (hf : f.isOwn = true ∨ f.isStop = true) :
      Concludes r (.error f) ⟨.error f, none⟩ []
  /-- Any other fault becomes an error of the library that names it as its cause. -/
  | wrapped {f : Fault} {entry : LogEntry} (hown : f.isOwn = false) (hstop : f.isStop = false)
      (hentry : Reads entry .error (r.method ++ ' ' :: r.url ++ " failed: " ++ f.message)) :
      Concludes r (.error f) ⟨.error (.error (.transport r.url f.message)), some f⟩ [entry]

section Runs

variable {σ : Type} (s : Settings) (transport : Request → StateM σ (Except Fault Response))

/-- What may come of a job: its execution, what is seen meanwhile, and the state in which the
transport is left. -/
inductive Executes : σ → Job → Execution → List Event → σ → Prop
  /-- The template cannot be resolved. -/
  | unresolved {st : σ} {job : Job} {e : Error}
      (hresolve : job.template.resolve? job.vars = .error e) :
      Executes st job ⟨⟨.error (.error e), none⟩, []⟩ [] st
  /-- The request is sent. -/
  | sent {st st' : σ} {job : Job} {resolved : RequestTemplate} {r : Request}
      {reply : Except Fault Response} {conclusion : Conclusion} {entry : LogEntry}
      {lines : List LogEntry} (hresolve : job.template.resolve? job.vars = .ok resolved)
      (hrequest : resolved.request s.timeout = .ok r)
      (hentry : Reads entry .debug (r.method ++ ' ' :: r.url))
      (hreply : (transport r).run st = (reply, st'))
      (hconcludes : Concludes r reply conclusion lines) :
      Executes st job { conclusion with entries := entry :: lines }
        (.line entry :: .exchange r reply :: lines.map .line) st'

/-- What may come of several jobs, one after the other. -/
inductive ExecutesAll : σ → List Job → List Execution → List Event → σ → Prop
  | nil (st : σ) : ExecutesAll st [] [] [] st
  | cons {st st' st'' : σ} {job : Job} {jobs : List Job} {execution : Execution}
      {executions : List Execution} {events later : List Event}
      (hfirst : Executes s transport st job execution events st')
      (hrest : ExecutesAll st' jobs executions later st'') :
      ExecutesAll st (job :: jobs) (execution :: executions) (events ++ later) st''

/-- Executes jobs one after the other. -/
def executeAll (jobs : List Job) : StateM σ (List Execution) :=
  jobs.mapM fun job => execute s false transport job.template job.vars

/-- Takes down an event. -/
def note (event : Event) : StateT (List Event) (StateM σ) PUnit :=
  modify (· ++ [event])

/-- Sends a request and takes down the exchange. -/
def exchange (r : Request) : StateT (List Event) (StateM σ) (Except Fault Response) := do
  let reply ← StateT.lift (transport r)
  note (.exchange r reply)
  pure reply

/-- Performs a job and takes down what is seen meanwhile. -/
def observe (job : Job) : StateT (List Event) (StateM σ) Conclusion :=
  perform s false (fun entry => note (.line entry)) (exchange transport) job.template job.vars

/-- Performs jobs one after the other and takes down what is seen meanwhile. -/
def observeAll (jobs : List Job) : StateT (List Event) (StateM σ) (List Conclusion) :=
  jobs.mapM (observe s transport)

end Runs

/-! ### Lines -/

section Lines

open Log.Message

variable (r : Request)

theorem reads_requestEntry : Reads (requestEntry r) .debug (r.method ++ ' ' :: r.url) where
  level_eq := rfl
  render_eq := by simp [requestEntry, render, fill_cons, fill_plain, Except.map, Value.plain]
  context_eq := rfl

theorem reads_responseEntry (response : Response) :
    Reads (responseEntry r response) .info
      (r.method ++ ' ' :: r.url ++ " -> " ++ Text.ofInt response.status) where
  level_eq := rfl
  render_eq := by
    simp [responseEntry, render, fill_cons, fill_plain, fill_whole, Except.map, Value.plain]
  context_eq := rfl

theorem reads_faultEntry (f : Fault) :
    Reads (faultEntry r f) .error (r.method ++ ' ' :: r.url ++ " failed: " ++ f.message) where
  level_eq := rfl
  render_eq := by simp [faultEntry, render, fill_cons, fill_plain, Except.map, Value.plain]
  context_eq := rfl

end Lines

/-! ### Steps -/

/-- What the reply to a request comes to. -/
def conclusionOf (r : Request) : Except Fault Response → Conclusion
  | .ok response => ⟨.ok response, none⟩
  | .error f =>
    if f.isOwn || f.isStop then ⟨.error f, none⟩
    else ⟨.error (.error (.transport r.url f.message)), some f⟩

/-- The lines that are logged about the reply to a request. -/
def replyEntries (r : Request) : Except Fault Response → List LogEntry
  | .ok response => [responseEntry r response]
  | .error f => if f.isOwn || f.isStop then [] else [faultEntry r f]

theorem concludes_conclusionOf (r : Request) (reply : Except Fault Response) :
    Concludes r reply (conclusionOf r reply) (replyEntries r reply) := by
  cases reply with
  | ok response => exact .answered (reads_responseEntry r response)
  | error f =>
    by_cases hf : (f.isOwn || f.isStop) = true
    · rw [conclusionOf, replyEntries, if_pos hf, if_pos hf]
      exact .passed (Bool.or_eq_true_iff.mp hf)
    · rw [conclusionOf, replyEntries, if_neg hf, if_neg hf]
      obtain ⟨hown, hstop⟩ := Bool.or_eq_false_iff.mp (Bool.eq_false_iff.mpr hf)
      exact .wrapped hown hstop (reads_faultEntry r f)

/-- A resolved template has a request. -/
theorem exists_request_of_resolve? {t resolved : RequestTemplate} {vars : Option Variables}
    (hresolve : t.resolve? vars = .ok resolved) (timeout : Option Timeout) :
    ∃ r, resolved.request timeout = .ok r := by
  cases vars with
  | none => cases hresolve
  | some vars =>
    obtain ⟨url, headers, body, -, -, -, rfl⟩ := RequestTemplate.resolve_eq_ok_iff.mp hresolve
    exact ⟨_, t.request_withResolution ⟨url, headers⟩ body timeout⟩

section Perform

variable {m : Type → Type} [Monad m] [LawfulMonad m] {s : Settings} {t : RequestTemplate}
variable {vars : Option Variables} {r : Request}

theorem conclude_eq (log : LogEntry → m PUnit) (reply : Except Fault Response) :
    conclude false log r reply =
      (forM (replyEntries r reply) log >>= fun _ => pure (conclusionOf r reply)) := by
  cases reply with
  | ok response => rfl
  | error f =>
    rw [conclude, conclusionOf, replyEntries]
    split <;> simp

variable {α : Type} {log : LogEntry → StateT (List α) m PUnit} {f : LogEntry → α}

/-- Lines that are kept one by one are kept in their order. -/
theorem run_forM_log (hlog : ∀ entry, log entry = modify (· ++ [f entry])) (lines : List LogEntry)
    (past : List α) : (forM lines log).run past = pure (⟨⟩, past ++ lines.map f) := by
  induction lines generalizing past with
  | nil => simp
  | cons entry lines ih => simp [hlog, ih]

/-- One line is logged before the request is sent, and the others behind the reply. -/
theorem run_perform (hlog : ∀ entry, log entry = modify (· ++ [f entry]))
    (send : Request → StateT (List α) m (Except Fault Response))
    (hrequest : requestOf s t vars = .ok r) (past : List α) :
    (perform s false log send t vars).run past =
      (fun p => (conclusionOf r p.1, p.2 ++ (replyEntries r p.1).map f))
        <$> (send r).run (past ++ [f (requestEntry r)]) := by
  rw [perform, hrequest]
  simp [conclude_eq, run_forM_log hlog, hlog, entriesBefore, traceEntry]

theorem execute_of_request (send : Request → m (Except Fault Response))
    (hrequest : requestOf s t vars = .ok r) :
    execute s false send t vars =
      (fun reply =>
        { conclusionOf r reply with entries := requestEntry r :: replyEntries r reply })
      <$> send r := by
  have hlog (entry : LogEntry) : keepEntry (m := m) entry = modify (· ++ [id entry]) := rfl
  rw [execute, run_perform hlog _ hrequest]
  simp

end Perform

section Runs

variable {σ : Type} (s : Settings) (transport : Request → StateM σ (Except Fault Response))

theorem run_observe_of_request {job : Job} {r : Request}
    (hrequest : requestOf s job.template job.vars = .ok r) (past : List Event) :
    (observe s transport job).run past =
      (fun reply => (conclusionOf r reply,
        past ++ .line (requestEntry r) :: .exchange r reply :: (replyEntries r reply).map .line))
      <$> transport r := by
  have hlog (entry : LogEntry) :
      (note (.line entry) : StateT (List Event) (StateM σ) PUnit)
        = modify (· ++ [.line entry]) := rfl
  rw [observe, run_perform hlog _ hrequest]
  simp [exchange, note]

/-- **A step of a client.** Whatever the state of the transport is, a job can be executed, and the
execution is one of those that `Executes` tells of. -/
theorem exists_executes (st : σ) (job : Job) : ∃ execution events st',
    (execute s false transport job.template job.vars).run st = (execution, st') ∧
    (∀ past, ((observe s transport job).run past).run st =
      ((execution.toConclusion, past ++ events), st')) ∧
    Executes s transport st job execution events st' := by
  cases hresolve : job.template.resolve? job.vars with
  | error e =>
    have hrequest : requestOf s job.template job.vars = .error e := by
      rw [requestOf, hresolve]; rfl
    refine ⟨_, _, _, ?_, fun past => ?_, .unresolved hresolve⟩
    · rw [execute, perform, hrequest]; rfl
    · rw [observe, perform, hrequest, List.append_nil]; rfl
  | ok resolved =>
    obtain ⟨r, hr⟩ := exists_request_of_resolve? hresolve s.timeout
    have hrequest : requestOf s job.template job.vars = .ok r := by
      rw [requestOf, hresolve]; exact hr
    rcases hreply : (transport r).run st with ⟨reply, st'⟩
    refine ⟨_, _, _, ?_, fun past => ?_, .sent hresolve hr (reads_requestEntry r) hreply
      (concludes_conclusionOf r reply)⟩
    · rw [execute_of_request transport hrequest, StateT.run_map, hreply]; rfl
    · rw [run_observe_of_request s transport hrequest, StateT.run_map, hreply]; rfl

/-- **A run of a client.** Whatever the transport does, any jobs can be executed one after the other,
each execution is one of those that `Executes` tells of, and the events of one job follow those of
the job before it. -/
theorem exists_executesAll (start : σ) (jobs : List Job) : ∃ executions events final,
    (executeAll s transport jobs).run start = (executions, final) ∧
    (∀ past, ((observeAll s transport jobs).run past).run start =
      ((executions.map (·.toConclusion), past ++ events), final)) ∧
    ExecutesAll s transport start jobs executions events final := by
  induction jobs generalizing start with
  | nil => exact ⟨[], [], start, rfl, fun past => by rw [List.append_nil]; rfl, .nil start⟩
  | cons job jobs ih =>
    obtain ⟨execution, events, st, hexecute, hobserve, hfirst⟩ :=
      exists_executes s transport start job
    obtain ⟨executions, later, final, hexecutes, hobserves, hrest⟩ := ih st
    refine ⟨execution :: executions, events ++ later, final, ?_, fun past => ?_, .cons hfirst hrest⟩
    · rw [executeAll, List.mapM_cons, StateT.run_bind, hexecute]
      exact congrArg (fun p => (execution :: p.1, p.2)) hexecutes
    · rw [observeAll, List.mapM_cons, StateT.run_bind, StateT.run_bind, hobserve, List.map_cons,
        ← List.append_assoc]
      exact congrArg (fun p => ((execution.toConclusion :: p.1.1, p.1.2), p.2))
        (hobserves (past ++ events))

/-- A transport that gives prepared replies. -/
def scripted (_ : Request) : StateM (List (Except Fault Response)) (Except Fault Response) :=
  modifyGet fun replies =>
    (replies.headD (.error (.failure .ordinary "OSError" "no reply")), replies.tail)

/-- Two of these jobs are sent. The fault of the first request is wrapped, that of the second, an
error of the library, is not. -/
example :
    let t : RequestTemplate := { target := "http://h" }
    let refusal : Fault := .failure .ordinary "OSError" "refused"
    let replies := [.error refusal, .error (.error (.request .unresolved))]
    (((executeAll .standard scripted [⟨t, some ⟨[]⟩⟩, ⟨t, none⟩, ⟨t, some ⟨[]⟩⟩]).run replies).1.map
      fun e => (e.outcome.map fun _ => (), e.cause)) =
      [(.error (.error (.transport "http://h" "refused")), some refusal),
       (.error (.error (.request .missingVariables)), none),
       (.error (.error (.request .unresolved)), none)] := by
  decide +kernel

end Runs

/-! ### Requests -/

section Requests

variable {σ : Type} {s : Settings} {transport : Request → StateM σ (Except Fault Response)}
variable {start final : σ} {executions : List Execution} {events : List Event}

theorem Executes.requests_eq {job : Job} {execution : Execution}
    (h : Executes s transport start job execution events final) :
    events.filterMap Event.request? = (requestOf s job.template job.vars).toOption.toList := by
  cases h with
  | unresolved hresolve => rw [requestOf, hresolve]; rfl
  | sent hresolve hrequest =>
    rw [requestOf, hresolve, bind_ok, hrequest]
    simp [List.filterMap_cons, Function.comp_def, Event.request?, Except.toOption]

/-- The transport gets the request of each job that has one, once and in the order of the jobs. -/
theorem ExecutesAll.requests_eq {jobs : List Job}
    (h : ExecutesAll s transport start jobs executions events final) :
    events.filterMap Event.request? =
      jobs.filterMap fun job => (requestOf s job.template job.vars).toOption := by
  induction h with
  | nil => rfl
  | cons hfirst _ ih =>
    rw [List.filterMap_append, hfirst.requests_eq, ih, List.filterMap_cons]
    cases (requestOf s _ _).toOption <;> rfl

end Requests

end HttpTemplates.Client
