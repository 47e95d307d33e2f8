import HttpTemplates.Client.Transport
import HttpTemplates.Proofs.Request.Headers
import HttpTemplates.Proofs.Text.LetterCase

/-!
# Headers on the wire

A transport folds the values of each header, adds a user agent if none is named, and capitalizes the
names, where a later header takes the place of an earlier one with the same name. The builders tell
names apart by their lower case, which in ASCII capitalizing does too: so each resolved header is
sent, and none is overwritten (`exists_call_of_resolve`).
-/

namespace HttpTemplates.Transport

variable {agent : Text} {insecure : Bool} {req : Request}

/-! ### Calls -/

/-- Whether a URL is one that can be opened: it has a scheme, and its authority is sound. -/
def Accepts (url : Text) : Prop :=
  hasScheme (withoutFragment (unwrapUrl url)) = true ∧
    Authority.check (Authority.ofUrl (dropEmptyFragment (unwrapUrl url))) = .ok ()

/-- A call is made out of a request if its URL is accepted and its timeout is a number. -/
theorem exists_call_eq_ok {timeout : Binary64} (hurl : Accepts req.url)
    (htimeout : timeoutOf req.timeout = .ok timeout) :
    ∃ c, call agent insecure req = .ok c ∧
      c.headers = capitalizeNames (headersOf agent req) := by
  refine ⟨⟨dropEmptyFragment (unwrapUrl req.url), if req.method = [] then "GET" else req.method,
    req.body, capitalizeNames (headersOf agent req), timeout, insecure && isSecure req.url⟩, ?_, rfl⟩
  simp only [call, hurl.1, hurl.2, htimeout, Except.mapError, Bool.not_true, Bool.false_eq_true,
    if_false, bind_ok]

/-- Sending the request is opening the call, whatever the opener does. -/
def Opens (agent : Text) (insecure : Bool) (req : Request) (c : Call) : Prop :=
  ∀ (m : Type → Type) [Monad m] (opener : Call → m (Except Fault Reply)),
    send opener agent insecure req = do
      let reply ← opener c
      pure (reply.bind (response req))

theorem opens_of_call {c : Call} (hc : call agent insecure req = .ok c) :
    Opens agent insecure req c := by
  intro m _ opener
  rw [send, hc]
  exact congrArg (opener c >>= ·) (funext fun reply => by cases reply <;> rfl)

/-! ### Names -/

/-- Headers whose names are in ASCII and differ in more than the letter case. -/
structure AreDistinct (fields : Fields Text) : Prop where
  ascii : ∀ p ∈ fields, p.1.IsAscii
  nodup : (fields.map fun p => Text.lower p.1).Nodup

namespace AreDistinct

variable {fields : Fields Text}

theorem nodup_capitalize (h : AreDistinct fields) :
    ((fields.map fun p => (Text.capitalize p.1, p.2)).map (·.1)).Nodup := by
  have hnames := Text.nodup_map_capitalize (fields.map (·.1))
    (List.forall_mem_map.mpr h.ascii) (by rw [List.map_map]; exact h.nodup)
  rw [List.map_map] at hnames ⊢
  exact hnames

/-- Capitalizing their names, none is lost. -/
theorem capitalizeNames_eq (h : AreDistinct fields) :
    capitalizeNames fields = fields.map fun p => (Text.capitalize p.1, p.2) :=
  Fields.ofList_eq_self h.nodup_capitalize

end AreDistinct

/-- The name of the header that a user agent is sent in. -/
def agentName : Text := "User-Agent"

/-- The header for a user agent that is configured, unless a header for it is there. -/
def agentFields (agent : Text) (fields : Fields Text) : Fields Text :=
  if agent ≠ [] ∧ ∀ p ∈ fields, Text.lower p.1 ≠ "user-agent".toList then [(agentName, agent)]
  else []

theorem lower_agentName : Text.lower agentName = "user-agent".toList := by decide

theorem isAscii_agentName : agentName.IsAscii := by decide

/-- A request has no header for the user agent if none of its names is that in lower case. -/
theorem header_agentName_eq_nil_iff {fields : Fields Text}
    (hreq : req.headers = fields.map fun p => (p.1, [p.2])) :
    req.header agentName = [] ↔ ∀ p ∈ fields, Text.lower p.1 ≠ "user-agent".toList := by
  rw [Request.header, Fields.lookup?, hreq, lower_agentName, List.find?_map]
  cases hfind : fields.find? ((fun p => Text.lower p.1 == "user-agent".toList) ∘
      fun p => (p.1, [p.2])) with
  | none =>
      simp only [Option.map_none, Option.getD_none, true_iff]
      intro p hp heq
      exact List.find?_eq_none.mp hfind p hp (beq_iff_eq.mpr heq)
  | some p =>
      have hp := List.find?_some hfind
      simp only [Function.comp_apply, beq_iff_eq] at hp
      simp only [Option.map_some, Option.getD_some, List.cons_ne_nil, false_iff, not_forall]
      exact ⟨p, List.mem_of_find?_eq_some hfind, not_not.mpr hp⟩

/-- The headers of a request with one value each, and the user agent behind them. -/
theorem headersOf_eq_append {fields : Fields Text}
    (hreq : req.headers = fields.map fun p => (p.1, [p.2])) :
    headersOf agent req = fields ++ agentFields agent fields := by
  have hflat : req.flatHeaders = fields := by
    rw [Request.flatHeaders, hreq, List.map_map]
    refine (List.map_congr_left fun p _ => ?_).trans (List.map_id fields)
    simp [Request.foldValues]
  have hagent : (agent ≠ [] && req.header "User-Agent" = []) = true ↔
      agent ≠ [] ∧ ∀ p ∈ fields, Text.lower p.1 ≠ "user-agent".toList := by
    rw [← header_agentName_eq_nil_iff hreq, Bool.and_eq_true, decide_eq_true_eq,
      decide_eq_true_eq]
    rfl
  rw [headersOf, agentFields, hflat]
  by_cases h : agent ≠ [] ∧ ∀ p ∈ fields, Text.lower p.1 ≠ "user-agent".toList
  · rw [if_pos (hagent.mpr h), if_pos h]
    refine Fields.insert_of_notMem _ fun hmem => ?_
    obtain ⟨p, hp, hname⟩ := List.mem_map.mp hmem
    refine h.2 p hp ?_
    rw [hname]
    exact lower_agentName
  · rw [if_neg fun hcond => h (hagent.mp hcond), if_neg h, List.append_nil]

/-- A user agent is added under a name of its own. -/
theorem AreDistinct.append_agentFields {fields : Fields Text} (h : AreDistinct fields)
    (agent : Text) : AreDistinct (fields ++ agentFields agent fields) := by
  rw [agentFields]
  split
  · next hagent =>
      refine ⟨fun p hp => ?_, ?_⟩
      · obtain hp | hp := List.mem_append.mp hp
        · exact h.ascii p hp
        · rw [List.mem_singleton.mp hp]
          exact isAscii_agentName
      · rw [List.map_append, List.nodup_append]
        refine ⟨h.nodup, List.nodup_singleton _, ?_⟩
        rintro k hk _ hlast rfl
        obtain ⟨p, hp, rfl⟩ := List.mem_map.mp hk
        exact hagent.2 p hp ((List.mem_singleton.mp hlast).trans lower_agentName)
  · rwa [List.append_nil]

/-! ### Requests of resolved templates -/

open RequestTemplate (initial nodup_headerKeys_run exists_fields_of_resolve)

/-- **The headers that are sent.** If the names of the headers of a template are in ASCII, however it
was built, then the request that it is resolved to is sent in a call with exactly its resolved
headers, under capitalized names and in their order, and behind them the configured user agent if
there is one and no resolved header names one in any letter case. -/
theorem exists_call_of_resolve {c : Charset} {f : Option CollectionFormat} {d : Option Bool}
    {calls : List RequestTemplate.Call} {t r : RequestTemplate} {vars : Variables}
    (ht : (initial c f d).run calls = .ok t) (hascii : ∀ h ∈ t.headers, h.name.IsAscii)
    (hr : t.resolve vars = .ok r) (hurl : Accepts r.url) (agent : Text) (insecure : Bool) :
    ∃ (fields : Fields Text) (req : Request) (call : Call),
      r.resolution = some ⟨r.url, fields.map fun p => (p.1, [p.2])⟩ ∧
      r.request = .ok req ∧
      Opens agent insecure req call ∧
      call.headers = fields.map (fun p => (Text.capitalize p.1, p.2)) ++
        (if agent ≠ [] ∧ ∀ p ∈ fields, Text.lower p.1 ≠ "user-agent".toList then
          [("User-agent".toList, agent)]
        else []) ∧
      (call.headers.map (·.1)).Nodup := by
  obtain ⟨url, fields, req, hresolution, hreq, hrequrl, htimeout, hheaders, hnames, hnodup⟩ :=
    exists_fields_of_resolve (nodup_headerKeys_run ht) hr none
  have hfields : AreDistinct fields := by
    refine ⟨fun p hp => ?_, hnodup⟩
    obtain ⟨h, hh, hname⟩ := List.mem_map.mp (hnames.subset (List.mem_map_of_mem hp))
    rw [← hname]
    exact hascii h hh
  have hrurl : r.url = url := by rw [RequestTemplate.url, hresolution]
  rw [hrurl] at hurl ⊢
  obtain ⟨call, hcall, hsent⟩ : ∃ c, call agent insecure req = .ok c ∧
      c.headers = capitalizeNames (headersOf agent req) :=
    exists_call_eq_ok (by rwa [hrequrl]) (by rw [htimeout]; rfl)
  have hall := hfields.append_agentFields agent
  rw [headersOf_eq_append hheaders, hall.capitalizeNames_eq] at hsent
  refine ⟨fields, req, call, hresolution, hreq, opens_of_call hcall, ?_, ?_⟩
  · rw [hsent, List.map_append, agentFields]
    split <;> rfl
  · rw [hsent]
    exact hall.nodup_capitalize

/-- Headers in mixed letter case; one is added to, and the user agent is left to a variable. -/
def mixedCalls : List RequestTemplate.Call := [
  .target "https://api.example.com",
  .uri "/a" false,
  .header "aCCEPT" [some "text/html"],
  .header "x-ID" [some "\x7bid\x7d"],
  .header "USER-agent" [some "\x7bagent\x7d"],
  .header "Accept" [some "text/plain"]]

/-- The fields that the first two of these headers are resolved to. -/
def mixedFields : Fields Text :=
  [("aCCEPT", "text/html, text/plain"), ("x-ID", "7")]

/-- The configured user agent is sent in place of one that has no value, and only then. -/
theorem exists_call_of_resolve_mixed : ∃ t r r' req req' call call',
    (initial .utf8 (some .exploded) (some true)).run mixedCalls = .ok t ∧
    t.resolve ⟨[("id", .int 7)]⟩ = .ok r ∧ r.request = .ok req ∧
    Opens "probe/1" false req call ∧
    call.headers = [("Accept".toList, "text/html, text/plain".toList), ("X-id".toList, "7".toList),
      ("User-agent".toList, "probe/1".toList)] ∧
    t.resolve ⟨[("id", .int 7), ("agent", .text "mine")]⟩ = .ok r' ∧ r'.request = .ok req' ∧
    Opens "probe/1" false req' call' ∧
    call'.headers = [("Accept".toList, "text/html, text/plain".toList), ("X-id".toList, "7".toList),
      ("User-agent".toList, "mine".toList)] := by
  have hrun : ((initial .utf8 (some .exploded) (some true)).run mixedCalls).toOption.any (fun t =>
      t.headers.all (fun h => h.name.IsAscii) &&
      (t.resolve ⟨[("id", .int 7)]⟩).toOption.any (fun r => r.resolution =
        some ⟨"https://api.example.com/a", mixedFields.map fun p => (p.1, [p.2])⟩) &&
      (t.resolve ⟨[("id", .int 7), ("agent", .text "mine")]⟩).toOption.any (fun r =>
        r.resolution = some ⟨"https://api.example.com/a",
          (mixedFields ++ [("USER-agent".toList, "mine".toList)]).map fun p => (p.1, [p.2])⟩))
        = true := by
    decide +kernel
  obtain ⟨t, ht, hcheck⟩ := exists_ok_of_any hrun
  simp only [Bool.and_eq_true, List.all_eq_true, decide_eq_true_eq] at hcheck
  obtain ⟨⟨hascii, hr⟩, hr'⟩ := hcheck
  have hurl : Accepts "https://api.example.com/a" := ⟨by decide, rfl⟩
  -- What the theorem says of a resolved template whose fields are known.
  have hsent : ∀ {vars : Variables} {fields : Fields Text}, (t.resolve vars).toOption.any (fun r =>
      r.resolution = some ⟨"https://api.example.com/a", fields.map fun p => (p.1, [p.2])⟩) = true →
      ∃ r req call, t.resolve vars = .ok r ∧ r.request = .ok req ∧
        Opens "probe/1" false req call ∧
        call.headers = fields.map (fun p => (Text.capitalize p.1, p.2)) ++
          (if "probe/1".toList ≠ [] ∧ ∀ p ∈ fields, Text.lower p.1 ≠ "user-agent".toList then
            [("User-agent".toList, "probe/1".toList)]
          else []) := by
    intro vars fields hvars
    obtain ⟨r, hr, hresolution⟩ := exists_ok_of_any hvars
    have hresolution := of_decide_eq_true hresolution
    have hrurl : r.url = "https://api.example.com/a".toList := by
      rw [RequestTemplate.url, hresolution]
    obtain ⟨fields', req, call, hfields, hreq, hopens, hheaders, -⟩ :=
      exists_call_of_resolve ht hascii hr (hrurl ▸ hurl) "probe/1" false
    obtain rfl : fields' = fields := by
      have hmap := congrArg Resolution.headers (Option.some.inj (hfields.symm.trans hresolution))
      exact List.map_injective_iff.mpr (fun p q hpq => by simpa [Prod.ext_iff] using hpq) hmap
    exact ⟨r, req, call, hr, hreq, hopens, hheaders⟩
  obtain ⟨r, req, call, hr, hreq, hopens, hheaders⟩ := hsent hr
  obtain ⟨r', req', call', hr', hreq', hopens', hheaders'⟩ := hsent hr'
  refine ⟨t, r, r', req, req', call, call', ht, hr, hreq, hopens, ?_, hr', hreq', hopens', ?_⟩
  · rw [hheaders]
    decide +kernel
  · rw [hheaders']
    decide +kernel

end HttpTemplates.Transport
