import HttpTemplates.Proofs.Request.Building

/-!
# Builders on a resolved template

`RequestTemplate.resolve` gives a template that still has its path, queries and headers beside the
URL and the headers they were resolved to. A builder changes the former and keeps the latter
(`apply_withResolution`), so the request of a resolved template on which a builder was called is in
part the request from before that call. `requestOnResolved_eq` says which part is old, and when the
request is nevertheless the one that the call asks for.
-/

namespace HttpTemplates.RequestTemplate

variable {t u r : RequestTemplate} {vars : Variables}

/-! ### What resolving does -/

/-- The URL with the variables filled in. -/
def expandUrl (t : RequestTemplate) (vars : Variables) : Except Error Text := do
  let path ← t.uri.expand vars
  let parameters ← expandQueries vars t.queries
  .ok (joinUrl (t.target ++ path.getD []) (['&'].intercalate parameters))

/-- The template with a resolution and the body that belongs to it. -/
def withResolution (t : RequestTemplate) (res : Resolution) (body : Option Bytes) :
    RequestTemplate :=
  { t with resolution := some res, body }

/-- Resolving changes nothing but the resolution and the body. -/
theorem resolve_eq_ok_iff :
    t.resolve vars = .ok r ↔ ∃ url headers body, t.expandUrl vars = .ok url ∧
      expandHeaders vars t.headers = .ok headers ∧ t.expandBody vars = .ok body ∧
      t.withResolution ⟨url, headers⟩ body = r := by
  simp only [resolve, expandUrl, bind_eq_ok_iff, Except.ok.injEq]
  constructor
  · rintro ⟨path, hpath, parameters, hparameters, headers, hheaders, body, hbody, rfl⟩
    exact ⟨_, headers, body, ⟨path, hpath, parameters, hparameters, rfl⟩, hheaders, hbody, rfl⟩
  · rintro ⟨_, headers, body, ⟨path, hpath, parameters, hparameters, rfl⟩, hheaders, hbody, rfl⟩
    exact ⟨path, hpath, parameters, hparameters, headers, hheaders, body, hbody, rfl⟩

/-- If the URL can be expanded, resolving is expanding the headers and the body. -/
theorem exists_resolve_iff {url : Text} (hurl : t.expandUrl vars = .ok url) :
    (∃ r, t.resolve vars = .ok r) ↔ (∃ headers, expandHeaders vars t.headers = .ok headers) ∧
      ∃ body, t.expandBody vars = .ok body := by
  constructor
  · rintro ⟨r, hr⟩
    obtain ⟨_, headers, body, -, hheaders, hbody, -⟩ := resolve_eq_ok_iff.mp hr
    exact ⟨⟨headers, hheaders⟩, body, hbody⟩
  · rintro ⟨⟨headers, hheaders⟩, body, hbody⟩
    exact ⟨_, resolve_eq_ok_iff.mpr ⟨url, headers, body, hurl, hheaders, hbody, rfl⟩⟩

theorem request_withResolution (t : RequestTemplate) (res : Resolution) (body : Option Bytes)
    (timeout : Option Timeout) :
    (t.withResolution res body).request timeout =
      .ok ⟨t.method, res.url, .ofList res.headers, body, t.charset, timeout⟩ := rfl

/-! ### Builders beside a resolution -/

section Commute

variable (t : RequestTemplate) (res : Resolution) (b : Option Bytes)

theorem addQuery_withResolution (name : Text) (values : List (Option Text))
    (qs : List QueryTemplate) :
    (t.withResolution res b).addQuery name values qs = t.addQuery name values qs := by
  induction qs with
  | nil => rfl
  | cons q qs ih =>
      rw [addQuery, addQuery, ih]
      rfl

theorem withQuery_withResolution (name : Text) (values : List (Option Text)) :
    (t.withResolution res b).withQuery name values =
      (t.withQuery name values).map (·.withResolution res b) := by
  unfold withQuery
  rw [addQuery_withResolution]
  split
  · rfl
  split
  · rfl
  refine bind_eq_map_bind fun p => ?_
  obtain ⟨qs, found⟩ := p
  cases found with
  | true => rfl
  | false => exact bind_eq_map_bind fun _ => rfl

theorem withQueryLine_withResolution (line : Text) :
    (t.withResolution res b).withQueryLine line =
      (t.withQueryLine line).map (·.withResolution res b) :=
  withQueryLine_map (fun t => withQuery_withResolution t res b) t line

theorem withHeader_withResolution (name : Text) (values : List (Option Text)) :
    (t.withResolution res b).withHeader name values =
      (t.withHeader name values).map (·.withResolution res b) :=
  withHeader_map (g := (·.withResolution res b)) (fun _ => rfl) (fun _ => rfl) (fun _ _ => rfl) t name
    values

theorem withTarget_withResolution (url : Text) :
    (t.withResolution res b).withTarget url =
      (t.withTarget url).map (·.withResolution res b) :=
  withTarget_map (fun t => withQuery_withResolution t res b) (fun _ _ => rfl) t url

theorem withUri_withResolution (text : Text) (append : Bool) :
    (t.withResolution res b).withUri text append =
      (t.withUri text append).map (·.withResolution res b) := by
  unfold withUri
  split
  · rfl
  refine bind_eq_map_bind fun p => bind_eq_map_bind fun uri => ?_
  obtain ⟨path, line⟩ := p
  dsimp only
  split
  · rfl
  · exact withQueryLine_withResolution { t with uri } res b line

end Commute

/-- **A builder does not look at the resolution and keeps it**, and unless it sets the body it keeps
the body as well. -/
theorem apply_withResolution (c : Call) (t : RequestTemplate) (res : Resolution)
    (b : Option Bytes) :
    c.apply (t.withResolution res b) =
      (c.apply t).map fun u => u.withResolution res (if c.touchesBody then u.body else b) := by
  cases c with
  | method m =>
      show withMethod _ m = (withMethod t m).map _
      unfold withMethod
      split <;> rfl
  | target url => exact withTarget_withResolution t res b url
  | uri text append => exact withUri_withResolution t res b text append
  | query name values => exact withQuery_withResolution t res b name values
  | header name values => exact withHeader_withResolution t res b name values
  | body bytes => rfl
  | textBody text => exact bind_eq_map_bind fun _ => rfl
  | bodyTemplate text => exact bind_eq_map_bind fun _ => rfl
  | format f => rfl
  | decodeSlash flag => exact bind_eq_map_bind fun _ => bind_eq_map_bind fun _ => rfl

/-! ### The request of a resolved template -/

namespace Call

/-- The request after a call, resolved with the call in place. -/
def requestResolved (c : Call) (t : RequestTemplate) (vars : Variables)
    (timeout : Option Timeout) : Except Error Request := do
  let u ← c.apply t
  let r ← u.resolve vars
  r.request timeout

/-- The request after a call on the template that was resolved without it. -/
def requestOnResolved (c : Call) (t : RequestTemplate) (vars : Variables)
    (timeout : Option Timeout) : Except Error Request := do
  let r ← t.resolve vars
  let u ← c.apply r
  u.request timeout

/-- The body after a call on a resolved template, where `old` was its body and `new` is the one that
the call asks for. -/
def bodyOnResolved (c : Call) (old new : Option Bytes) : Option Bytes :=
  match c with
  | .body _ | .textBody _ => new
  | .bodyTemplate _ => none
  | _ => old

/-- Whether the request `old` from before a call and the request `new` that the call asks for are the
same in what the call is about. The method and a body that is set are taken over into the request of
a resolved template, and a template of a body never is. -/
def Agrees (c : Call) (old new : Request) : Prop :=
  match c with
  | .method _ | .body _ | .textBody _ | .format _ => True
  | .target _ | .uri _ _ | .query _ _ | .decodeSlash _ => old.url = new.url
  | .header _ _ => old.headers = new.headers
  | .bodyTemplate _ => False

end Call

theorem expandUrl_congr (htarget : u.target = t.target) (huri : u.uri = t.uri)
    (hqueries : u.queries = t.queries) : u.expandUrl vars = t.expandUrl vars := by
  unfold expandUrl
  rw [htarget, huri, hqueries]

theorem expandBody_congr (hbody : u.body = t.body) (htemplate : u.bodyTemplate = t.bodyTemplate)
    (hcharset : u.charset = t.charset) : u.expandBody vars = t.expandBody vars := by
  unfold expandBody
  rw [hbody, htemplate, hcharset]

/-- A template of a body expands to a body. -/
theorem expandBody_of_template {b : BodyTemplate} {body : Option Bytes}
    (hb : t.bodyTemplate = some b) (h : t.expandBody vars = .ok body) : body ≠ none := by
  unfold expandBody at h
  rw [hb] at h
  obtain ⟨expanded, -, h⟩ := bind_eq_ok_iff.mp h
  obtain ⟨bytes, -, rfl⟩ := map_eq_ok_iff.mp h
  simp

/-- The body that a call leaves on a resolved template. -/
theorem bodyOnResolved_eq {c : Call} {old new : Option Bytes} (hc : c.apply t = .ok u)
    (hnew : u.expandBody vars = .ok new) :
    (if c.touchesBody then u.body else old) = c.bodyOnResolved old new := by
  cases c with
  | body bytes =>
      obtain rfl : t.withBody bytes = u := Except.ok.inj hc
      exact Except.ok.inj hnew
  | textBody text =>
      obtain ⟨bytes, -, hc⟩ := bind_eq_ok_iff.mp hc
      obtain rfl : t.withBody (some bytes) = u := Except.ok.inj hc
      exact Except.ok.inj hnew
  | bodyTemplate text =>
      obtain ⟨b, -, hc⟩ := bind_eq_ok_iff.mp hc
      rw [← Except.ok.inj hc]
      rfl
  | _ => rfl

/-- What a call does not touch expands as before; of what it touches, the request of the resolved
template has the old expansion. -/
theorem agrees_iff {c : Call} {url url' : Text} {headers headers' : List (Text × List Text)}
    {body body' : Option Bytes} {method method' : Text} {charset charset' : Charset}
    {timeout timeout' : Option Timeout} (hc : c.apply t = .ok u)
    (hurl : t.expandUrl vars = .ok url) (hurl' : u.expandUrl vars = .ok url')
    (hheaders : expandHeaders vars t.headers = .ok headers)
    (hheaders' : expandHeaders vars u.headers = .ok headers')
    (hbody : t.expandBody vars = .ok body) (hbody' : u.expandBody vars = .ok body') :
    c.Agrees ⟨method, url, .ofList headers, body, charset, timeout⟩
        ⟨method', url', .ofList headers', body', charset', timeout'⟩ ↔
      url = url' ∧ Fields.ofList headers = .ofList headers' ∧
        c.bodyOnResolved body body' = body' := by
  have frame := apply_frame hc
  -- Each part of the request is the same as before, unless the call is about it.
  have sameUrl : c.touchesUrl = false → url = url' := by
    intro hc
    obtain ⟨htarget, huri, hqueries⟩ := frame.url hc
    rw [expandUrl_congr htarget huri hqueries, hurl] at hurl'
    exact Except.ok.inj hurl'
  have sameHeaders : c.touchesHeaders = false → headers = headers' := by
    intro hc
    rw [frame.headers hc, hheaders] at hheaders'
    exact Except.ok.inj hheaders'
  have sameBody : c.touchesBody = false → body = body' := by
    intro hc
    obtain ⟨hb, htemplate⟩ := frame.body hc
    rw [expandBody_congr hb htemplate frame.charset, hbody] at hbody'
    exact Except.ok.inj hbody'
  cases c with
  | bodyTemplate text =>
      obtain ⟨b, -, hc⟩ := bind_eq_ok_iff.mp hc
      have hb : u.bodyTemplate = some b := by rw [← Except.ok.inj hc]
      simp [Call.Agrees, Call.bodyOnResolved, (expandBody_of_template hb hbody').symm]
  | body _ | textBody _ =>
      simp [Call.Agrees, Call.bodyOnResolved, sameUrl rfl, sameHeaders rfl]
  | header _ _ => simp [Call.Agrees, Call.bodyOnResolved, sameUrl rfl, sameBody rfl]
  | method _ | format _ =>
      simp [Call.Agrees, Call.bodyOnResolved, sameUrl rfl, sameHeaders rfl, sameBody rfl]
  | target _ | uri _ _ | query _ _ | decodeSlash _ =>
      simp [Call.Agrees, Call.bodyOnResolved, sameHeaders rfl, sameBody rfl]

/-- **The request of a resolved template after a call.** If the call gives the request `new` when the
variables are filled in behind it, then on the template resolved before the call it gives the request
from before the call, with the new method and perhaps the new body. That is `new` exactly if the part
of the request that the call is about is the same in both; no call makes the template unresolved. -/
theorem requestOnResolved_eq {c : Call} {timeout : Option Timeout} {new : Request}
    (hnew : c.requestResolved t vars timeout = .ok new) :
    (∀ e, t.resolve vars = .error e → c.requestOnResolved t vars timeout = .error e) ∧
    (∀ r, t.resolve vars = .ok r → ∃ old, r.request timeout = .ok old ∧
      c.requestOnResolved t vars timeout =
        .ok { old with method := new.method, body := c.bodyOnResolved old.body new.body } ∧
      (c.requestOnResolved t vars timeout = .ok new ↔ c.Agrees old new)) := by
  obtain ⟨u, hc, hnew⟩ := bind_eq_ok_iff.mp hnew
  obtain ⟨_, hresolve', hnew⟩ := bind_eq_ok_iff.mp hnew
  obtain ⟨url', headers', body', hurl', hheaders', hbody', rfl⟩ := resolve_eq_ok_iff.mp hresolve'
  rw [request_withResolution] at hnew
  obtain rfl := Except.ok.inj hnew
  constructor
  · intro e he
    rw [Call.requestOnResolved, he]
    rfl
  intro r hresolve
  obtain ⟨url, headers, body, hurl, hheaders, hbody, rfl⟩ := resolve_eq_ok_iff.mp hresolve
  have hcopy : c.requestOnResolved t vars timeout = .ok ⟨u.method, url, .ofList headers,
      c.bodyOnResolved body body', u.charset, timeout⟩ := by
    have hkept : (if c.touchesBody then u.body else body) = c.bodyOnResolved body body' :=
      bodyOnResolved_eq hc hbody'
    rw [Call.requestOnResolved, hresolve, bind_ok, apply_withResolution, hc, ← hkept]
    rfl
  refine ⟨_, request_withResolution t _ body timeout, ?_, ?_⟩
  · rw [hcopy, (apply_frame hc).charset]
  · rw [hcopy, agrees_iff hc hurl hurl' hheaders hheaders' hbody hbody']
    simp only [Except.ok.injEq, Request.mk.injEq, true_and, and_true]

/-! ### A second path -/

/-- A template with the path `/a` gives a request for `/b` if it is resolved after that path was set
and one for `/a` if it is resolved before. -/
theorem exists_secondPath : ∃ t new stale,
    (initial .utf8 (some .exploded) (some true)).run [.uri "/a" false] = .ok t ∧
    (Call.uri "/b" false).requestResolved t .empty none = .ok new ∧ new.url = "/b".toList ∧
    (Call.uri "/b" false).requestOnResolved t .empty none = .ok stale ∧
    stale.url = "/a".toList := by
  have hrun : ((initial .utf8 (some .exploded) (some true)).run [.uri "/a" false]).toOption.any
      (fun t => ((Call.uri "/b" false).requestResolved t .empty none).toOption.any
          (fun new => new.url = "/b".toList) &&
        ((Call.uri "/b" false).requestOnResolved t .empty none).toOption.any
          (fun stale => stale.url = "/a".toList)) = true := by
    decide +kernel
  obtain ⟨t, ht, hcheck⟩ := exists_ok_of_any hrun
  rw [Bool.and_eq_true] at hcheck
  obtain ⟨new, hnew, hurl⟩ := exists_ok_of_any hcheck.1
  obtain ⟨stale, hstale, hold⟩ := exists_ok_of_any hcheck.2
  exact ⟨t, new, stale, ht, hnew, of_decide_eq_true hurl, hstale, of_decide_eq_true hold⟩

/-- The path `/b` is not the one that the request is sent to. -/
theorem requestOnResolved_secondPath : ∃ (t r : RequestTemplate) (new old : Request),
    (Call.uri "/b" false).requestResolved t .empty none = .ok new ∧ new.url = "/b".toList ∧
    t.resolve .empty = .ok r ∧ r.request none = .ok old ∧ old.url = "/a".toList ∧
    (Call.uri "/b" false).requestOnResolved t .empty none =
      .ok { old with method := new.method } ∧
    (Call.uri "/b" false).requestOnResolved t .empty none ≠ .ok new := by
  obtain ⟨t, new, stale, -, hnew, hurl, hstale, hold⟩ := exists_secondPath
  obtain ⟨r, hr, -⟩ := bind_eq_ok_iff.mp hstale
  obtain ⟨old, hrequest, hcopy, hagrees⟩ := (requestOnResolved_eq hnew).2 r hr
  have hkept : old.url = stale.url := by
    rw [← Except.ok.inj (hcopy.symm.trans hstale)]
  rw [hold] at hkept
  refine ⟨t, r, new, old, hnew, hurl, hr, hrequest, hkept, hcopy, ?_⟩
  rw [Ne, hagrees, Call.Agrees, hkept, hurl]
  decide

/-- A call on a resolved template can be neither refused nor heeded. -/
theorem not_refused_or_heeded : ¬ ∀ (calls : List Call) (c : Call) (t : RequestTemplate)
    (vars : Variables) (new : Request),
    (initial .utf8 (some .exploded) (some true)).run calls = .ok t →
    c.requestResolved t vars none = .ok new →
    (∃ e, c.requestOnResolved t vars none = .error (.request e)) ∨
      c.requestOnResolved t vars none = .ok new := by
  intro h
  obtain ⟨t, new, stale, ht, hnew, hurl, hstale, hold⟩ := exists_secondPath
  obtain ⟨e, he⟩ | hheeded := h _ _ t .empty new ht hnew
  · exact absurd (hstale.symm.trans he) (by simp)
  · have heq : stale = new := Except.ok.inj (hstale.symm.trans hheeded)
    rw [heq, hurl] at hold
    exact absurd hold (by decide)

end HttpTemplates.RequestTemplate
