import HttpTemplates.Proofs.Success
import HttpTemplates.Request.Template
import Mathlib.Data.List.Induction

/-!
# Building a request template

A request template is built by a run of `Call`s from an initial one. `RequestTemplate.run_induction`
is induction along such a run.

A call changes few fields: `withQuery_frame` and its companions say which, and `apply_frame` says so
of the fields that later proofs follow through a run. `withUri_eq_ok`, `withTarget_eq_ok` and
`withDecodeSlash_eq_ok` take apart the builders that do several things at once.
-/

namespace HttpTemplates.RequestTemplate

/-! ### Calls -/

/-- A call of a builder. -/
inductive Call where
  /-- Sets the method. -/
  | method (m : Text)
  /-- Sets the URL in front of the path. -/
  | target (url : Text)
  /-- Sets the path or adds to it. -/
  | uri (text : Text) (append : Bool)
  /-- Adds values to a query parameter or removes it. -/
  | query (name : Text) (values : List (Option Text))
  /-- Adds values to a header or removes it. -/
  | header (name : Text) (values : List (Option Text))
  /-- Sets the body to a byte string. -/
  | body (bytes : Option Bytes)
  /-- Sets the body to a text. -/
  | textBody (text : Text)
  /-- Sets the body to a template. -/
  | bodyTemplate (text : Option Text)
  /-- Chooses the format of query parameters. -/
  | format (f : Option CollectionFormat)
  /-- Chooses whether slashes in values stay as they are. -/
  | decodeSlash (flag : Option Bool)
  deriving DecidableEq

/-- The template after a call. -/
def Call.apply (t : RequestTemplate) : Call → Except Error RequestTemplate
  | .method m => t.withMethod m
  | .target url => t.withTarget url
  | .uri text append => t.withUri text append
  | .query name values => t.withQuery name values
  | .header name values => t.withHeader name values
  | .body bytes => .ok (t.withBody bytes)
  | .textBody text => t.withTextBody text
  | .bodyTemplate text => t.withBodyTemplate text
  | .format f => .ok (t.withFormat f)
  | .decodeSlash flag => t.withDecodeSlash flag

/-- The template that nothing has been called on. -/
def initial (charset : Charset) (format : Option CollectionFormat) (decodeSlash : Option Bool) :
    RequestTemplate :=
  { charset, format, decodeSlash }

/-- The template after a run of calls. -/
def run (t : RequestTemplate) : List Call → Except Error RequestTemplate
  | [] => .ok t
  | c :: rest => do
    let t ← c.apply t
    t.run rest

variable {t u v : RequestTemplate}

theorem run_append (t : RequestTemplate) (cs ds : List Call) :
    t.run (cs ++ ds) = t.run cs >>= fun u => u.run ds := by
  induction cs generalizing t with
  | nil => rfl
  | cons c cs ih =>
      rw [List.cons_append, run, run]
      cases c.apply t with
      | error e => rfl
      | ok u => exact ih u

theorem run_snoc {cs : List Call} {c : Call} :
    t.run (cs ++ [c]) = .ok v ↔ ∃ u, t.run cs = .ok u ∧ c.apply u = .ok v := by
  have hlast : ∀ u, u.run [c] = c.apply u := by
    intro u
    rw [run]
    cases c.apply u <;> rfl
  simp only [run_append, bind_eq_ok_iff, hlast]

/-- **Induction along a run.** What holds of the first template and is kept by each call of the run,
holds of the last one. -/
theorem run_induction {P : List Call → RequestTemplate → Prop} {calls : List Call}
    (h : t.run calls = .ok u) (nil : P [] t)
    (step : ∀ done c rest v w, calls = done ++ c :: rest → t.run done = .ok v → P done v →
      c.apply v = .ok w → P (done ++ [c]) w) : P calls u := by
  -- The induction is on the part of the run that is done.
  have hdone : ∀ done rest v, calls = done ++ rest → t.run done = .ok v → P done v := by
    intro done
    induction done using List.reverseRecOn with
    | nil =>
        rintro rest v - hv
        obtain rfl : t = v := Except.ok.inj hv
        exact nil
    | append_singleton done c ih =>
        intro rest w hcalls hw
        obtain ⟨v, hv, hc⟩ := run_snoc.mp hw
        have hsplit : calls = done ++ c :: rest := by simp [hcalls]
        exact step done c rest v w hsplit hv (ih (c :: rest) v hsplit hv) hc
  exact hdone calls [] u (List.append_nil _).symm h

/-! ### Queries and headers -/

/-- Only the query parameters are changed. -/
theorem withQuery_frame {name : Text} {values : List (Option Text)}
    (h : t.withQuery name values = .ok u) : u = { t with queries := u.queries } := by
  unfold withQuery at h
  split at h
  · exact absurd h (by simp)
  split at h
  · rw [← Except.ok.inj h]
  obtain ⟨⟨qs, found⟩, -, h⟩ := bind_eq_ok_iff.mp h
  cases found with
  | true => rw [← Except.ok.inj h]
  | false =>
      obtain ⟨q, -, h⟩ := bind_eq_ok_iff.mp h
      rw [← Except.ok.inj h]

/-- Only the query parameters are changed. -/
theorem withQueryPairs_frame {pairs : List (Text × Option Text)}
    (h : t.withQueryPairs pairs = .ok u) : u = { t with queries := u.queries } := by
  induction pairs generalizing t with
  | nil => rw [← Except.ok.inj h]
  | cons p pairs ih =>
      obtain ⟨v, hv, h⟩ := bind_eq_ok_iff.mp h
      rw [ih h, withQuery_frame hv]

/-- Only the query parameters are changed. -/
theorem withQueryLine_frame {line : Text} (h : t.withQueryLine line = .ok u) :
    u = { t with queries := u.queries } :=
  withQueryPairs_frame h

@[simp] theorem withQueryLine_nil (t : RequestTemplate) : t.withQueryLine [] = .ok t := rfl

/-- Only the headers are changed. -/
theorem withHeader_frame {name : Text} {values : List (Option Text)}
    (h : t.withHeader name values = .ok u) : u = { t with headers := u.headers } := by
  unfold withHeader at h
  split at h
  · exact absurd h (by simp)
  split at h
  · rw [← Except.ok.inj h]
  obtain ⟨⟨hs, found⟩, -, h⟩ := bind_eq_ok_iff.mp h
  cases found with
  | true => rw [← Except.ok.inj h]
  | false =>
      obtain ⟨header, -, h⟩ := bind_eq_ok_iff.mp h
      rw [← Except.ok.inj h]

/-! ### Changes that calls go along with -/

section Commute

variable {g : RequestTemplate → RequestTemplate}

/-- A change of templates that adding to one query parameter goes along with. -/
theorem withQueryLine_map (hquery : ∀ t name values,
      (g t).withQuery name values = (t.withQuery name values).map g)
    (t : RequestTemplate) (line : Text) :
    (g t).withQueryLine line = (t.withQueryLine line).map g := by
  unfold withQueryLine
  induction queryPairs line generalizing t with
  | nil => rfl
  | cons p pairs ih => exact map_bind_eq_map_bind (hquery t p.1 [p.2]) ih

theorem withTarget_map (hquery : ∀ t name values,
      (g t).withQuery name values = (t.withQuery name values).map g)
    (htarget : ∀ (t : RequestTemplate) target, { g t with target } = g { t with target })
    (t : RequestTemplate) (url : Text) : (g t).withTarget url = (t.withTarget url).map g := by
  unfold withTarget
  split
  · exact congrArg Except.ok (htarget t [])
  split
  · rfl
  dsimp only
  cases (Text.cut '?' url).2 with
  | none => exact congrArg Except.ok (htarget t _)
  | some line =>
      have hline := withQueryLine_map hquery
        { t with target := Text.dropEnd (· = '/') (Text.cut '?' url).1 } line
      rwa [← htarget] at hline

theorem withHeader_map (hheaders : ∀ t, (g t).headers = t.headers)
    (hcharset : ∀ t, (g t).charset = t.charset)
    (hset : ∀ (t : RequestTemplate) headers, { g t with headers } = g { t with headers })
    (t : RequestTemplate) (name : Text) (values : List (Option Text)) :
    (g t).withHeader name values = (t.withHeader name values).map g := by
  have hcreate : HeaderTemplate.create name values (g t).charset
      = HeaderTemplate.create name values t.charset := by
    rw [hcharset]
  unfold withHeader
  rw [hcreate, hheaders]
  split
  · rfl
  split
  · exact congrArg Except.ok (hset t _)
  refine bind_eq_map_bind fun r => ?_
  obtain ⟨hs, found⟩ := r
  cases found with
  | true => exact congrArg Except.ok (hset t hs)
  | false => exact bind_eq_map_bind fun h => congrArg Except.ok (hset t (hs ++ [h]))

end Commute

/-! ### Target, path and settings -/

/-- The text that a new path is read from, where `path` was given. -/
def pathSource (t : RequestTemplate) (path : Text) (append : Bool) : Text :=
  if append then t.uri.toText ++ path else if beginsPath path then path else '/' :: path

/-- A path is set in three steps: it is cut off its query string, parsed, and the query string is
taken apart. -/
theorem withUri_eq_ok {text : Text} {append : Bool} (h : t.withUri text append = .ok u) :
    ∃ path line uri, splitQuery text = .ok (path, line) ∧
      UriTemplate.create (t.pathSource path append) t.charset (!t.keepsSlashes) = .ok uri ∧
      ({ t with uri } : RequestTemplate).withQueryLine line = .ok u := by
  unfold withUri at h
  split at h
  · exact absurd h (by simp)
  obtain ⟨⟨path, line⟩, hsplit, h⟩ := bind_eq_ok_iff.mp h
  obtain ⟨uri, huri, h⟩ := bind_eq_ok_iff.mp h
  refine ⟨path, line, uri, hsplit, huri, ?_⟩
  dsimp only at h
  split at h
  · next hline => rw [hline, withQueryLine_nil, h]
  · exact h

/-- A target is set without its query string, which is taken apart. -/
theorem withTarget_eq_ok {url : Text} (h : t.withTarget url = .ok u) :
    ({ t with target := Text.dropEnd (· = '/') (Text.cut '?' url).1 } : RequestTemplate).withQueryLine
      ((Text.cut '?' url).2.getD []) = .ok u := by
  unfold withTarget at h
  split at h
  · next hurl =>
      subst hurl
      exact h
  split at h
  · exact absurd h (by simp)
  dsimp only at h
  cases hline : (Text.cut '?' url).2 with
  | none => rwa [hline] at h
  | some line => rwa [hline] at h

/-- The slash setting is changed in the path and in all query parameters. -/
theorem withDecodeSlash_eq_ok {flag : Option Bool} (h : t.withDecodeSlash flag = .ok u) :
    ∃ uri queries, UriTemplate.create t.uri.toText t.charset (!flag.getD false) = .ok uri ∧
      recreateQueries (flag.getD false) t.queries = .ok queries ∧
      u = { t with decodeSlash := flag, uri, queries } := by
  obtain ⟨uri, huri, h⟩ := bind_eq_ok_iff.mp h
  obtain ⟨queries, hqueries, h⟩ := bind_eq_ok_iff.mp h
  exact ⟨uri, queries, huri, hqueries, (Except.ok.inj h).symm⟩

/-- The method is set without the white space around it. -/
theorem withMethod_eq_ok {m : Text} (h : t.withMethod m = .ok u) :
    u = { t with method := Text.upper (Text.trim m) } := by
  unfold withMethod at h
  split at h
  · exact absurd h (by simp)
  · exact (Except.ok.inj h).symm

/-! ### What a call leaves alone -/

/-- Whether a call is about a part of the URL. -/
def Call.touchesUrl : Call → Bool
  | .target _ | .uri _ _ | .query _ _ | .decodeSlash _ => true
  | _ => false

/-- Whether a call is about a header. -/
def Call.touchesHeaders : Call → Bool
  | .header _ _ => true
  | _ => false

/-- Whether a call is about the body. -/
def Call.touchesBody : Call → Bool
  | .body _ | .textBody _ | .bodyTemplate _ => true
  | _ => false

/-- The fields that a call leaves as they were. -/
structure Frame (c : Call) (t u : RequestTemplate) : Prop where
  charset : u.charset = t.charset
  resolution : u.resolution = t.resolution
  format : (∀ f, c ≠ .format f) → u.format = t.format
  decodeSlash : (∀ flag, c ≠ .decodeSlash flag) → u.decodeSlash = t.decodeSlash
  target : (∀ url, c ≠ .target url) → u.target = t.target
  uri : (∀ text append, c ≠ .uri text append) → (∀ flag, c ≠ .decodeSlash flag) → u.uri = t.uri
  url : c.touchesUrl = false → u.target = t.target ∧ u.uri = t.uri ∧ u.queries = t.queries
  headers : c.touchesHeaders = false → u.headers = t.headers
  body : c.touchesBody = false → u.body = t.body ∧ u.bodyTemplate = t.bodyTemplate

theorem apply_frame {c : Call} (h : c.apply t = .ok u) : Frame c t u := by
  cases c with
  | method m =>
      rw [withMethod_eq_ok h]
      constructor <;> simp
  | target url =>
      rw [withQueryLine_frame (withTarget_eq_ok h)]
      constructor <;> simp [Call.touchesUrl]
  | uri text append =>
      obtain ⟨path, line, uri, -, -, h⟩ := withUri_eq_ok h
      rw [withQueryLine_frame h]
      constructor <;> simp [Call.touchesUrl]
  | query name values =>
      rw [withQuery_frame h]
      constructor <;> simp [Call.touchesUrl]
  | header name values =>
      rw [withHeader_frame h]
      constructor <;> simp [Call.touchesHeaders]
  | body bytes =>
      rw [← Except.ok.inj h]
      constructor <;> simp [withBody, Call.touchesBody]
  | textBody text =>
      obtain ⟨bytes, -, h⟩ := bind_eq_ok_iff.mp h
      rw [← Except.ok.inj h]
      constructor <;> simp [withBody, Call.touchesBody]
  | bodyTemplate text =>
      obtain ⟨b, -, h⟩ := bind_eq_ok_iff.mp h
      rw [← Except.ok.inj h]
      constructor <;> simp [Call.touchesBody]
  | format f =>
      rw [← Except.ok.inj h]
      constructor <;> simp [withFormat]
  | decodeSlash flag =>
      obtain ⟨uri, queries, -, -, rfl⟩ := withDecodeSlash_eq_ok h
      constructor <;> simp [Call.touchesUrl]

/-- A run keeps the charset. -/
theorem run_charset {calls : List Call} (h : t.run calls = .ok u) : u.charset = t.charset := by
  refine run_induction (P := fun _ v => v.charset = t.charset) h rfl ?_
  intro done call rest v w _ _ hv hw
  exact (apply_frame hw).charset.trans hv

/-- What holds of the first template and is kept by each of the calls, holds of the last one. -/
theorem run_invariant {P : RequestTemplate → Prop} {calls : List Call} (h : t.run calls = .ok u)
    (ht : P t) (step : ∀ call ∈ calls, ∀ v w, v.charset = t.charset → P v →
      call.apply v = .ok w → P w) : P u := by
  refine run_induction (P := fun _ v => P v) h ht ?_
  intro done call rest v w hsplit hdone hv hw
  have hmem : call ∈ calls := by simp [hsplit]
  exact step call hmem v w (run_charset hdone) hv hw

end HttpTemplates.RequestTemplate
