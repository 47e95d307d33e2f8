import HttpTemplates.Proofs.Request.Building

/-!
# The variables a request depends on

**A request depends on the listed variables only.** `RequestTemplate.variableNames` lists the names
in the path, the queries, the headers and the body. Two variable maps that agree on these names give
the same result, and fail in the same way if they fail (`RequestTemplate.resolve_eq_of_sameOn`).

Each kind of template collects its names and reads the variables in its own way, so each has a lemma
of its own that says so: `Template.expand_congr`, `QueryTemplate.expand_congr` and so on. Of a pure
query parameter the names are read a second time, in the test whether any of them has a value.
-/

namespace HttpTemplates

/-- Two maps give each of the names the same value. -/
def Variables.SameOn (a b : Variables) (names : List Text) : Prop :=
  ∀ n ∈ names, a.get n = b.get n

variable {a b : Variables}

theorem Variables.sameOn_append {xs ys : List Text} :
    a.SameOn b (xs ++ ys) ↔ a.SameOn b xs ∧ a.SameOn b ys := by
  simp only [SameOn, List.forall_mem_append]

/-! ### Templates -/

namespace Template

/-- The name in a chunk, if there is one. -/
def namesOfChunk (c : Chunk) : List Text :=
  (c.expression?.map (·.name)).toList

theorem variableNames_eq (t : Template) : t.variableNames = t.chunks.flatMap namesOfChunk := by
  unfold variableNames expressions
  induction t.chunks with
  | nil => rfl
  | cons c cs ih =>
      rw [List.flatMap_cons, ← ih]
      cases c <;> rfl

theorem expandChunk_congr {s : Settings} {c : Chunk} (h : a.SameOn b (namesOfChunk c)) :
    expandChunk s a c = expandChunk s b c := by
  cases c with
  | literal t ht => rfl
  | expression e =>
      have hname : a.get e.name = b.get e.name := h e.name (List.mem_singleton.mpr rfl)
      rw [expandChunk, expandChunk, hname]

theorem expandChunks_congr {s : Settings} {cs : List Chunk}
    (h : a.SameOn b (cs.flatMap namesOfChunk)) : expandChunks s a cs = expandChunks s b cs := by
  induction cs with
  | nil => rfl
  | cons c cs ih =>
      rw [List.flatMap_cons, Variables.sameOn_append] at h
      rw [expandChunks, expandChunks, expandChunk_congr h.1, ih h.2]

/-- A template reads the variables that it names. -/
theorem expand_congr {t : Template} (h : a.SameOn b t.variableNames) : t.expand a = t.expand b := by
  rw [variableNames_eq] at h
  rw [expand, expand, expandChunks_congr h]

end Template

/-! ### Query parameters -/

namespace QueryTemplate

theorem expandValues_congr {ts : List Template}
    (h : a.SameOn b (ts.flatMap (·.variableNames))) : expandValues a ts = expandValues b ts := by
  induction ts with
  | nil => rfl
  | cons t ts ih =>
      rw [List.flatMap_cons, Variables.sameOn_append] at h
      rw [expandValues, expandValues, Template.expand_congr h.1, ih h.2]

theorem nameUnresolved_congr {q : QueryTemplate} (h : a.SameOn b q.name.variableNames) :
    q.nameUnresolved a = q.nameUnresolved b := by
  have hall : (q.name.variableNames.all fun n => (a.get n).isNull) =
      q.name.variableNames.all fun n => (b.get n).isNull := by
    rw [Bool.eq_iff_iff, List.all_eq_true, List.all_eq_true]
    exact forall₂_congr fun n hn => by rw [h n hn]
  rw [nameUnresolved, nameUnresolved, hall]

/-- A query parameter reads the variables that its name and its values name. -/
theorem expand_congr {q : QueryTemplate} (h : a.SameOn b q.variableNames) :
    q.expand a = q.expand b := by
  obtain ⟨hname, hvalues⟩ := Variables.sameOn_append.mp h
  rw [expand, expand, Template.expand_congr hname, nameUnresolved_congr hname,
    expandValues_congr hvalues]

end QueryTemplate

/-! ### Headers and bodies -/

theorem HeaderTemplate.expand_congr {h : HeaderTemplate} (hsame : a.SameOn b h.variableNames) :
    h.expand a = h.expand b := by
  rw [expand, expand, Template.expand_congr hsame]

theorem BodyTemplate.expand_congr {t : BodyTemplate} (h : a.SameOn b t.variableNames) :
    t.expand a = t.expand b := by
  rw [expand, expand, Template.expand_congr h]

/-! ### Requests -/

/-- Leaving out later occurrences leaves out no element. -/
theorem HeaderTemplate.mem_distinct {t : Text} {ts : List Text} : t ∈ distinct ts ↔ t ∈ ts := by
  induction ts with
  | nil => rfl
  | cons u ts ih =>
      rw [distinct, List.mem_cons, List.mem_cons, List.mem_filter, ih]
      by_cases htu : t = u <;> simp [htu]

namespace RequestTemplate

theorem expandQueries_congr {qs : List QueryTemplate}
    (h : a.SameOn b (qs.flatMap (·.variableNames))) : expandQueries a qs = expandQueries b qs := by
  induction qs with
  | nil => rfl
  | cons q qs ih =>
      rw [List.flatMap_cons, Variables.sameOn_append] at h
      rw [expandQueries, expandQueries, QueryTemplate.expand_congr h.1, ih h.2]

theorem expandHeaders_congr {hs : List HeaderTemplate}
    (h : a.SameOn b (hs.flatMap (·.variableNames))) : expandHeaders a hs = expandHeaders b hs := by
  induction hs with
  | nil => rfl
  | cons header hs ih =>
      rw [List.flatMap_cons, Variables.sameOn_append] at h
      rw [expandHeaders, expandHeaders, expandHeader, expandHeader,
        HeaderTemplate.expand_congr h.1, ih h.2]

theorem expandBody_sameOn {t : RequestTemplate}
    (h : a.SameOn b ((t.bodyTemplate.map (·.variableNames)).getD [])) :
    t.expandBody a = t.expandBody b := by
  unfold expandBody
  cases htemplate : t.bodyTemplate with
  | none => rfl
  | some body =>
      rw [htemplate, Option.map_some, Option.getD_some] at h
      simp only [BodyTemplate.expand_congr h]

/-- **A request depends on the listed variables only.** Whatever a template was built from, two maps
that agree on its variables give the same URL, headers and body or the same error. -/
theorem resolve_eq_of_sameOn {t : RequestTemplate} (h : a.SameOn b t.variableNames) :
    t.resolve a = t.resolve b := by
  -- The list holds each name once, which makes no difference to the maps.
  have hall : a.SameOn b (t.uri.variableNames ++ t.queries.flatMap (·.variableNames)
      ++ t.headers.flatMap (·.variableNames)
      ++ (t.bodyTemplate.map (·.variableNames)).getD []) :=
    fun n hn => h n (HeaderTemplate.mem_distinct.mpr hn)
  rw [Variables.sameOn_append, Variables.sameOn_append, Variables.sameOn_append] at hall
  obtain ⟨⟨⟨huri, hqueries⟩, hheaders⟩, hbody⟩ := hall
  have hpath : t.uri.expand a = t.uri.expand b := Template.expand_congr huri
  rw [resolve, resolve, hpath, expandQueries_congr hqueries, expandHeaders_congr hheaders,
    expandBody_sameOn hbody]

/-- Calls that name a variable in each part of the request: in the path, in the name of a pure query
parameter, in the value of another one, in a header and in the body. -/
def named : List Call := [
  .uri "/items/\x7bid\x7d?limit=\x7bcount\x7d" false,
  .query "\x7bflag\x7d" [none],
  .header "X-Trace" [some "\x7btrace\x7d"],
  .bodyTemplate (some "n=\x7bid\x7d")]

/-- A variable of another name makes no difference to the request. -/
theorem resolve_eq_of_unnamed : ∃ t,
    (initial .utf8 (some .exploded) (some true)).run named = .ok t ∧
    t.variableNames = ["id".toList, "count".toList, "flag".toList, "trace".toList] ∧
    t.resolve ⟨[("id", .int 7), ("trace", .list [.text "a", .null]), ("other", .text "x")]⟩ =
      t.resolve ⟨[("trace", .list [.text "a", .null]), ("id", .int 7), ("count", .null)]⟩ := by
  have hrun : ((initial .utf8 (some .exploded) (some true)).run named).toOption.any
      (fun t => t.variableNames = ["id".toList, "count".toList, "flag".toList, "trace".toList])
        = true := by
    decide +kernel
  obtain ⟨t, ht, hcheck⟩ := exists_ok_of_any hrun
  have hnames := of_decide_eq_true hcheck
  refine ⟨t, ht, hnames, resolve_eq_of_sameOn ?_⟩
  rw [hnames]
  intro n hn
  simp only [List.mem_cons, List.not_mem_nil, or_false] at hn
  rcases hn with rfl | rfl | rfl | rfl <;> rfl

end RequestTemplate

end HttpTemplates
