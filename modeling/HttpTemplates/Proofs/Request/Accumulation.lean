import HttpTemplates.Proofs.Request.Building
import HttpTemplates.Proofs.Request.Ledger

/-!
# What query parameters and headers accumulate

The query parameters and the headers of a template are two ledgers of the calls it was built with.
`queryHistory` and `headerHistory` read the changes off the calls alone; `queryEntries` and
`headerEntries` are what these changes come to.

The lemmas `withQuery_tracks` and `withHeader_tracks` follow one change through the lists of a
template, `Follows.apply` follows a call and `follows_run` a run of calls. `accumulates_run` reads
the result off the two lists.
-/

namespace HttpTemplates

open Change

/-! ### Values that are given -/

/-- The values of a list that are there and not blank. -/
def nonBlank (values : List (Option Text)) : List Text :=
  values.filterMap fun v => v.filter Text.hasInk

theorem nonBlank_eq (values : List (Option Text)) :
    nonBlank values = (values.filterMap id).filter Text.hasInk := by
  induction values with
  | nil => rfl
  | cons v values ih =>
      cases v with
      | none => exact ih
      | some v =>
          cases hv : Text.hasInk v <;> simp_all [nonBlank, Option.filter]

namespace QueryTemplate

theorem given_eq_nonBlank (values : List (Option Text)) : given values = nonBlank values :=
  (nonBlank_eq values).symm

theorem given_append (xs ys : List (Option Text)) : given (xs ++ ys) = given xs ++ given ys := by
  simp [given]

@[simp] theorem given_given (xs : List (Option Text)) : given ((given xs).map some) = given xs := by
  simp [given, List.filterMap_map]

variable {name : Text} {values : List (Option Text)} {c : Charset} {f : CollectionFormat}
  {slashes : Bool} {q : QueryTemplate}

theorem create_congr {values' : List (Option Text)} (h : given values = given values') :
    create name values c f slashes = create name values' c f slashes := by
  unfold create
  rw [h]

theorem parseAll_source {settings : Template.Settings} {texts : List Text} {ts : List Template}
    (h : parseAll settings texts = .ok ts) : ts.map (·.source) = texts := by
  induction texts generalizing ts with
  | nil =>
      rw [← Except.ok.inj h]
      rfl
  | cons v texts ih =>
      obtain ⟨t, ht, h⟩ := bind_eq_ok_iff.mp h
      obtain ⟨rest, hrest, h⟩ := bind_eq_ok_iff.mp h
      obtain ⟨chunks, -, ht⟩ := bind_eq_ok_iff.mp ht
      rw [← Except.ok.inj h, List.map_cons, ih hrest, ← Except.ok.inj ht]

/-- What a parameter was created with. -/
theorem create_fields (h : create name values c f slashes = .ok q) :
    q.name.source = name ∧ q.valueTexts = given values ∧ q.charset = c.orUtf8 ∧ q.format = f ∧
      q.decodeSlash = slashes := by
  unfold create at h
  split at h
  · exact absurd h (by simp)
  obtain ⟨n, hn, h⟩ := bind_eq_ok_iff.mp h
  obtain ⟨ts, hts, h⟩ := bind_eq_ok_iff.mp h
  obtain ⟨chunks, -, hn⟩ := bind_eq_ok_iff.mp hn
  rw [← Except.ok.inj h, ← Except.ok.inj hn]
  exact ⟨rfl, parseAll_source hts, rfl, rfl, rfl⟩

end QueryTemplate

namespace HeaderTemplate

theorem distinct_filter (p : Text → Bool) (ts : List Text) :
    (distinct ts).filter p = distinct (ts.filter p) := by
  induction ts with
  | nil => rfl
  | cons t ts ih =>
      rw [distinct, List.filter_cons, List.filter_cons]
      by_cases ht : p t = true
      · rw [if_pos ht, if_pos ht, distinct, ← ih, List.filter_filter, List.filter_filter]
        simp only [Bool.and_comm]
      · rw [if_neg ht, if_neg ht, ← ih, List.filter_filter]
        refine List.filter_congr fun u _ => ?_
        by_cases hu : u = t
        · simp [hu, ht]
        · simp [hu]

/-- Leaving out later occurrences is what the function of the library does. -/
theorem distinct_eq_eraseDups : ∀ ts : List Text, distinct ts = ts.eraseDups
  | [] => rfl
  | t :: ts => by
      have hne : (fun u => !u == t) = fun u => decide (u ≠ t) := by
        funext u
        by_cases hu : u = t <;> simp [hu]
      rw [distinct, List.eraseDups_cons, distinct_filter, distinct_eq_eraseDups, hne]
termination_by ts => ts.length
decreasing_by
  have := List.length_filter_le (fun u => decide (u ≠ t)) ts
  simp only [List.length_cons]
  omega

theorem nodup_distinct (ts : List Text) : (distinct ts).Nodup := by
  induction ts with
  | nil => exact List.nodup_nil
  | cons t ts ih =>
      rw [distinct, List.nodup_cons]
      exact ⟨by simp, ih.filter _⟩

theorem distinct_append (xs ys : List Text) :
    distinct (distinct xs ++ ys) = distinct (xs ++ ys) := by
  induction xs with
  | nil => rfl
  | cons t xs ih =>
      have hfilter : (distinct ((distinct xs).filter (· ≠ t) ++ ys)).filter (· ≠ t) =
          (distinct (distinct xs ++ ys)).filter (· ≠ t) := by
        simp only [distinct_filter, List.filter_append, List.filter_filter, Bool.and_self]
      rw [distinct, List.cons_append, distinct, List.cons_append, distinct, hfilter, ih]

variable {name : Text} {values : List (Option Text)} {c : Charset} {h : HeaderTemplate}

theorem given_eq_eraseDups (values : List (Option Text)) :
    given values = (nonBlank values).eraseDups := by
  rw [given, distinct_eq_eraseDups, nonBlank_eq]

/-- Values that were kept are kept again and do not hide the others. -/
theorem given_append (xs ys : List (Option Text)) :
    given ((given xs).map some ++ ys) = given (xs ++ ys) := by
  have hink : (given xs).filter Text.hasInk = given xs := by
    rw [given, distinct_filter, List.filter_filter]
    simp only [Bool.and_self]
  have hkept : (((given xs).map some ++ ys).filterMap id).filter Text.hasInk =
      given xs ++ (ys.filterMap id).filter Text.hasInk := by
    rw [List.filterMap_append, List.filter_append, List.filterMap_map]
    simp [hink]
  rw [given, hkept, given, distinct_append, given, List.filterMap_append, List.filter_append]

@[simp] theorem given_given (xs : List (Option Text)) : given ((given xs).map some) = given xs := by
  simpa using given_append xs []

theorem create_congr {values' : List (Option Text)} (h : given values = given values') :
    create name values c = create name values' c := by
  unfold create
  rw [h]

/-- What a header was created with. -/
theorem create_fields (hh : create name values c = .ok h) :
    h.name = name ∧ h.values = given values ∧ h.base.settings.charset = c.orUtf8 := by
  unfold create at hh
  split at hh
  · exact absurd hh (by simp)
  obtain ⟨base, hbase, hh⟩ := bind_eq_ok_iff.mp hh
  obtain ⟨chunks, -, hbase⟩ := bind_eq_ok_iff.mp hbase
  rw [← Except.ok.inj hh, ← Except.ok.inj hbase]
  exact ⟨rfl, rfl, rfl⟩

end HeaderTemplate

/-! ### The changes that calls make -/

namespace RequestTemplate

/-- Values that are given to a query parameter, and the format in force. -/
abbrev QueryItem := List (Option Text) × CollectionFormat

/-- A change of a query parameter, by its name. -/
abbrev QueryChange := Change Text QueryItem

/-- Values that are given to a header, behind its name as it is written there. -/
abbrev HeaderItem := Text × List (Option Text)

/-- A change of a header, by its name in lower case. -/
abbrev HeaderChange := Change Text HeaderItem

/-- What a query parameter is given. No values remove it. -/
def queryChange (f : CollectionFormat) (name : Text) (values : List (Option Text)) : QueryChange :=
  if values = [] then .remove name else .put name (values, f)

/-- What a header is given. No values remove it. -/
def headerChange (name : Text) (values : List (Option Text)) : HeaderChange :=
  if values = [] then .remove (Text.lower name) else .put (Text.lower name) (name, values)

/-- What a query string adds. -/
def lineChanges (f : CollectionFormat) (line : Text) : List QueryChange :=
  (queryPairs line).map fun p => queryChange f p.1 [p.2]

namespace Call

/-- What a call changes of the query parameters while a format is in force. -/
def queryChanges (f : CollectionFormat) : Call → List QueryChange
  | .query name values => [queryChange f name values]
  | .target url => lineChanges f ((Text.cut '?' url).2.getD [])
  | .uri text _ =>
    match splitQuery text with
    | .ok (_, line) => lineChanges f line
    | .error _ => []
  | _ => []

/-- The format in force after a call. -/
def formatAfter (f : CollectionFormat) : Call → CollectionFormat
  | .format (some f') => f'
  | _ => f

/-- What a call changes of the headers. -/
def headerChanges : Call → List HeaderChange
  | .header name values => [headerChange name values]
  | _ => []

end Call

/-- The format in force after a run of calls. -/
def formatAfter (f : CollectionFormat) (calls : List Call) : CollectionFormat :=
  calls.foldl Call.formatAfter f

/-- What a run of calls changes of the query parameters. -/
def queryHistory (f : CollectionFormat) : List Call → List QueryChange
  | [] => []
  | c :: calls => c.queryChanges f ++ queryHistory (c.formatAfter f) calls

/-- What a run of calls changes of the headers. -/
def headerHistory (calls : List Call) : List HeaderChange :=
  calls.flatMap Call.headerChanges

theorem formatAfter_append (f : CollectionFormat) (calls : List Call) (c : Call) :
    formatAfter f (calls ++ [c]) = c.formatAfter (formatAfter f calls) := by
  simp [formatAfter]

theorem queryHistory_append (f : CollectionFormat) (calls : List Call) (c : Call) :
    queryHistory f (calls ++ [c]) =
      queryHistory f calls ++ c.queryChanges (formatAfter f calls) := by
  induction calls generalizing f with
  | nil => simp [queryHistory, formatAfter]
  | cons d calls ih =>
      rw [List.cons_append, queryHistory, queryHistory, ih, List.append_assoc]
      rfl

theorem headerHistory_append (calls : List Call) (c : Call) :
    headerHistory (calls ++ [c]) = headerHistory calls ++ c.headerChanges := by
  simp [headerHistory]

/-! ### What the changes come to -/

/-- A query parameter as the calls describe it. -/
structure QueryEntry where
  /-- The name. -/
  name : Text
  /-- The values that were given and not blank, in order. -/
  values : List Text
  /-- The format of the last call. -/
  format : CollectionFormat
  deriving DecidableEq

/-- The parameter that an entry of a ledger describes. -/
def QueryEntry.ofItems (e : Text × List QueryItem) : QueryEntry :=
  ⟨e.1, nonBlank (e.2.flatMap (·.1)), (e.2.getLast?.map (·.2)).getD .exploded⟩

theorem QueryEntry.values_ofItems (e : Text × List QueryItem) :
    (QueryEntry.ofItems e).values = QueryTemplate.given (e.2.flatMap (·.1)) :=
  (QueryTemplate.given_eq_nonBlank _).symm

/-- A parameter with nothing but the name, the values and the format of an entry. -/
def QueryEntry.template (e : QueryEntry) (c : Charset) (slashes : Bool) :
    Except Error QueryTemplate :=
  QueryTemplate.create e.name (e.values.map some) c e.format slashes

/-- A header as the calls describe it. -/
structure HeaderEntry where
  /-- The name as it was first given. -/
  name : Text
  /-- The values that were given and not blank, each at its first occurrence. -/
  values : List Text
  deriving DecidableEq

/-- The header that an entry of a ledger describes. -/
def HeaderEntry.ofItems (e : Text × List HeaderItem) : HeaderEntry :=
  ⟨(e.2.head?.map (·.1)).getD [], (nonBlank (e.2.flatMap (·.2))).eraseDups⟩

theorem HeaderEntry.values_ofItems (e : Text × List HeaderItem) :
    (HeaderEntry.ofItems e).values = HeaderTemplate.given (e.2.flatMap (·.2)) :=
  (HeaderTemplate.given_eq_eraseDups _).symm

/-- A header with nothing but the name and the values of an entry. -/
def HeaderEntry.template (e : HeaderEntry) (c : Charset) : Except Error HeaderTemplate :=
  HeaderTemplate.create e.name (e.values.map some) c

/-- The query parameters that a run of calls describes. -/
def queryEntries (calls : List Call) : List QueryEntry :=
  (ledger (queryHistory .exploded calls)).map .ofItems

/-- The headers that a run of calls describes. -/
def headerEntries (calls : List Call) : List HeaderEntry :=
  (ledger (headerHistory calls)).map .ofItems

/-- A query parameter is the one that an entry of a ledger describes. -/
def IsQuery (c : Charset) (slashes : Bool)
    (e : Text × List QueryItem) (q : QueryTemplate) : Prop :=
  (QueryEntry.ofItems e).template c slashes = .ok q

/-- A header is the one that an entry of a ledger describes, and its name is the key. -/
def IsHeader (c : Charset) (e : Text × List HeaderItem) (h : HeaderTemplate) :
    Prop :=
  (HeaderEntry.ofItems e).template c = .ok h ∧ Text.lower h.name = e.1

variable {c : Charset} {slashes : Bool} {t u : RequestTemplate} {f : CollectionFormat}

/-! ### Query parameters under one change -/

section Query

variable {name : Text} {values : List (Option Text)} {q q' : QueryTemplate}
  {items : List QueryItem} {h : List QueryChange}

theorem IsQuery.fields {e : Text × List QueryItem}
    (hq : IsQuery c slashes e q) : q.name.source = e.1 ∧ q.valueTexts = (QueryEntry.ofItems e).values ∧
      q.charset = c.orUtf8 ∧ q.format = (QueryEntry.ofItems e).format ∧ q.decodeSlash = slashes := by
  obtain ⟨hname, hvalues, hcharset, hformat, hslashes⟩ := QueryTemplate.create_fields hq
  refine ⟨hname, ?_, hcharset, hformat, hslashes⟩
  rw [hvalues, QueryEntry.values_ofItems]
  exact QueryTemplate.given_given _

theorem isQuery_create (hq : QueryTemplate.create name values c f slashes = .ok q) :
    IsQuery c slashes (name, [(values, f)]) q := by
  unfold IsQuery QueryEntry.template
  rw [← hq]
  refine QueryTemplate.create_congr ?_
  simp [QueryEntry.values_ofItems]

theorem IsQuery.append (hc : c.orUtf8 = c) (hq : IsQuery c slashes (name, items) q)
    (hq' : q.append values (some f) slashes = .ok q') :
    IsQuery c slashes (name, items ++ [(values, f)]) q' := by
  obtain ⟨hname, hvalues, hcharset, -, -⟩ := hq.fields
  rw [QueryTemplate.append, hname, hvalues, hcharset, hc] at hq'
  have hformat : (QueryEntry.ofItems (name, items ++ [(values, f)])).format = f := by
    simp [QueryEntry.ofItems]
  unfold IsQuery QueryEntry.template
  rw [hformat, ← hq']
  refine QueryTemplate.create_congr ?_
  simp [QueryEntry.values_ofItems, QueryTemplate.given_append]

/-- A parameter that is created again with another slash setting. -/
theorem IsQuery.recreate {keep : Bool} {e : Text × List QueryItem}
    (hc : c.orUtf8 = c) (hq : IsQuery c slashes e q)
    (hq' : QueryTemplate.create q.name.source (q.valueTexts.map some) q.charset q.format keep =
      .ok q') : IsQuery c keep e q' := by
  obtain ⟨hname, hvalues, hcharset, hformat, -⟩ := hq.fields
  rw [hname, hvalues, hcharset, hc, hformat] at hq'
  exact hq'

theorem addQuery_eq_updateWhere (qs : List QueryTemplate) :
    t.addQuery name values qs = updateWhere (fun q => q.name.source = name)
      (fun q => q.append values t.format t.keepsSlashes) qs := by
  induction qs with
  | nil => rfl
  | cons q qs ih =>
      rw [addQuery, updateWhere, ih]
      simp only [decide_eq_true_eq]

/-- A property of all parameters that adding values keeps and new parameters have. -/
theorem withQuery_forall {P : QueryTemplate → Prop}
    (happend : ∀ q q', P q → q.append values t.format t.keepsSlashes = .ok q' → P q')
    (hcreate : ∀ q, QueryTemplate.create name values t.charset (t.format.getD .exploded)
      t.keepsSlashes = .ok q → P q)
    (ht : ∀ q ∈ t.queries, P q) (hu : t.withQuery name values = .ok u) : ∀ q ∈ u.queries, P q := by
  unfold withQuery at hu
  split at hu
  · exact absurd hu (by simp)
  split at hu
  · rw [← Except.ok.inj hu]
    intro q hq
    exact ht q (List.mem_filter.mp hq).1
  obtain ⟨⟨qs, found⟩, hqs, hu⟩ := bind_eq_ok_iff.mp hu
  rw [addQuery_eq_updateWhere] at hqs
  have hall : ∀ q ∈ qs, P q := updateWhere_forall happend ht hqs
  cases found with
  | true =>
      rw [← Except.ok.inj hu]
      exact hall
  | false =>
      obtain ⟨q, hq, hu⟩ := bind_eq_ok_iff.mp hu
      rw [← Except.ok.inj hu]
      exact List.forall_mem_append.mpr ⟨hall, List.forall_mem_singleton.mpr (hcreate q hq)⟩

theorem withQuery_tracks (hcharset : t.charset = c) (hc : c.orUtf8 = c) (hf : t.format = some f)
    (ht : Tracks (IsQuery c t.keepsSlashes) h t.queries) (hu : t.withQuery name values = .ok u) :
    Tracks (IsQuery c u.keepsSlashes) (h ++ [queryChange f name values]) u.queries := by
  have hkey : ∀ e q, IsQuery c t.keepsSlashes e q → q.name.source = e.1 := fun _ _ hq => hq.fields.1
  have hslashes : u.keepsSlashes = t.keepsSlashes := by
    rw [withQuery_frame hu]
    rfl
  rw [hslashes]
  unfold withQuery at hu
  split at hu
  · exact absurd hu (by simp)
  unfold queryChange
  split at hu
  · next hvalues =>
      rw [if_pos hvalues, ← Except.ok.inj hu]
      exact ht.remove hkey
  next hvalues =>
  rw [if_neg hvalues]
  obtain ⟨⟨qs, found⟩, hqs, hu⟩ := bind_eq_ok_iff.mp hu
  -- From here on the parameter is there and takes a step, or it is created.
  rw [addQuery_eq_updateWhere, hf] at hqs
  obtain ⟨hfound, hupdates⟩ := updateWhere_eq_ok (fun _ => rfl) hqs
  refine ht.put hkey (fun items q q' hq hq' => hq.append hc hq') hfound hupdates ?_
  cases found with
  | true => rw [← Except.ok.inj hu, if_pos rfl]
  | false =>
      obtain ⟨q, hq, hu⟩ := bind_eq_ok_iff.mp hu
      rw [hcharset, hf] at hq
      rw [← Except.ok.inj hu, if_neg (by simp)]
      exact ⟨q, isQuery_create hq, rfl⟩

theorem withQueryPairs_tracks {pairs : List (Text × Option Text)} (hcharset : t.charset = c)
    (hc : c.orUtf8 = c) (hf : t.format = some f)
    (ht : Tracks (IsQuery c t.keepsSlashes) h t.queries) (hu : t.withQueryPairs pairs = .ok u) :
    Tracks (IsQuery c u.keepsSlashes) (h ++ pairs.map fun p => queryChange f p.1 [p.2])
      u.queries := by
  induction pairs generalizing t h with
  | nil =>
      rw [← Except.ok.inj hu, List.map_nil, List.append_nil]
      exact ht
  | cons p pairs ih =>
      obtain ⟨v, hv, hu⟩ := bind_eq_ok_iff.mp hu
      have hfirst := withQuery_tracks hcharset hc hf ht hv
      have frame := withQuery_frame hv
      rw [List.map_cons, ← List.singleton_append, ← List.append_assoc]
      exact ih (by rw [frame, hcharset]) (by rw [frame, hf]) hfirst hu

theorem withQueryLine_tracks {line : Text} (hcharset : t.charset = c) (hc : c.orUtf8 = c)
    (hf : t.format = some f) (ht : Tracks (IsQuery c t.keepsSlashes) h t.queries)
    (hu : t.withQueryLine line = .ok u) :
    Tracks (IsQuery c u.keepsSlashes) (h ++ lineChanges f line) u.queries :=
  withQueryPairs_tracks hcharset hc hf ht hu

theorem recreateQueries_tracks {keep : Bool} {qs qs' : List QueryTemplate} (hc : c.orUtf8 = c)
    (ht : Tracks (IsQuery c slashes) h qs) (hqs : recreateQueries keep qs = .ok qs') :
    Tracks (IsQuery c keep) h qs' := by
  unfold Tracks at ht ⊢
  generalize ledger h = es at ht ⊢
  induction ht generalizing qs' with
  | nil =>
      rw [← Except.ok.inj hqs]
      exact .nil
  | cons hq _ ih =>
      obtain ⟨q', hq', hqs⟩ := bind_eq_ok_iff.mp hqs
      obtain ⟨tail, htail, hqs⟩ := bind_eq_ok_iff.mp hqs
      rw [← Except.ok.inj hqs]
      exact .cons (hq.recreate hc hq') (ih htail)

end Query

/-! ### Headers under one change -/

section Header

variable {name : Text} {values : List (Option Text)} {header header' : HeaderTemplate}
  {items : List HeaderItem} {h : List HeaderChange}

theorem IsHeader.fields {e : Text × List HeaderItem} (hh : IsHeader c e header) :
    header.name = (HeaderEntry.ofItems e).name ∧ header.values = (HeaderEntry.ofItems e).values ∧
      header.base.settings.charset = c.orUtf8 := by
  obtain ⟨hname, hvalues, hcharset⟩ := HeaderTemplate.create_fields hh.1
  refine ⟨hname, ?_, hcharset⟩
  rw [hvalues, HeaderEntry.values_ofItems]
  exact HeaderTemplate.given_given _

theorem isHeader_create (hh : HeaderTemplate.create name values c = .ok header) :
    IsHeader c (Text.lower name, [(name, values)]) header := by
  refine ⟨?_, by rw [(HeaderTemplate.create_fields hh).1]⟩
  unfold HeaderEntry.template
  rw [← hh]
  refine HeaderTemplate.create_congr ?_
  simp [HeaderEntry.values_ofItems]

theorem IsHeader.append {key : Text} (hc : c.orUtf8 = c) (hh : IsHeader c (key, items) header)
    (hh' : header.append values = .ok header') :
    IsHeader c (key, items ++ [(name, values)]) header' := by
  obtain ⟨hname, hvalues, hcharset⟩ := hh.fields
  rw [HeaderTemplate.append, hcharset, hc] at hh'
  have hname' := (HeaderTemplate.create_fields hh').1
  refine ⟨?_, by rw [hname', hh.2]⟩
  -- A header without a first name is not created.
  have hfirst : (HeaderEntry.ofItems (key, items ++ [(name, values)])).name = header.name := by
    cases items with
    | nil =>
        obtain ⟨hcreate, -⟩ := hh
        exact absurd hcreate (by simp [HeaderEntry.template, HeaderEntry.ofItems,
          HeaderTemplate.create])
    | cons item items => exact hname.symm
  unfold HeaderEntry.template
  rw [hfirst, ← hh']
  refine HeaderTemplate.create_congr ?_
  rw [hvalues, HeaderEntry.values_ofItems, HeaderEntry.values_ofItems,
    HeaderTemplate.given_append, HeaderTemplate.given_given]
  simp

theorem isNamed_eq (h : HeaderTemplate) :
    isNamed name h = decide (Text.lower h.name = Text.lower name) := by
  rw [isNamed, Bool.eq_iff_iff, beq_iff_eq, decide_eq_true_iff]

theorem addHeader_eq_updateWhere (hs : List HeaderTemplate) :
    addHeader name values hs = updateWhere (isNamed name) (fun h => h.append values) hs := by
  induction hs with
  | nil => rfl
  | cons h hs ih => rw [addHeader, updateWhere, ih]

theorem withHeader_tracks (hcharset : t.charset = c) (hc : c.orUtf8 = c)
    (ht : Tracks (IsHeader c) h t.headers) (hu : t.withHeader name values = .ok u) :
    Tracks (IsHeader c) (h ++ [headerChange name values]) u.headers := by
  have hkey : ∀ e h, IsHeader c e h → Text.lower h.name = e.1 := fun _ _ hh => hh.2
  unfold withHeader at hu
  split at hu
  · exact absurd hu (by simp)
  unfold headerChange
  split at hu
  · next hvalues =>
      rw [if_pos hvalues, ← Except.ok.inj hu]
      have hfilter : (t.headers.filter fun h => !isNamed name h) =
          t.headers.filter fun h => Text.lower h.name ≠ Text.lower name := by
        refine List.filter_congr fun h _ => ?_
        simp [isNamed_eq]
      rw [hfilter]
      exact ht.remove hkey
  next hvalues =>
  rw [if_neg hvalues]
  obtain ⟨⟨hs, found⟩, hhs, hu⟩ := bind_eq_ok_iff.mp hu
  rw [addHeader_eq_updateWhere] at hhs
  obtain ⟨hfound, hupdates⟩ := updateWhere_eq_ok isNamed_eq hhs
  refine ht.put hkey (fun items h h' hh hh' => hh.append hc hh') hfound hupdates ?_
  cases found with
  | true => rw [← Except.ok.inj hu, if_pos rfl]
  | false =>
      obtain ⟨header, hheader, hu⟩ := bind_eq_ok_iff.mp hu
      rw [hcharset] at hheader
      rw [← Except.ok.inj hu, if_neg (by simp)]
      exact ⟨header, isHeader_create hheader, rfl⟩

end Header

/-! ### Runs of calls -/

theorem apply_format {call : Call} (hcall : call ≠ .format none) (hf : t.format = some f)
    (hu : call.apply t = .ok u) : u.format = some (call.formatAfter f) := by
  cases call with
  | format f' =>
      rw [← Except.ok.inj hu]
      cases f' with
      | none => exact absurd rfl hcall
      | some f' => rfl
  | _ => exact ((apply_frame hu).format (by simp)).trans hf

theorem Call.queryChanges_eq_nil {call : Call} (hcall : call.touchesUrl = false) :
    call.queryChanges f = [] := by
  cases call with
  | target _ | uri _ _ | query _ _ | decodeSlash _ => exact absurd hcall (by simp [touchesUrl])
  | _ => rfl

theorem Call.headerChanges_eq_nil {call : Call} (hcall : call.touchesHeaders = false) :
    call.headerChanges = [] := by
  cases call with
  | header _ _ => exact absurd hcall (by simp [touchesHeaders])
  | _ => rfl

theorem apply_queries {call : Call} {h : List QueryChange} (hcharset : t.charset = c)
    (hc : c.orUtf8 = c) (hf : t.format = some f)
    (ht : Tracks (IsQuery c t.keepsSlashes) h t.queries) (hu : call.apply t = .ok u) :
    Tracks (IsQuery c u.keepsSlashes) (h ++ call.queryChanges f) u.queries := by
  cases call with
  | query name values => exact withQuery_tracks hcharset hc hf ht hu
  | target url =>
      refine withQueryLine_tracks ?_ hc ?_ ?_ (withTarget_eq_ok hu)
      exacts [hcharset, hf, ht]
  | uri text append =>
      obtain ⟨path, line, uri, hsplit, -, hline⟩ := withUri_eq_ok hu
      rw [Call.queryChanges, hsplit]
      refine withQueryLine_tracks ?_ hc ?_ ?_ hline
      exacts [hcharset, hf, ht]
  | decodeSlash flag =>
      -- The history stays, but all elements are new.
      obtain ⟨uri, queries, -, hqueries, rfl⟩ := withDecodeSlash_eq_ok hu
      have hall := recreateQueries_tracks hc ht hqueries
      rwa [← List.append_nil h] at hall
  | _ =>
      have frame := apply_frame hu
      rw [Call.queryChanges_eq_nil rfl, List.append_nil, (frame.url rfl).2.2, keepsSlashes,
        frame.decodeSlash (by simp)]
      exact ht

theorem apply_headers {call : Call} {h : List HeaderChange} (hcharset : t.charset = c)
    (hc : c.orUtf8 = c) (ht : Tracks (IsHeader c) h t.headers) (hu : call.apply t = .ok u) :
    Tracks (IsHeader c) (h ++ call.headerChanges) u.headers := by
  cases call with
  | header name values => exact withHeader_tracks hcharset hc ht hu
  | _ =>
      rw [Call.headerChanges_eq_nil rfl, List.append_nil, (apply_frame hu).headers rfl]
      exact ht

/-- A template whose lists are those that a run of calls describes. -/
structure Follows (c : Charset) (calls : List Call) (t : RequestTemplate) : Prop where
  charset : t.charset = c
  format : t.format = some (formatAfter .exploded calls)
  queries : Tracks (IsQuery c t.keepsSlashes) (queryHistory .exploded calls) t.queries
  headers : Tracks (IsHeader c) (headerHistory calls) t.headers

/-- One more call is one more step of the description. -/
theorem Follows.apply {calls : List Call} {call : Call} (hc : c.orUtf8 = c)
    (hcall : call ≠ .format none) (ht : Follows c calls t) (hu : call.apply t = .ok u) :
    Follows c (calls ++ [call]) u where
  charset := (apply_frame hu).charset.trans ht.charset
  format := by
    rw [formatAfter_append]
    exact apply_format hcall ht.format hu
  queries := by
    rw [queryHistory_append]
    exact apply_queries ht.charset hc ht.format ht.queries hu
  headers := by
    rw [headerHistory_append]
    exact apply_headers ht.charset hc ht.headers hu

theorem follows_run {calls : List Call} (hc : c.orUtf8 = c) (hformat : .format none ∉ calls)
    (ht : (initial c (some .exploded) (some true)).run calls = .ok t) : Follows c calls t := by
  refine run_induction ht ⟨rfl, rfl, .nil, .nil⟩ ?_
  intro done call rest v w hcalls _ hv hw
  refine hv.apply hc ?_ hw
  rintro rfl
  exact hformat (by simp [hcalls])

/-! ### What a template shows of its calls -/

/-- The name, the values and the format of a query parameter. -/
def QueryEntry.of (q : QueryTemplate) : QueryEntry :=
  ⟨q.name.source, q.valueTexts, q.format⟩

/-- The name and the values of a header. -/
def HeaderEntry.of (h : HeaderTemplate) : HeaderEntry :=
  ⟨h.name, h.values⟩

/-- The text of the parameter that an entry describes. -/
def QueryEntry.text (e : QueryEntry) (c : Charset) (slashes : Bool) : Text :=
  ((e.template c slashes).toOption.map (·.toText)).getD []

theorem IsQuery.of_eq {e : Text × List QueryItem} {q : QueryTemplate}
    (hq : IsQuery c slashes e q) : QueryEntry.of q = .ofItems e := by
  obtain ⟨hname, hvalues, -, hformat, -⟩ := hq.fields
  rw [QueryEntry.of, hname, hvalues, hformat]
  rfl

theorem IsQuery.text_eq {e : Text × List QueryItem}
    {q : QueryTemplate} (hq : IsQuery c slashes e q) :
    q.toText = (QueryEntry.ofItems e).text c slashes := by
  unfold IsQuery at hq
  rw [QueryEntry.text, hq]
  rfl

theorem IsHeader.of_eq {e : Text × List HeaderItem} {h : HeaderTemplate}
    (hh : IsHeader c e h) : HeaderEntry.of h = .ofItems e := by
  obtain ⟨hname, hvalues, -⟩ := hh.fields
  rw [HeaderEntry.of, hname, hvalues]

/-- The query parameters and the headers of a template, and what it shows of them, are those that a
run of calls describes. -/
structure Accumulates (c : Charset) (calls : List Call) (t : RequestTemplate) : Prop where
  /-- The charset is that of the first template. -/
  charset : t.charset = c
  /-- The parameters have the names, values and formats of the entries, in this order. -/
  queries : t.queries.map .of = queryEntries calls
  /-- No two parameters have the same name. -/
  queryNames : (t.queries.map (·.name.source)).Nodup
  /-- All parameters have the settings of the template. -/
  querySettings : ∀ q ∈ t.queries, q.charset = c ∧ q.decodeSlash = t.keepsSlashes
  /-- A parameter is determined by its entry and the settings. -/
  queryTemplates : ∀ q ∈ t.queries, (QueryEntry.of q).template c t.keepsSlashes = .ok q
  /-- The query string holds the texts of the entries. -/
  queryLine : t.queryLine =
    ['&'].intercalate ((queryEntries calls).map (·.text c t.keepsSlashes))
  /-- The headers have the names and values of the entries, in this order. -/
  headers : t.headers.map .of = headerEntries calls
  /-- No two headers have the same name, whatever its letter case. -/
  headerNames : (t.headers.map fun h => Text.lower h.name).Nodup
  /-- A header is determined by its entry and the charset. -/
  headerTemplates : ∀ h ∈ t.headers, (HeaderEntry.of h).template c = .ok h
  /-- The values of a header are those given under its name since its last removal. -/
  headerValues : ∀ name, t.headerValues name =
    (nonBlank ((itemsOf (Text.lower name) (headerHistory calls)).flatMap (·.2))).eraseDups

/-- **Query parameters and headers accumulate.** After any run of calls that succeed, they are what
the changes that these calls make come to. -/
theorem accumulates_run {calls : List Call} (hc : c.name.getD [] ≠ [])
    (hformat : .format none ∉ calls)
    (ht : (initial c (some .exploded) (some true)).run calls = .ok t) : Accumulates c calls t := by
  have hnamed : c.orUtf8 = c := if_neg hc
  have hfollows := follows_run hnamed hformat ht
  have hquery : ∀ q ∈ t.queries, ∃ e, IsQuery c t.keepsSlashes e q :=
    hfollows.queries.exists_entry
  have hheader : ∀ h ∈ t.headers, ∃ e, IsHeader c e h := hfollows.headers.exists_entry
  exact {
    charset := hfollows.charset
    queries := hfollows.queries.map_eq fun e q hq => hq.of_eq
    queryNames := by
      rw [hfollows.queries.map_key fun e q hq => hq.fields.1]
      exact nodup_keys _
    querySettings := by
      intro q hmem
      obtain ⟨e, hq⟩ := hquery q hmem
      obtain ⟨-, -, hcharset, -, hslashes⟩ := hq.fields
      exact ⟨hcharset.trans hnamed, hslashes⟩
    queryTemplates := by
      intro q hmem
      obtain ⟨e, hq⟩ := hquery q hmem
      rw [hq.of_eq]
      exact hq
    queryLine := by
      rw [RequestTemplate.queryLine, queryEntries, List.map_map]
      congr 1
      exact hfollows.queries.map_eq fun e q hq => hq.text_eq
    headers := hfollows.headers.map_eq fun e h hh => hh.of_eq
    headerNames := by
      rw [hfollows.headers.map_key fun e h hh => hh.2]
      exact nodup_keys _
    headerTemplates := by
      intro h hmem
      obtain ⟨e, hh⟩ := hheader h hmem
      rw [hh.of_eq]
      exact hh.1
    headerValues := by
      intro name
      have hread := hfollows.headers.find?_eq
        (fun items => (nonBlank (items.flatMap (·.2))).eraseDups)
        (fun e h hh => hh.2) (fun e h hh => hh.fields.2.1) (Text.lower name)
      have hkey : isNamed name = fun h => decide (Text.lower h.name = Text.lower name) :=
        funext isNamed_eq
      rw [RequestTemplate.headerValues, hkey, hread]
      split
      · rfl
      · next hnew =>
          rw [itemsOf_eq_nil hnew]
          rfl }

/-- Calls that add to a parameter in three ways, declare one again after its removal and write the
name of a header in two ways. -/
def search : List Call := [
  .target "http://api.example.com?tag=a",
  .query "page" [some "1"],
  .query "tag" [some "b", none],
  .header "X-Trace" [some "1"],
  .format (some .csv),
  .uri "/items?tag=a" false,
  .header "x-trace" [some "2", some "1"],
  .query "page" [],
  .decodeSlash (some false),
  .query "page" [none]]

/-- A search has one parameter for all its tags and one header. -/
theorem accumulates_run_search : ∃ t,
    (initial .utf8 (some .exploded) (some true)).run search = .ok t ∧
    t.queries.map .of = [⟨"tag", ["a", "b", "a"], .csv⟩, (⟨"page", [], .csv⟩ : QueryEntry)] ∧
    t.headers.map .of = [(⟨"X-Trace", ["1", "2"]⟩ : HeaderEntry)] ∧
    t.headerValues "X-TRACE" = ["1", "2"] ∧ t.queryLine = "tag=a&tag=b&tag=a&page" := by
  have hrun : ((initial .utf8 (some .exploded) (some true)).run search).toOption.any
      (fun _ => true) = true := by
    decide +kernel
  obtain ⟨t, ht, -⟩ := exists_ok_of_any hrun
  have haccumulates := accumulates_run (by decide) (by decide) ht
  refine ⟨t, ht, ?_, ?_, ?_, ?_⟩
  · rw [haccumulates.queries]
    decide +kernel
  · rw [haccumulates.headers]
    decide +kernel
  · rw [haccumulates.headerValues]
    decide +kernel
  · rw [haccumulates.queryLine]
    cases t.keepsSlashes <;> decide +kernel

end RequestTemplate

end HttpTemplates
