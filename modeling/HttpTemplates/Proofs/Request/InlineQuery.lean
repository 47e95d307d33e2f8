import HttpTemplates.Proofs.Request.Accumulation
import HttpTemplates.Proofs.Text.Splitting
import HttpTemplates.Proofs.Uri.WholeText

/-!
# Query strings in a URI

`RequestTemplate.withUri` takes the query string of a URI apart into query parameters. The question
mark in front of the query string is looked for outside expressions, but the ampersands and the
equals signs in it wherever they stand. So the parameters are those that were written exactly if no
value holds an ampersand (`withUri_inlineQuery_iff`), which may well stand in an expression.
-/

namespace HttpTemplates

/-- A path and the names and values of a query string. -/
structure InlineQuery where
  /-- The path. -/
  path : Text
  /-- The name and the value of each parameter. -/
  pairs : List (Text × Text)

namespace InlineQuery

open Token (IsWhole expressionsIn)

/-- The text of a parameter. -/
def pairText (p : Text × Text) : Text :=
  p.1 ++ '=' :: p.2

/-- The query string. -/
def line (i : InlineQuery) : Text :=
  ['&'].intercalate (i.pairs.map pairText)

/-- The URI. -/
def text (i : InlineQuery) : Text :=
  i.path ++ '?' :: i.line

/-- The parts are whole, the names can be told from each other and from what separates them, and
the values are not blank. Outside expressions the path holds no question mark, and the values hold no
ampersand. -/
structure IsSound (i : InlineQuery) : Prop where
  relative : Percent.isAbsolute i.text = false
  path : IsWhole (· ≠ '?') i.path
  name : ∀ p ∈ i.pairs, IsWhole (fun _ => True) p.1 ∧ p.1 ≠ [] ∧ '=' ∉ p.1 ∧ '&' ∉ p.1
  nodup : (i.pairs.map (·.1)).Nodup
  value : ∀ p ∈ i.pairs, IsWhole (· ≠ '&') p.2 ∧ Text.hasInk p.2 = true

/-! ### The text -/

section Text

variable {i : InlineQuery} (hi : i.IsSound)

include hi

/-- The expressions of the query string are those of its names and values. -/
theorem IsSound.line_whole : IsWhole (fun _ => True) i.line ∧
    expressionsIn i.line = i.pairs.flatMap fun p => expressionsIn p.1 ++ expressionsIn p.2 := by
  have hpair : ∀ p ∈ i.pairs, IsWhole (fun _ => True) (pairText p) ∧
      expressionsIn (pairText p) = expressionsIn p.1 ++ expressionsIn p.2 := by
    intro p hp
    have hname := (hi.name p hp).1
    have hvalue : IsWhole (fun _ => True) p.2 := (hi.value p hp).1.mono fun _ _ => trivial
    refine ⟨hname.append (hvalue.cons (by decide) trivial), ?_⟩
    rw [pairText, Token.expressionsIn_append hname.level_eq_zero, Token.expressionsIn_cons (by decide)]
  obtain ⟨hwhole, hexpressions⟩ := Token.isWhole_intercalate (c := '&') (by decide) trivial
    (List.forall_mem_map.mpr fun p hp => (hpair p hp).1)
  refine ⟨hwhole, hexpressions.trans ?_⟩
  rw [List.flatMap_map]
  exact List.flatMap_congr fun p hp => (hpair p hp).2

/-- The expressions of the URI are those of its path and of its query string. -/
theorem IsSound.text_whole : IsWhole (fun _ => True) i.text ∧
    expressionsIn i.text = expressionsIn i.path ++ expressionsIn i.line := by
  have hpath : IsWhole (fun _ => True) i.path := hi.path.mono fun _ _ => trivial
  refine ⟨hpath.append (hi.line_whole.1.cons (by decide) trivial), ?_⟩
  rw [text, Token.expressionsIn_append hpath.level_eq_zero, Token.expressionsIn_cons (by decide)]

/-- Without an ampersand in a value, the pairs are read from the query string again. -/
theorem IsSound.queryPairs_line (hvalue : ∀ p ∈ i.pairs, '&' ∉ p.2) :
    RequestTemplate.queryPairs i.line = i.pairs.map fun p => (p.1, some p.2) := by
  by_cases hpairs : i.pairs = []
  · rw [line, hpairs]
    rfl
  have hclean : ∀ part ∈ i.pairs.map pairText, '&' ∉ part := by
    refine List.forall_mem_map.mpr fun p hp => ?_
    simp only [pairText, List.mem_append, List.mem_cons, not_or]
    exact ⟨(hi.name p hp).2.2.2, by decide, hvalue p hp⟩
  have hpair : ∀ p ∈ i.pairs, RequestTemplate.queryPair? (pairText p) = some (p.1, some p.2) := by
    intro p hp
    obtain ⟨-, hne, heq, -⟩ := hi.name p hp
    have hink : p.2 ≠ [] := by
      intro hnil
      have hink := (hi.value p hp).2
      rw [hnil] at hink
      exact absurd hink (by decide)
    simp only [RequestTemplate.queryPair?, pairText, Text.cut_append heq, if_neg hne,
      Option.bind_some, if_neg hink]
  rw [RequestTemplate.queryPairs, line, Text.pieces_intercalate (by simpa using hpairs) hclean,
    List.filterMap_map]
  refine (List.filterMap_congr hpair).trans ?_
  rw [← List.filterMap_eq_map]
  rfl

end Text

end InlineQuery

namespace RequestTemplate

open Token (IsWhole expressionsIn)

variable {t u : RequestTemplate}

/-! ### Parameters that are new -/

/-- The parameter of a name and a value. -/
def IsParameter (p : Text × Text) (q : QueryTemplate) : Prop :=
  q.name.source = p.1 ∧ q.valueTexts = [p.2] ∧
    q.variableNames = (expressionsIn p.1 ++ expressionsIn p.2).map (·.name)

theorem exists_create_parameter {char char' : Char → Prop} {p : Text × Text} (hne : p.1 ≠ [])
    (hname : IsWhole char p.1) (hvalue : IsWhole char' p.2) (hink : Text.hasInk p.2 = true)
    (f : CollectionFormat) (slashes : Bool) :
    ∃ q, QueryTemplate.create p.1 [some p.2] .utf8 f slashes = .ok q ∧ IsParameter p q := by
  obtain ⟨n, hn, hnsource⟩ := Template.exists_parse_of_isWhole hname true false
  obtain ⟨v, hv, hvsource⟩ := Template.exists_parse_of_isWhole hvalue false (!slashes)
  have hgiven : QueryTemplate.given [some p.2] = [p.2] := by
    simp [QueryTemplate.given, hink]
  have hvalues :
      QueryTemplate.parseAll (QueryTemplate.valueSettings .utf8 slashes) [p.2] = .ok [v] := by
    rw [QueryTemplate.parseAll, QueryTemplate.valueSettings, hv]
    rfl
  refine ⟨⟨n, [v], .utf8, f, slashes⟩, ?_, hnsource, by simp [QueryTemplate.valueTexts, hvsource], ?_⟩
  · have hcharset : Charset.utf8.orUtf8 = .utf8 := rfl
    rw [QueryTemplate.create, if_neg hne]
    simp only [hcharset, QueryTemplate.nameSettings, hn, hgiven, hvalues, bind_ok]
  · simp [QueryTemplate.variableNames, Template.variableNames, Template.expressions_parse hn,
      Template.expressions_parse hv]

/-- What the parameters of a list of pairs show of it. -/
theorem parameters_eq {pairs : List (Text × Text)} {qs : List QueryTemplate}
    (h : List.Forall₂ IsParameter pairs qs) :
    qs.map (fun q => (q.name.source, q.valueTexts)) = pairs.map (fun p => (p.1, [p.2])) ∧
      qs.flatMap (·.variableNames) =
        (pairs.flatMap fun p => expressionsIn p.1 ++ expressionsIn p.2).map (·.name) := by
  induction h with
  | nil => exact ⟨rfl, rfl⟩
  | cons hparameter _ ih =>
      obtain ⟨hname, hvalues, hvariables⟩ := hparameter
      obtain ⟨hfields, hrest⟩ := ih
      rw [List.map_cons, List.map_cons, List.flatMap_cons, List.flatMap_cons, List.map_append, hfields,
        hrest, hname, hvalues, hvariables]
      exact ⟨rfl, rfl⟩

/-- A name that is new changes no parameter. -/
theorem addQuery_of_notMem {name : Text} {values : List (Option Text)} {qs : List QueryTemplate}
    (h : name ∉ qs.map (·.name.source)) : t.addQuery name values qs = .ok (qs, false) := by
  induction qs with
  | nil => rfl
  | cons q qs ih =>
      simp only [List.map_cons, List.mem_cons, not_or] at h
      rw [addQuery, ih h.2]
      simp [Ne.symm h.1, bind_ok]

/-- Pairs of new names and whole values become one parameter each, behind those that are there. -/
theorem exists_withQueryPairs (pairs : List (Text × Text)) {char char' : Char → Prop}
    (hcharset : t.charset = .utf8)
    (hname : ∀ p ∈ pairs, IsWhole char p.1 ∧ p.1 ≠ [])
    (hvalue : ∀ p ∈ pairs, IsWhole char' p.2 ∧ Text.hasInk p.2 = true)
    (hnew : (t.queries.map (·.name.source) ++ pairs.map (·.1)).Nodup) :
    ∃ qs, List.Forall₂ IsParameter pairs qs ∧
      t.withQueryPairs (pairs.map fun p => (p.1, some p.2))
        = .ok { t with queries := t.queries ++ qs } := by
  induction pairs generalizing t with
  | nil => exact ⟨[], .nil, by rw [List.append_nil]; rfl⟩
  | cons p pairs ih =>
      obtain ⟨⟨hn, hne⟩, hnames⟩ := List.forall_mem_cons.mp hname
      obtain ⟨⟨hv, hink⟩, hvalues⟩ := List.forall_mem_cons.mp hvalue
      obtain ⟨q, hq, hparameter⟩ :=
        exists_create_parameter hne hn hv hink (t.format.getD .exploded) t.keepsSlashes
      have hp : p.1 ∉ t.queries.map (·.name.source) := fun hmem =>
        (List.nodup_append.mp hnew).2.2 _ hmem _ (by simp) rfl
      have hquery : t.withQuery p.1 [some p.2] = .ok { t with queries := t.queries ++ [q] } := by
        rw [withQuery, if_neg hne, if_neg (List.cons_ne_nil _ _), addQuery_of_notMem hp, bind_ok,
          hcharset]
        simp only [Bool.false_eq_true, if_false, hq, bind_ok]
      obtain ⟨qs, hqs, hrest⟩ := @ih { t with queries := t.queries ++ [q] } hcharset hnames hvalues
        (by simpa [hparameter.1] using hnew)
      refine ⟨q :: qs, .cons hparameter hqs, ?_⟩
      rw [List.map_cons, withQueryPairs, hquery, bind_ok, hrest]
      simp

/-! ### The texts of the values -/

/-- No value in the pairs of a query string holds an ampersand. -/
theorem ampersand_notMem_queryPairs {line : Text} :
    ∀ p ∈ queryPairs line, ∀ v, p.2 = some v → '&' ∉ v := by
  intro p hp v hv
  obtain ⟨piece, hpiece, hpair⟩ := List.mem_filterMap.mp hp
  have hclean : '&' ∉ piece := Text.notMem_of_mem_pieces hpiece
  simp only [queryPair?] at hpair
  split at hpair
  · exact absurd hpair (by simp)
  rw [← Option.some.inj hpair] at hv
  obtain ⟨value, hvalue, hv⟩ := Option.bind_eq_some_iff.mp hv
  split at hv
  · exact absurd hv (by simp)
  obtain rfl : value = v := Option.some.inj hv
  rw [Text.cut_eq '=' piece, hvalue] at hclean
  exact fun hmem => hclean (List.mem_append_right _ (List.mem_cons_of_mem _ hmem))

/-- No value of a parameter that a query string is made into holds an ampersand. -/
theorem ampersand_notMem_withQueryLine {line : Text} (ht : t.queries = [])
    (hu : t.withQueryLine line = .ok u) : ∀ q ∈ u.queries, ∀ v ∈ q.valueTexts, '&' ∉ v := by
  have hgiven : ∀ {values : List (Option Text)} {v : Text}, v ∈ QueryTemplate.given values →
      some v ∈ values := by
    intro values v hv
    have hmem := (List.mem_filter.mp hv).1
    simpa using hmem
  -- All texts come from the pairs, of which one more is added in each step.
  have hpairs : ∀ {pairs : List (Text × Option Text)} {t : RequestTemplate},
      (∀ p ∈ pairs, ∀ v, p.2 = some v → '&' ∉ v) →
      (∀ q ∈ t.queries, ∀ v ∈ q.valueTexts, '&' ∉ v) → t.withQueryPairs pairs = .ok u →
      ∀ q ∈ u.queries, ∀ v ∈ q.valueTexts, '&' ∉ v := by
    intro pairs
    induction pairs with
    | nil =>
        intro t _ ht hu
        rwa [← Except.ok.inj hu]
    | cons p pairs ih =>
        intro t hpairs ht hu
        obtain ⟨hp, hpairs⟩ := List.forall_mem_cons.mp hpairs
        obtain ⟨w, hw, hu⟩ := bind_eq_ok_iff.mp hu
        refine ih hpairs (withQuery_forall (fun q q' hq hq' => ?_) (fun q hq => ?_) ht hw) hu
        · rw [(QueryTemplate.create_fields hq').2.1]
          intro v hv
          obtain ⟨w, hw, hwv⟩ := List.mem_map.mp (hgiven hv)
          obtain rfl : w = v := Option.some.inj hwv
          rcases List.mem_append.mp hw with hw | hw
          · exact hq w hw
          · exact hp w (List.mem_singleton.mp (hgiven hw)).symm
        · rw [(QueryTemplate.create_fields hq).2.1]
          intro v hv
          exact hp v (List.mem_singleton.mp (hgiven hv)).symm
  exact hpairs ampersand_notMem_queryPairs (by simp [ht]) hu

/-! ### Setting a URI -/

section InlineQuery

variable {i : InlineQuery} (hi : i.IsSound)

include hi

/-- The path is set, and the query string taken apart. -/
theorem exists_withUri_text (hcharset : t.charset = .utf8) :
    ∃ uri : UriTemplate, uri.base.expressions = expressionsIn i.path ∧
      t.withUri i.text = ({ t with uri } : RequestTemplate).withQueryLine i.line := by
  have hsplit : splitQuery i.text = .ok (i.path, i.line) := by
    rw [splitQuery, InlineQuery.text, UriTemplate.queryDelimiter?_append_mark hi.path, bind_ok]
    simp
  -- A slash in front of the path is no expression.
  obtain ⟨hwhole, hexpressions⟩ : IsWhole (· ≠ '?') (t.pathSource i.path false) ∧
      expressionsIn (t.pathSource i.path false) = expressionsIn i.path := by
    rw [pathSource, if_neg (by simp)]
    split
    · exact ⟨hi.path, rfl⟩
    · exact ⟨hi.path.cons (by decide) (by decide), Token.expressionsIn_cons (by decide) _⟩
  obtain ⟨uri, huri, hpath⟩ := UriTemplate.exists_create_of_isWhole hwhole (!t.keepsSlashes)
  rw [pathSource, if_neg (by simp)] at huri
  refine ⟨uri, hpath.trans hexpressions, ?_⟩
  rw [withUri, hi.relative, if_neg (by simp), hsplit, bind_ok]
  simp only [Bool.false_eq_true, if_false, hcharset, huri, bind_ok]
  split
  · next hline => rw [hline, withQueryLine_nil]
  · rfl

/-- The parameters of a query string without an ampersand in a value. -/
theorem exists_withUri_parameters (hcharset : t.charset = .utf8) (hqueries : t.queries = [])
    (hvalue : ∀ p ∈ i.pairs, '&' ∉ p.2) :
    ∃ (uri : UriTemplate) (queries : List QueryTemplate),
      uri.base.expressions = expressionsIn i.path ∧ List.Forall₂ IsParameter i.pairs queries ∧
      t.withUri i.text = .ok { t with uri, queries } := by
  obtain ⟨uri, hpath, hset⟩ := exists_withUri_text hi hcharset
  obtain ⟨qs, hqs, hadd⟩ := exists_withQueryPairs (t := { t with uri }) i.pairs hcharset
    (fun p hp => ⟨(hi.name p hp).1, (hi.name p hp).2.1⟩) hi.value
    (by simpa [hqueries] using hi.nodup)
  refine ⟨uri, qs, hpath, hqs, ?_⟩
  rw [hset, withQueryLine, hi.queryPairs_line hvalue, hadd]
  simp [hqueries]

/-- **The query string of a URI becomes the parameters that were written exactly if no value holds an
ampersand**, be it in an expression. Then the template has the variables of the URI. -/
theorem withUri_inlineQuery_iff (f : Option CollectionFormat) (d : Option Bool) :
    ((∃ t, (initial .utf8 f d).withUri i.text = .ok t ∧
        t.queries.map (fun q => (q.name.source, q.valueTexts)) =
          i.pairs.map fun p => (p.1, [p.2])) ↔
      ∀ p ∈ i.pairs, '&' ∉ p.2) ∧
    ((∀ p ∈ i.pairs, '&' ∉ p.2) → ∃ t x, (initial .utf8 f d).withUri i.text = .ok t ∧
      UriTemplate.create i.text = .ok x ∧
      t.variableNames = HeaderTemplate.distinct x.variableNames) := by
  refine ⟨⟨?_, fun hvalue => ?_⟩, fun hvalue => ?_⟩
  · rintro ⟨t, ht, hqueries⟩ p hp
    obtain ⟨uri, -, hset⟩ := exists_withUri_text (t := initial .utf8 f d) hi rfl
    rw [hset] at ht
    have hmem : (p.1, [p.2]) ∈ t.queries.map fun q => (q.name.source, q.valueTexts) := by
      rw [hqueries]
      exact List.mem_map_of_mem hp
    obtain ⟨q, hq, heq⟩ := List.mem_map.mp hmem
    have htexts : q.valueTexts = [p.2] := (Prod.ext_iff.mp heq).2
    exact ampersand_notMem_withQueryLine rfl ht q hq p.2 (by simp [htexts])
  · obtain ⟨uri, qs, -, hqs, hset⟩ :=
      exists_withUri_parameters (t := initial .utf8 f d) hi rfl rfl hvalue
    exact ⟨_, hset, (parameters_eq hqs).1⟩
  · obtain ⟨uri, qs, hpath, hqs, hset⟩ :=
      exists_withUri_parameters (t := initial .utf8 f d) hi rfl rfl hvalue
    obtain ⟨x, hx, hexpressions⟩ := UriTemplate.exists_create_of_isWhole hi.text_whole.1 true
    refine ⟨_, x, hset, hx, ?_⟩
    have hnames : x.variableNames = uri.variableNames ++ qs.flatMap (·.variableNames) := by
      rw [UriTemplate.variableNames, Template.variableNames, hexpressions, hi.text_whole.2,
        hi.line_whole.2, List.map_append, (parameters_eq hqs).2, ← hpath]
      rfl
    rw [hnames, variableNames]
    simp [initial]

end InlineQuery

/-- A URI whose expressions hold question marks and equals signs. -/
def patternQuery : InlineQuery where
  path := "/p/\x7ba:x?y\x7d"
  pairs := [("q", "\x7bb:k=v?w\x7d"), ("n\x7bc\x7d", "1-\x7b+d\x7d")]

/-- The two parameters are those that were written. -/
theorem withUri_patternQuery : ∃ t x,
    (initial .utf8 (some .exploded) (some true)).withUri patternQuery.text = .ok t ∧
    t.queries.map (fun q => (q.name.source, q.valueTexts)) =
      [("q".toList, ["\x7bb:k=v?w\x7d".toList]), ("n\x7bc\x7d".toList, ["1-\x7b+d\x7d".toList])] ∧
    UriTemplate.create patternQuery.text = .ok x ∧
    t.variableNames = HeaderTemplate.distinct x.variableNames ∧
    t.variableNames = ["a".toList, "b".toList, "c".toList, "d".toList] := by
  have hsound : patternQuery.IsSound := by
    constructor <;> decide +kernel
  have hvalue : ∀ p ∈ patternQuery.pairs, '&' ∉ p.2 := by decide
  obtain ⟨t, ht, hqueries⟩ :=
    (withUri_inlineQuery_iff hsound (some .exploded) (some true)).1.mpr hvalue
  obtain ⟨t', x, ht', hx, hnames⟩ :=
    (withUri_inlineQuery_iff hsound (some .exploded) (some true)).2 hvalue
  obtain rfl : t = t' := Except.ok.inj (ht.symm.trans ht')
  have hvariables : ((initial .utf8 (some .exploded) (some true)).withUri
      patternQuery.text).toOption.any (fun t =>
        t.variableNames = ["a".toList, "b".toList, "c".toList, "d".toList]) = true := by
    decide +kernel
  rw [ht] at hvariables
  exact ⟨t, x, ht, hqueries, hx, hnames, of_decide_eq_true hvariables⟩

/-- A URI with an ampersand in front of the name of a variable. -/
def operatorQuery : InlineQuery where
  path := "/p"
  pairs := [("a", "\x7b&x\x7d")]

/-- The query string need not become the parameters that were written. -/
theorem not_withUri_operatorQuery : ¬ ∀ i : InlineQuery, i.IsSound →
    ∃ t, (initial .utf8 (some .exploded) (some true)).withUri i.text = .ok t ∧
      t.queries.map (fun q => (q.name.source, q.valueTexts)) = i.pairs.map fun p => (p.1, [p.2]) := by
  intro h
  have hsound : operatorQuery.IsSound := by
    constructor <;> decide +kernel
  have hrun : ((initial .utf8 (some .exploded) (some true)).withUri
      operatorQuery.text).toOption.any (fun t =>
        t.queries.map (fun q => (q.name.source, q.valueTexts)) =
          [("a".toList, ["\x7b".toList]), ("x\x7d".toList, [])]) = true := by
    decide +kernel
  obtain ⟨t, ht, hqueries⟩ := h operatorQuery hsound
  rw [ht] at hrun
  have hcut := of_decide_eq_true hrun
  rw [hqueries] at hcut
  exact absurd hcut (by decide)

end RequestTemplate

end HttpTemplates
