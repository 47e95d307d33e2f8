import HttpTemplates.Proofs.Request.Accumulation
import HttpTemplates.Proofs.Request.Path
import HttpTemplates.Proofs.Template.Slashes

/-!
# The slash setting

Whether slashes in values stay as they are may be chosen **before or after everything else is
built** (`RequestTemplate.run_decodeSlash`). A template is parsed alike under both settings, so a
run of calls from a template with another setting gives what it would have given, with that setting
(`run_withSlashes`). Choosing the setting at the end of a run creates the path and the queries
again, and this changes nothing but the setting either: the path is a parsed path, and every query
parameter is created by what it shows (`withDecodeSlash_eq`).
-/

namespace HttpTemplates

theorem Charset.orUtf8_orUtf8 (c : Charset) : c.orUtf8.orUtf8 = c.orUtf8 := by
  by_cases h : c.name.getD [] = []
  · have hutf8 : c.orUtf8 = utf8 := if_pos h
    rw [hutf8]
    rfl
  · have hself : c.orUtf8 = c := if_neg h
    rw [hself, hself]

/-! ### Parsing under both settings -/

namespace QueryTemplate

/-- The parameter with another slash setting. -/
def withDecodeSlash (q : QueryTemplate) (decodeSlash : Bool) : QueryTemplate :=
  { q with values := q.values.map (·.withEncodeSlash (!decodeSlash)), decodeSlash }

/-- A parameter as it comes out of a call. -/
def IsCreated (q : QueryTemplate) : Prop :=
  ∃ name values c f keep, create name values c f keep = .ok q

variable {q : QueryTemplate} {c : Charset} {f : CollectionFormat}

theorem valueTexts_withDecodeSlash (q : QueryTemplate) (keep : Bool) :
    (q.withDecodeSlash keep).valueTexts = q.valueTexts := by
  simp [valueTexts, withDecodeSlash, Template.withEncodeSlash]

theorem parseAll_withEncodeSlash (c : Charset) (old keep : Bool) (texts : List Text) :
    parseAll (valueSettings c keep) texts
      = (parseAll (valueSettings c old) texts).map (·.map (·.withEncodeSlash (!keep))) := by
  induction texts with
  | nil => rfl
  | cons v texts ih =>
      refine map_bind_eq_map_bind
        (Template.parse_withEncodeSlash v (valueSettings c old) (!keep)) fun t => ?_
      exact map_bind_eq_map_bind ih fun _ => rfl

/-- A parameter is created alike under both settings. -/
theorem create_withDecodeSlash (name : Text) (values : List (Option Text)) (c : Charset)
    (f : CollectionFormat) (old keep : Bool) :
    create name values c f keep = (create name values c f old).map (·.withDecodeSlash keep) := by
  unfold create
  split
  · rfl
  refine bind_eq_map_bind fun n => ?_
  exact map_bind_eq_map_bind (parseAll_withEncodeSlash c.orUtf8 old keep _) fun _ => rfl

theorem append_withDecodeSlash (q : QueryTemplate) (values : List (Option Text))
    (f : Option CollectionFormat) (old keep : Bool) :
    (q.withDecodeSlash keep).append values f keep
      = (q.append values f old).map (·.withDecodeSlash keep) := by
  rw [append, append, valueTexts_withDecodeSlash, ← create_withDecodeSlash]
  rfl

/-- A parameter may be created again with whatever setting: it has the same name and values. -/
theorem IsCreated.create_eq (h : q.IsCreated) (keep : Bool) :
    create q.name.source (q.valueTexts.map some) q.charset q.format keep
      = .ok (q.withDecodeSlash keep) := by
  obtain ⟨name, values, c, f, old, hq⟩ := h
  obtain ⟨hname, hvalues, hcharset, hformat, -⟩ := create_fields hq
  -- Blank values are gone already, and the charset has a name.
  have hagain : create name ((given values).map some) c.orUtf8 f keep
      = create name values c f keep := by
    rw [create_congr (given_given values)]
    simp only [create, Charset.orUtf8_orUtf8]
  rw [hname, hvalues, hcharset, hformat, hagain, create_withDecodeSlash name values c f old keep, hq]
  rfl

end QueryTemplate

namespace UriTemplate

/-- The template with other settings. -/
def withSettings (u : UriTemplate) (s : Template.Settings) : UriTemplate :=
  ⟨{ u.base with settings := s }⟩

/-- A template is created alike under both settings. -/
theorem create_withSettings (source : Text) (c : Charset) (old encodeSlash : Bool) :
    create source c encodeSlash
      = (create source c old).map (·.withSettings (settings c encodeSlash)) :=
  bind_eq_map_bind fun _ => rfl

end UriTemplate

/-! ### Calls under another setting -/

namespace RequestTemplate

open Change (updateWhere_map)
open UriTemplate (IsParsedPath)

/-- The template with another slash setting in the path and in all query parameters. -/
def withSlashes (t : RequestTemplate) (flag : Option Bool) : RequestTemplate :=
  { t with
    decodeSlash := flag
    uri := t.uri.withSettings (UriTemplate.settings t.charset (!flag.getD false))
    queries := t.queries.map (·.withDecodeSlash (flag.getD false)) }

section Commute

variable (t : RequestTemplate) (flag : Option Bool)

theorem addQuery_withSlashes (name : Text) (values : List (Option Text))
    (qs : List QueryTemplate) :
    (t.withSlashes flag).addQuery name values (qs.map (·.withDecodeSlash (flag.getD false)))
      = (t.addQuery name values qs).map
          fun r => (r.1.map (·.withDecodeSlash (flag.getD false)), r.2) := by
  rw [addQuery_eq_updateWhere, addQuery_eq_updateWhere]
  refine updateWhere_map ?_ ?_ qs
  · intro q
    rfl
  · intro q
    exact q.append_withDecodeSlash values t.format t.keepsSlashes _

theorem withQuery_withSlashes (name : Text) (values : List (Option Text)) :
    (t.withSlashes flag).withQuery name values
      = (t.withQuery name values).map (·.withSlashes flag) := by
  unfold withQuery
  split
  · rfl
  split
  · -- Removing a parameter looks at its name.
    have hfilter : (t.withSlashes flag).queries.filter (fun q => q.name.source ≠ name)
        = (t.queries.filter fun q => q.name.source ≠ name).map
            (·.withDecodeSlash (flag.getD false)) :=
      List.filter_map ..
    rw [hfilter]
    rfl
  refine map_bind_eq_map_bind (addQuery_withSlashes t flag name values t.queries) fun r => ?_
  obtain ⟨qs, found⟩ := r
  cases found with
  | true => rfl
  | false =>
      refine map_bind_eq_map_bind
        (QueryTemplate.create_withDecodeSlash name values t.charset _ t.keepsSlashes _)
        fun q => ?_
      have hlast : qs.map (·.withDecodeSlash (flag.getD false))
          ++ [q.withDecodeSlash (flag.getD false)]
            = (qs ++ [q]).map (·.withDecodeSlash (flag.getD false)) := by
        simp
      exact congrArg (fun queries => Except.ok { t.withSlashes flag with queries }) hlast

theorem withQueryLine_withSlashes (line : Text) :
    (t.withSlashes flag).withQueryLine line
      = (t.withQueryLine line).map (·.withSlashes flag) :=
  withQueryLine_map (fun t => withQuery_withSlashes t flag) t line

theorem withHeader_withSlashes (name : Text) (values : List (Option Text)) :
    (t.withSlashes flag).withHeader name values
      = (t.withHeader name values).map (·.withSlashes flag) :=
  withHeader_map (g := (·.withSlashes flag)) (fun _ => rfl) (fun _ => rfl) (fun _ _ => rfl) t name
    values

theorem withTarget_withSlashes (url : Text) :
    (t.withSlashes flag).withTarget url = (t.withTarget url).map (·.withSlashes flag) :=
  withTarget_map (fun t => withQuery_withSlashes t flag) (fun _ _ => rfl) t url

theorem withUri_withSlashes (text : Text) (append : Bool) :
    (t.withSlashes flag).withUri text append
      = (t.withUri text append).map (·.withSlashes flag) := by
  unfold withUri
  split
  · rfl
  refine bind_eq_map_bind fun p => ?_
  obtain ⟨path, line⟩ := p
  refine map_bind_eq_map_bind
    (UriTemplate.create_withSettings _ t.charset (!t.keepsSlashes) (!flag.getD false)) fun uri => ?_
  dsimp only
  split
  · rfl
  · exact withQueryLine_withSlashes { t with uri } flag line

end Commute

variable {t u : RequestTemplate} {flag : Option Bool}

/-- **A call does under another slash setting what it does under this one**, unless it sets it. -/
theorem apply_withSlashes {call : Call} (hcall : ∀ flag', call ≠ .decodeSlash flag')
    (t : RequestTemplate) (flag : Option Bool) :
    call.apply (t.withSlashes flag) = (call.apply t).map (·.withSlashes flag) := by
  cases call with
  | method m =>
      show withMethod _ m = (withMethod t m).map _
      unfold withMethod
      split <;> rfl
  | target url => exact withTarget_withSlashes t flag url
  | uri text append => exact withUri_withSlashes t flag text append
  | query name values => exact withQuery_withSlashes t flag name values
  | header name values => exact withHeader_withSlashes t flag name values
  | body bytes => rfl
  | textBody text => exact bind_eq_map_bind fun _ => rfl
  | bodyTemplate text => exact bind_eq_map_bind fun _ => rfl
  | format f => rfl
  | decodeSlash flag' => exact absurd rfl (hcall flag')

theorem run_withSlashes {calls : List Call} (hcalls : ∀ flag', .decodeSlash flag' ∉ calls)
    (t : RequestTemplate) (flag : Option Bool) :
    (t.withSlashes flag).run calls = (t.run calls).map (·.withSlashes flag) := by
  induction calls generalizing t with
  | nil => rfl
  | cons call calls ih =>
      have hcall : ∀ flag', call ≠ .decodeSlash flag' := by
        rintro flag' rfl
        exact hcalls flag' (List.mem_cons_self ..)
      have hrest : ∀ flag', .decodeSlash flag' ∉ calls := fun flag' hmem =>
        hcalls flag' (List.mem_cons_of_mem _ hmem)
      exact map_bind_eq_map_bind (apply_withSlashes hcall t flag) fun u => ih hrest u

/-! ### Queries that calls create -/

theorem withQuery_isCreated {name : Text} {values : List (Option Text)}
    (ht : ∀ q ∈ t.queries, q.IsCreated) (h : t.withQuery name values = .ok u) :
    ∀ q ∈ u.queries, q.IsCreated :=
  withQuery_forall (fun _ _ _ happend => ⟨_, _, _, _, _, happend⟩)
    (fun _ hcreate => ⟨_, _, _, _, _, hcreate⟩) ht h

theorem withQueryLine_isCreated {line : Text} (ht : ∀ q ∈ t.queries, q.IsCreated)
    (h : t.withQueryLine line = .ok u) : ∀ q ∈ u.queries, q.IsCreated := by
  unfold withQueryLine at h
  generalize queryPairs line = pairs at h
  induction pairs generalizing t with
  | nil => rwa [← Except.ok.inj h]
  | cons p pairs ih =>
      obtain ⟨v, hv, h⟩ := bind_eq_ok_iff.mp h
      exact ih (withQuery_isCreated ht hv) h

/-- Every query parameter with another slash setting. -/
theorem recreateQueries_eq_ok {keep : Bool} {qs : List QueryTemplate}
    (hqs : ∀ q ∈ qs, q.IsCreated) :
    recreateQueries keep qs = .ok (qs.map (·.withDecodeSlash keep)) := by
  induction qs with
  | nil => rfl
  | cons q qs ih =>
      obtain ⟨hq, hqs⟩ := List.forall_mem_cons.mp hqs
      rw [recreateQueries, hq.create_eq keep, bind_ok, ih hqs]
      rfl

theorem apply_isCreated {call : Call} (ht : ∀ q ∈ t.queries, q.IsCreated)
    (h : call.apply t = .ok u) : ∀ q ∈ u.queries, q.IsCreated := by
  cases call with
  | query name values => exact withQuery_isCreated ht h
  | target url =>
      refine withQueryLine_isCreated ?_ (withTarget_eq_ok h)
      exact ht
  | uri text append =>
      obtain ⟨path, line, uri, -, -, hline⟩ := withUri_eq_ok h
      refine withQueryLine_isCreated ?_ hline
      exact ht
  | decodeSlash flag =>
      obtain ⟨uri, queries, -, hqueries, rfl⟩ := withDecodeSlash_eq_ok h
      rw [recreateQueries_eq_ok ht] at hqueries
      rw [← Except.ok.inj hqueries]
      intro q hq
      obtain ⟨q', hq', rfl⟩ := List.mem_map.mp hq
      exact ⟨_, _, _, _, _, (ht q' hq').create_eq _⟩
  | _ =>
      rw [((apply_frame h).url rfl).2.2]
      exact ht

theorem run_isCreated {calls : List Call} (ht : ∀ q ∈ t.queries, q.IsCreated)
    (h : t.run calls = .ok u) : ∀ q ∈ u.queries, q.IsCreated := by
  refine run_invariant (P := fun v => ∀ q ∈ v.queries, q.IsCreated) h ht ?_
  intro call _ v w _ hv hw
  exact apply_isCreated hv hw

/-! ### The setting at the end of a run -/

/-- Two templates are the same, but for the texts that their paths were parsed from. -/
structure SameParts (t u : RequestTemplate) : Prop where
  /-- The chunks of the paths are the same. -/
  chunks : u.uri.base.chunks = t.uri.base.chunks
  /-- So are the settings of the paths. -/
  settings : u.uri.base.settings = t.uri.base.settings
  /-- So is everything else. -/
  rest : u = { t with uri := u.uri }

/-- The text that a path was parsed from has no part in its expansion. -/
theorem SameParts.resolve_eq (h : SameParts t u) (vars : Variables) :
    u.resolve vars = (t.resolve vars).map fun r => { r with uri := u.uri } := by
  obtain ⟨hchunks, hsettings, hrest⟩ := h
  have hpath : u.uri.expand vars = t.uri.expand vars := by
    rw [UriTemplate.expand, UriTemplate.expand, Template.expand, Template.expand, hchunks,
      hsettings]
  -- The path of `u` is all that `t` does not have.
  generalize u.uri = uri at hpath hrest
  subst hrest
  unfold resolve
  rw [hpath]
  refine bind_eq_map_bind fun path => bind_eq_map_bind fun parameters => ?_
  exact bind_eq_map_bind fun headers => bind_eq_map_bind fun body => rfl

/-- Choosing the setting changes nothing else if the path is a parsed path. -/
theorem withDecodeSlash_eq {k : Codec} (hc : t.charset.orUtf8.codec = .ok k)
    (hk : k.IsAsciiCompatible) (hpath : IsParsedPath k t.uri.base.chunks)
    (hqueries : ∀ q ∈ t.queries, q.IsCreated) (flag : Option Bool) :
    ∃ u, t.withDecodeSlash flag = .ok u ∧ SameParts u (t.withSlashes flag) := by
  have hcreate := UriTemplate.create_toText hc hk hpath (!flag.getD false)
  have hrecreate : recreateQueries (flag.getD false) t.queries
      = .ok (t.queries.map (·.withDecodeSlash (flag.getD false))) := recreateQueries_eq_ok hqueries
  have hok : t.withDecodeSlash flag = .ok { t.withSlashes flag with
      uri := ⟨⟨t.uri.toText, UriTemplate.settings t.charset (!flag.getD false),
        t.uri.base.chunks⟩⟩ } :=
    bind_eq_ok_iff.mpr ⟨_, hcreate, bind_eq_ok_iff.mpr ⟨_, hrecreate, rfl⟩⟩
  exact ⟨_, hok, rfl, rfl, rfl⟩

/-- **The slash setting may be chosen before or after the rest.** Let a run of calls set no slash
setting and be given well-formed paths only. If it fails, then it fails in the same way with the
setting in front of it or behind it. Otherwise both succeed and give the same parts, which are those
of the run alone with the setting changed, and so the same results for all variables. -/
theorem run_decodeSlash {c : Charset} {f : Option CollectionFormat} {d : Option Bool}
    {calls : List Call} (hc : c.orUtf8.IsAsciiCompatible)
    (hflag : ∀ flag', .decodeSlash flag' ∉ calls) (hcalls : ∀ call ∈ calls, call.IsWellFormed)
    (flag : Option Bool) :
    (∀ e, (initial c f d).run calls = .error e →
      (initial c f d).run (calls ++ [.decodeSlash flag]) = .error e ∧
      (initial c f d).run (.decodeSlash flag :: calls) = .error e) ∧
    (∀ v, (initial c f d).run calls = .ok v → ∃ t u,
      (initial c f d).run (calls ++ [.decodeSlash flag]) = .ok t ∧
      (initial c f d).run (.decodeSlash flag :: calls) = .ok u ∧
      u = v.withSlashes flag ∧ SameParts t u ∧
      ∀ vars, u.resolve vars = (t.resolve vars).map fun r => { r with uri := u.uri }) := by
  obtain ⟨k, hcodec, hk⟩ := hc
  -- In front the setting is carried through the run, behind it everything is created again.
  have hfront : (initial c f d).run (.decodeSlash flag :: calls)
      = ((initial c f d).run calls).map (·.withSlashes flag) :=
    run_withSlashes hflag (initial c f d) flag
  have hbehind : (initial c f d).run (calls ++ [.decodeSlash flag])
      = (initial c f d).run calls >>= fun v => v.run [.decodeSlash flag] :=
    run_append _ _ _
  constructor
  · intro e he
    rw [hfront, hbehind, he]
    exact ⟨rfl, rfl⟩
  · intro v hv
    have hcharset : v.charset.orUtf8.codec = .ok k := by
      rw [run_charset hv]
      exact hcodec
    have hpath : IsParsedPath k v.uri.base.chunks :=
      run_parsedPath hcodec hk hcalls (UriTemplate.isParsedPath_nil k) hv
    have hqueries : ∀ q ∈ v.queries, q.IsCreated := run_isCreated (by simp [initial]) hv
    obtain ⟨t, ht, hsame⟩ := withDecodeSlash_eq hcharset hk hpath hqueries flag
    have hlast : (initial c f d).run (calls ++ [.decodeSlash flag]) = .ok t :=
      run_snoc.mpr ⟨v, hv, ht⟩
    refine ⟨t, v.withSlashes flag, hlast, ?_, rfl, hsame, hsame.resolve_eq⟩
    rw [hfront, hv]
    rfl

/-- Calls that set a path with an expression, append to it and add queries and a header. -/
def orders : List Call := [
  .target "http://api.example.com?verbose=1",
  .uri "/orders/\x7bid\x7d" false,
  .query "q" [some "\x7bq\x7d", some "all"],
  .uri "/items/\x7bitem\x7d?tag=\x7btag\x7d" true,
  .format (some .csv),
  .header "X-Order" [some "\x7bid\x7d"]]

/-- Variables with slashes in their values. -/
def orderVariables : Variables :=
  ⟨[("id", .text "2024/7"), ("item", .int 3), ("q", .text "a/b")]⟩

/-- The slashes in the values of an order are encoded, wherever this is chosen. -/
theorem run_decodeSlash_orders : ∃ t u,
    (initial .utf8 (some .exploded) (some true)).run (orders ++ [.decodeSlash (some false)])
      = .ok t ∧
    (initial .utf8 (some .exploded) (some true)).run (.decodeSlash (some false) :: orders)
      = .ok u ∧ SameParts t u ∧
    ∃ r, t.resolve orderVariables = .ok r ∧
      u.resolve orderVariables = .ok { r with uri := u.uri } ∧
      r.resolution = some ⟨"http://api.example.com/orders/2024%2F7/items/3?verbose=1&q=a%2Fb&q=all",
        [("X-Order", ["2024/7"])]⟩ := by
  have hrun : ((initial .utf8 (some .exploded) (some true)).run orders).toOption.any
      (fun _ => true) = true := by
    decide +kernel
  obtain ⟨v, hv, -⟩ := exists_ok_of_any hrun
  have hflag : ∀ flag', .decodeSlash flag' ∉ orders := by simp [orders]
  have hcalls : ∀ call ∈ orders, call.IsWellFormed := by decide +kernel
  obtain ⟨-, hok⟩ :=
    run_decodeSlash (c := .utf8) Charset.isAsciiCompatible_utf8 hflag hcalls (some false)
  obtain ⟨t, u, ht, hu, -, hsame, hresolve⟩ := hok v hv
  have hresult : ((initial .utf8 (some .exploded) (some true)).run
      (orders ++ [.decodeSlash (some false)])).toOption.any (fun t =>
        (t.resolve orderVariables).toOption.any fun r => r.resolution = some
          ⟨"http://api.example.com/orders/2024%2F7/items/3?verbose=1&q=a%2Fb&q=all",
            [("X-Order", ["2024/7"])]⟩) = true := by
    decide +kernel
  obtain ⟨t', ht', hresult⟩ := exists_ok_of_any hresult
  obtain rfl : t = t' := Except.ok.inj (ht.symm.trans ht')
  obtain ⟨r, hr, hresolution⟩ := exists_ok_of_any hresult
  refine ⟨t, u, ht, hu, hsame, r, hr, ?_, of_decide_eq_true hresolution⟩
  rw [hresolve, hr]
  rfl

end RequestTemplate

end HttpTemplates
