import HttpTemplates.Proofs.Query.Literal
import HttpTemplates.Proofs.Request.InlineQuery
import HttpTemplates.Proofs.Request.UrlParts

/-!
# Literal query strings in a URI

A parameter that is written in a URI without expressions is resolved without looking at the
variables. **It is read back as it was written if and only if its value holds no comma**
(`RequestTemplate.resolve_literalQuery`): a comma is taken for one between the elements of a list, so
the value becomes several parameters of the same name, or none if it is made of commas only.
-/

namespace HttpTemplates

open Percent (isUnreserved isPathSafe)
open QueryTemplate (IsVerbatim valuesOf)

/-! ### Plain paths -/

/-- A path that is its own encoding: slashes and unreserved characters behind a slash. -/
structure IsPlainPath (p : Text) : Prop where
  slash : p.head? = some '/'
  char : ∀ x ∈ p, isUnreserved x = true ∨ x = '/'

namespace IsPlainPath

variable {p : Text} (hp : IsPlainPath p)

include hp

theorem notMem {x : Char} (hx : isUnreserved x = false) (hslash : x ≠ '/') : x ∉ p := fun hmem =>
  (hp.char x hmem).elim (fun h => by simp [hx] at h) hslash

theorem keeps : ∀ x ∈ p, Percent.keeps isPathSafe x = true := fun x hx => by
  rcases hp.char x hx with h | rfl
  · exact Percent.keeps_of_isUnreserved isPathSafe h
  · decide

/-- It is parsed as a single literal, which expands to itself. -/
theorem exists_create {c : Charset} {k : Codec} (hc : c.codec = .ok k)
    (hk : k.IsAsciiCompatible) (encodeSlash : Bool) :
    ∃ u, UriTemplate.create p c encodeSlash = .ok u ∧ ∀ vars, u.expand vars = .ok (some p) := by
  have hbrace : Token.openBrace ∉ p := hp.notMem (by decide) (by decide)
  have hne : p ≠ [] := by
    rintro rfl
    exact absurd hp.slash (by simp)
  have hdelimiter : UriTemplate.queryDelimiter? p = .ok none := by
    have hmark : '?' ∉ p := hp.notMem (by decide) (by decide)
    have hparse := Expression.parse_of_head fun hhead => hbrace (List.mem_of_head? hhead)
    have htokens : Token.tokenize p = [p] := by
      rw [Token.tokenize_literal hbrace, Token.flush, if_neg (by simp [hne]), List.reverse_reverse]
    rw [UriTemplate.queryDelimiter?, htokens, UriTemplate.findDelimiter, hparse, bind_ok,
      if_pos (by simp [hmark])]
    rfl
  have hencode : Percent.pathEncode c p = .ok p := by
    have hbytes : k.Encodes p :=
      Codec.encodes_of_ascii hk fun x hx => (Percent.keeps_iff.mp (hp.keeps x hx)).1
    rw [Percent.pathEncode, Percent.encodeUnlessEncoded_eq_quote hc hk hbytes
      (Percent.hasEscape_of_notMem (hp.notMem (by decide) (by decide))),
      Percent.quote_eq_self hk hp.keeps]
  have hchunks : UriTemplate.parseChunks c p = .ok (Chunk.literal? p).toList := by
    rw [UriTemplate.parseChunks, hdelimiter, bind_ok]
    exact Template.parseFragment_literal hbrace hencode hne
  have hsettings : (UriTemplate.settings c encodeSlash).charset = c := Charset.orUtf8_eq_self hc
  exact ⟨⟨⟨p, UriTemplate.settings c encodeSlash, (Chunk.literal? p).toList⟩⟩,
    by rw [UriTemplate.create, hsettings, hchunks, bind_ok], Template.expand_literal? p _ p⟩

/-- A query string behind it is split off. -/
theorem splitQuery_append (line : Text) :
    RequestTemplate.splitQuery (p ++ '?' :: line) = .ok (p, line) := by
  have hbrace := hp.notMem (x := Token.openBrace) (by decide) (by decide)
  have hwhole : Token.IsWhole (· ≠ '?') p := (Token.consists_literal hbrace).mpr
    fun x hx hmark => hp.notMem (x := '?') (by decide) (by decide) (hmark ▸ hx)
  rw [RequestTemplate.splitQuery, UriTemplate.queryDelimiter?_append_mark hwhole, bind_ok]
  simp

end IsPlainPath

namespace RequestTemplate

/-! ### The parameter of a literal query string -/

/-- The parameters in a query string: the two sides of each piece, decoded. There are none in the
empty one. -/
def readLine (c : Charset) (line : Text) : List (Except Error Text × Option (Except Error Text)) :=
  if line = [] then [] else (Text.pieces '&' line).map (CollectionFormat.readPair c)

/-- A name with each of several values. -/
def readings (n : Text) (ws : List Text) : List (Except Error Text × Option (Except Error Text)) :=
  ws.map fun w => (.ok n, some (.ok w))

theorem readings_inj {n : Text} {vs ws : List Text} : readings n vs = readings n ws ↔ vs = ws := by
  have hinj : Function.Injective fun w : Text =>
      ((.ok n, some (.ok w)) : Except Error Text × Option (Except Error Text)) := fun v w h => by
    simpa using h
  exact (List.map_injective_iff.mpr hinj).eq_iff

/-- The query string of a single exploded parameter says what the parameter says. -/
theorem readLine_of_reads {c : Charset} {n t : Text} {vs : List Text} (hne : vs ≠ [])
    (h : CollectionFormat.exploded.Reads c n vs t) : t ≠ [] ∧ readLine c t = readings n vs := by
  have hreads : (Text.pieces '&' t).map (CollectionFormat.readPair c) = readings n vs := h
  have ht : t ≠ [] := by
    rintro rfl
    obtain ⟨v, rest, rfl⟩ := List.exists_cons_of_ne_nil hne
    simp [readings, CollectionFormat.readPair] at hreads
  exact ⟨ht, by rw [readLine, if_neg ht, hreads]⟩

/-- The query string of a template with this one parameter says what the parameter says. -/
theorem exists_expandQueries_singleton {c : Charset} {n : Text} {vs : List Text}
    {q : QueryTemplate} {vars : Variables} {out : Option Text} (hq : q.expand vars = .ok out)
    (hnone : vs = [] → out = none)
    (hsome : vs ≠ [] → ∃ w, out = some w ∧ CollectionFormat.exploded.Reads c n vs w) :
    ∃ outs, expandQueries vars [q] = .ok outs ∧
      readLine c (['&'].intercalate outs) = readings n vs := by
  have hexpand : expandQueries vars [q]
      = .ok (if out.getD [] = [] then [] else [out.getD []]) := by
    simp only [expandQueries, hq, bind_ok]
  refine ⟨_, hexpand, ?_⟩
  by_cases hempty : vs = []
  · rw [hnone hempty, hempty]
    rfl
  · obtain ⟨w, rfl, hreads⟩ := hsome hempty
    obtain ⟨hne, hw⟩ := readLine_of_reads hempty hreads
    simp [hne, hw]

/-- A single pair is read from its own text. -/
theorem queryPairs_pair {n v : Text} (hne : n ≠ []) (hname : '=' ∉ n) (hn : '&' ∉ n) (hv : '&' ∉ v)
    (hvne : v ≠ []) : queryPairs (n ++ '=' :: v) = [(n, some v)] := by
  have hclean : '&' ∉ n ++ '=' :: v := by simp [hn, hv]
  rw [queryPairs, Text.pieces_of_not_mem hclean]
  simp [queryPair?, Text.cut_append hname, hne, hvne]

variable {t : RequestTemplate} {p n v : Text}

/-- The pair becomes the only parameter. -/
theorem withQueryLine_pair {q : QueryTemplate} (hqueries : t.queries = []) (hne : n ≠ [])
    (hname : '=' ∉ n ∧ '&' ∉ n) (hvne : v ≠ []) (hvalue : '&' ∉ v)
    (hq : QueryTemplate.create n [some v] t.charset (t.format.getD .exploded) t.keepsSlashes
      = .ok q) : t.withQueryLine (n ++ '=' :: v) = .ok { t with queries := [q] } := by
  rw [withQueryLine, queryPairs_pair hne hname.1 hname.2 hvalue hvne, withQueryPairs, withQuery,
    if_neg hne, if_neg (List.cons_ne_nil _ _), hqueries, addQuery, bind_ok]
  simp only [Bool.false_eq_true, if_false, hq, bind_ok, withQueryPairs, List.nil_append]

/-- The path and the parameter are set. Neither depends on the variables any more. -/
theorem exists_withUri_literal (hcharset : t.charset.IsAsciiCompatible) (hqueries : t.queries = [])
    (hp : IsPlainPath p) (hn : IsVerbatim t.charset n) (hname : '=' ∉ n ∧ '&' ∉ n)
    (hv : IsVerbatim t.charset v) (hvalue : '&' ∉ v) :
    ∃ (uri : UriTemplate) (q : QueryTemplate) (r : Option Text),
      t.withUri (p ++ '?' :: (n ++ '=' :: v)) = .ok { t with uri, queries := [q] } ∧
      (∀ vars, uri.expand vars = .ok (some p)) ∧ (∀ vars, q.expand vars = .ok r) ∧
      (valuesOf v = [] → r = none) ∧ (valuesOf v ≠ [] → ∃ w, r = some w ∧
        (t.format.getD .exploded).Reads t.charset n (valuesOf v) w) := by
  obtain ⟨k, hc, hk⟩ := hcharset
  obtain ⟨uri, huri, hpath⟩ := hp.exists_create hc hk (!t.keepsSlashes)
  obtain ⟨q, r, hq, hparameter, hnone, hsome⟩ := QueryTemplate.exists_create_literal ⟨k, hc, hk⟩
    (t.format.getD .exploded) t.keepsSlashes hn hv
  refine ⟨uri, q, r, ?_, hpath, hparameter, hnone, hsome⟩
  have hsplit := hp.splitQuery_append (n ++ '=' :: v)
  obtain ⟨rest, rfl⟩ := List.head?_eq_some_iff.mp hp.slash
  have hrelative : Percent.isAbsolute ('/' :: rest ++ '?' :: (n ++ '=' :: v)) = false := rfl
  have hbegins : beginsPath ('/' :: rest) = true := rfl
  rw [withUri, hrelative, if_neg Bool.false_ne_true, hsplit, bind_ok]
  simp only [Bool.false_eq_true, if_false, hbegins, if_true, huri, bind_ok]
  rw [if_neg (by simp)]
  exact withQueryLine_pair hqueries hn.ne_nil hname hv.ne_nil hvalue hq

/-- **A literal parameter in a URI is read back as it was written if and only if its value holds no
comma.** Setting the URI succeeds, and resolving does if the headers and the body can be expanded. -/
theorem resolve_literalQuery (hcharset : t.charset.IsAsciiCompatible)
    (hformat : t.format.getD .exploded = .exploded) (hqueries : t.queries = []) (hp : IsPlainPath p)
    (hn : IsVerbatim t.charset n) (hname : '=' ∉ n ∧ '&' ∉ n) (hv : IsVerbatim t.charset v)
    (hvalue : '&' ∉ v) (vars : Variables) :
    ∃ u line, t.withUri (p ++ '?' :: (n ++ '=' :: v)) = .ok u ∧
      readLine t.charset line = readings n (valuesOf v) ∧
      (readLine t.charset line = readings n [v] ↔ ',' ∉ v) ∧
      ((∃ r, u.resolve vars = .ok r) ↔ (∃ headers, expandHeaders vars t.headers = .ok headers) ∧
        ∃ body, t.expandBody vars = .ok body) ∧
      ∀ r, u.resolve vars = .ok r → r.url = joinUrl (t.target ++ p) line ∧
        ('?' ∉ t.target → IsCut r.url (t.target ++ p) line) := by
  obtain ⟨uri, q, out, hu, hpath, hparameter, hnone, hsome⟩ :=
    exists_withUri_literal hcharset hqueries hp hn hname hv hvalue
  rw [hformat] at hsome
  obtain ⟨outs, houts, hread⟩ := exists_expandQueries_singleton (hparameter vars) hnone hsome
  obtain ⟨line, hline⟩ : ∃ line, ['&'].intercalate outs = line := ⟨_, rfl⟩
  rw [hline] at hread
  have hurl : expandUrl { t with uri, queries := [q] } vars
      = .ok (joinUrl (t.target ++ p) line) := by
    simp only [expandUrl, hpath vars, houts, bind_ok, Option.getD_some, hline]
  have hmark : '?' ∉ t.target → '?' ∉ t.target ++ p := fun htarget hmem =>
    (List.mem_append.mp hmem).elim htarget (hp.notMem (by decide) (by decide))
  refine ⟨_, line, hu, hread, ?_, ?_, fun r hr => ?_⟩
  · rw [hread, readings_inj, QueryTemplate.valuesOf_eq_singleton_iff]
  · exact exists_resolve_iff hurl
  · obtain ⟨url, headers, body, hurl', -, -, rfl⟩ := resolve_eq_ok_iff.mp hr
    obtain rfl := Except.ok.inj (hurl.symm.trans hurl')
    exact ⟨rfl, fun htarget => (isCut_joinUrl_iff _ _).mpr (hmark htarget)⟩

/-- A template that nothing has been called on. -/
def plain : RequestTemplate :=
  initial .utf8 (some .exploded) (some true)

/-- Delimiters other than the comma come through, and so does a letter outside ASCII. -/
theorem resolve_literalQuery_delimiters : ∃ u line r,
    plain.withUri ("/p".toList ++ '?' :: ("q,".toList ++ '=' :: "x=1+2?/#é ;".toList)) = .ok u ∧
    u.resolve .empty = .ok r ∧ IsCut r.url "/p".toList line ∧
    readLine .utf8 line = readings "q,".toList ["x=1+2?/#é ;".toList] := by
  have hp : IsPlainPath "/p".toList :=
    ⟨rfl, List.forall_mem_cons.mpr ⟨.inr rfl, List.forall_mem_singleton.mpr (.inl rfl)⟩⟩
  have hn : IsVerbatim plain.charset "q,".toList :=
    ⟨by decide, by decide, by decide, Charset.canEncode_utf8 _⟩
  have hv : IsVerbatim plain.charset "x=1+2?/#é ;".toList :=
    ⟨by decide, by decide, by decide, Charset.canEncode_utf8 _⟩
  obtain ⟨u, line, hu, -, hread, hresolve, hurl⟩ := resolve_literalQuery
    Charset.isAsciiCompatible_utf8 rfl rfl hp hn (by decide) hv (by decide) .empty
  obtain ⟨r, hr⟩ := hresolve.mpr ⟨⟨[], rfl⟩, none, rfl⟩
  exact ⟨u, line, r, hu, hr, (hurl r hr).2 (by decide), hread.mpr (by decide)⟩

/-- A value of commas only is dropped. -/
example : (plain.withUri "/p?n=,").toOption.any (fun u =>
    (u.resolve .empty).toOption.any (·.url = "/p".toList)) = true := by
  decide +kernel

/-- A literal value need not be read back: `/p?n=a,b` is resolved to `/p?n=a&n=b`. -/
theorem not_readPair_literalQuery : ¬ ∀ (t : RequestTemplate) (n v : Text),
    t.charset.IsAsciiCompatible → t.format.getD .exploded = .exploded → t.queries = [] →
    IsVerbatim t.charset n → IsVerbatim t.charset v →
    Token.closeBrace ∉ n ++ v → '&' ∉ n ++ v → '=' ∉ n → '?' ∉ n →
    ∃ u r line, t.withUri ("/p".toList ++ '?' :: (n ++ '=' :: v)) = .ok u ∧
      u.resolve .empty = .ok r ∧ (Text.cut '?' r.url).2 = some line ∧
      (Text.pieces '&' line).map (CollectionFormat.readPair t.charset)
        = [(.ok n, some (.ok v))] := by
  intro h
  have hrun : (plain.withUri "/p?n=a,b").toOption.any (fun u =>
      (u.resolve .empty).toOption.any fun r => r.url = "/p?n=a&n=b".toList) = true := by
    decide +kernel
  obtain ⟨u, r, line, hu, hr, hcut, hread⟩ := h plain "n" "a,b" Charset.isAsciiCompatible_utf8 rfl rfl
    ⟨by decide, by decide, by decide, Charset.canEncode_utf8 _⟩
    ⟨by decide, by decide, by decide, Charset.canEncode_utf8 _⟩
    (by decide) (by decide) (by decide) (by decide)
  obtain ⟨u', hu', hrun⟩ := exists_ok_of_any hrun
  obtain rfl : u' = u := Except.ok.inj (hu'.symm.trans hu)
  obtain ⟨r', hr', hurl⟩ := exists_ok_of_any hrun
  obtain rfl : r' = r := Except.ok.inj (hr'.symm.trans hr)
  rw [of_decide_eq_true hurl] at hcut
  obtain rfl : "n=a&n=b".toList = line := Option.some.inj hcut
  exact absurd (congrArg List.length hread) (by decide)

end RequestTemplate

end HttpTemplates
