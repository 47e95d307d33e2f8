import HttpTemplates.Proofs.Query.Join
import HttpTemplates.Proofs.Template.Expansion
import HttpTemplates.Proofs.Template.ExpressionText
import HttpTemplates.Template.Query

/-!
# Query parameters read back

**The texts bound to the variables of a query parameter can be read from its expansion**
(`QueryTemplate.expand_reads`). Name and values are encoded twice, as templates and as a parameter,
and in between the values may have their slashes decoded and are cut at commas. Without escapes of
their own they come through all of it as encoded byte strings, which differ only in the delimiters
that they keep.
-/

namespace HttpTemplates

open Percent (quote hasEscape noneSafe)
open Expression (IsPlainName placeholder named)

/-! ### Templates of one chunk -/

namespace Template

variable {c : Charset} {k : Codec} (hc : c.codec = .ok k)

include hc in
theorem normalize_eq_self {s : Settings} (hs : s.charset = c) : s.normalize = s := by
  rw [Settings.normalize, hs, Charset.orUtf8_eq_self hc, ← hs]

theorem expand_literal? (source : Text) (s : Settings) (w : Text) (vars : Variables) :
    expand ⟨source, s, (Chunk.literal? w).toList⟩ vars = .ok (some w) := by
  by_cases hw : w = []
  · subst hw
    rfl
  · simp [expand, Chunk.literal?, hw, expandChunks, expandChunk, bind_ok]

theorem parseFragment_literal {encodeLiteral : Text → Except Error Text} {t w : Text}
    (hbrace : Token.openBrace ∉ t) (hw : encodeLiteral t = .ok w) (hne : t ≠ []) :
    parseFragment encodeLiteral t = .ok (Chunk.literal? w).toList := by
  have hhead : t.head? ≠ some Token.openBrace := fun h => hbrace (List.mem_of_head? h)
  have htokens : Token.tokenize t = [t] := by
    rw [Token.tokenize_literal hbrace, Token.flush, if_neg (by simp [hne]), List.reverse_reverse]
  simp only [parseFragment, htokens, chunksOfTokens, chunksOfToken, Expression.parse_of_head hhead,
    bind_ok, hw, List.append_nil]

theorem parseFragment_placeholder (encodeLiteral : Text → Except Error Text) {x : Text}
    (h : IsPlainName x) :
    parseFragment encodeLiteral (placeholder x) = .ok [.expression (named x h.ne_nil)] := by
  simp only [parseFragment, Token.tokenize_span (Expression.isSpan_placeholder h), chunksOfTokens,
    chunksOfToken, Expression.parse_placeholder h, bind_ok, List.append_nil]

section Literal

variable (hk : k.IsAsciiCompatible) {s : Settings} (hs : s.charset = c)
  (hencode : s.encode = true) {t : Text} (hne : t ≠ []) (hbrace : Token.openBrace ∉ t)
  (hescape : hasEscape t = false) (ht : k.Encodes t)

include hc hk hs hencode hne hbrace hescape ht

/-- A literal without escapes is parsed as its encoding. -/
theorem parse_literal : parse t s
    = .ok ⟨t, s, (Chunk.literal? (quote Percent.isReserved (k.textBytes t))).toList⟩ := by
  have hliteral : s.encodeLiteral t = .ok (quote Percent.isReserved (k.textBytes t)) := by
    rw [Settings.encodeLiteral, if_pos hencode, hs, Percent.encode, if_pos rfl,
      Percent.encodeUnlessEncoded_eq_quote hc hk ht hescape]
  simp only [parse, normalize_eq_self hc hs, parseFragment_literal hbrace hliteral hne, bind_ok]

/-- A literal without escapes expands to its encoding. -/
theorem expand_literal : ∃ u, parse t s = .ok u ∧ ∀ vars,
    u.expand vars = .ok (some (quote Percent.isReserved (k.textBytes t))) :=
  ⟨_, parse_literal hc hk hs hencode hne hbrace hescape ht, expand_literal? t s _⟩

end Literal

section Expand

variable {x : Text} (hx : x ≠ []) {vars : Variables} {s : Settings} (source : Text)

/-- A placeholder without a value expands to nothing. -/
theorem expand_placeholder_null (hkeep : s.keepUnresolved = false) (hv : vars.get x = .null) :
    expand ⟨source, s, [.expression (named x hx)]⟩ vars = .ok none := by
  refine expand_eq_ok_iff.mpr ⟨[none], .cons ?_ .nil, rfl⟩
  rw [expandChunk, expandExpression_null (by rw [named, hv]; rfl), hkeep]
  rfl

/-- A placeholder expands to the rendered value, with or without its encoded slashes. -/
theorem expand_placeholder (hs : s.charset = c) (hencode : s.encode = true)
    (hv : (vars.get x).isNull = false) {w : Text}
    (hrender : Expression.render true c (vars.get x) = .ok w) :
    expand ⟨source, s, [.expression (named x hx)]⟩ vars
      = .ok (some (if s.encodeSlash then w else decodeSlashes w)) := by
  have hexpand : (named x hx).expand s.encode s.charset (vars.get x) = .ok w := by
    rw [hencode, hs]
    exact Expression.expand_eq_ok_iff.mpr ⟨hrender, rfl⟩
  have hchunk : expandChunk s vars (.expression (named x hx))
      = .ok (some (if s.encodeSlash then w else decodeSlashes w)) :=
    (expandExpression_eq_ok_iff hv).mpr ⟨w, hexpand, rfl⟩
  exact expand_eq_ok_iff.mpr ⟨[_], .cons hchunk .nil, by simp [assembled]⟩

include hc in
/-- A placeholder expands to the encoding of a text without escapes. -/
theorem expand_placeholder_text (hk : k.IsAsciiCompatible) (hs : s.charset = c)
    (hencode : s.encode = true) {t : Text} (hv : vars.get x = .text t)
    (hescape : hasEscape t = false) (ht : k.Encodes t) :
    expand ⟨source, s, [.expression (named x hx)]⟩ vars
      = .ok (some (quote (if s.encodeSlash then noneSafe else isSlash) (k.textBytes t))) := by
  have hrender : Expression.render true c (vars.get x) = .ok (quote noneSafe (k.textBytes t)) := by
    rw [hv]
    exact Percent.encodeUnlessEncoded_eq_quote hc hk ht hescape
  rw [expand_placeholder hx source hs hencode (by rw [hv]; rfl) hrender, decodeSlashes_quote]
  cases s.encodeSlash <;> rfl

end Expand

end Template

/-! ### Values -/

namespace QueryTemplate

/-- The texts that the names are bound to, in order; names that are nothing are left out. -/
def boundTexts (vars : Variables) (names : List Text) : List Text :=
  names.filterMap fun n =>
    match vars.get n with
    | .text t => some t
    | _ => none

/-- The delimiters that a value keeps when its template is expanded. -/
def valueSafe (decodeSlash : Bool) : Char → Bool :=
  if decodeSlash then Template.isSlash else noneSafe

/-- Each name is nothing or a text without escapes that has bytes in the charset. -/
def BindsTexts (c : Charset) (vars : Variables) (names : List Text) : Prop :=
  ∀ n ∈ names, vars.get n = .null ∨
    ∃ t, vars.get n = .text t ∧ hasEscape t = false ∧ c.CanEncode t

theorem mem_boundTexts {c : Charset} {vars : Variables} {names : List Text}
    (h : BindsTexts c vars names) {t : Text} (ht : t ∈ boundTexts vars names) :
    hasEscape t = false ∧ c.CanEncode t := by
  obtain ⟨n, hn, hmatch⟩ := List.mem_filterMap.mp ht
  rcases h n hn with hv | ⟨u, hv, hu⟩
  · rw [hv] at hmatch
    exact absurd hmatch (by simp)
  · rw [hv, Option.some.injEq] at hmatch
    exact hmatch ▸ hu

/-- A parameter with values joins what its value templates stand for. -/
theorem expand_of_values {q : QueryTemplate} {vars : Variables} {name : Text} {resolved : List Text}
    (hname : q.name.expand vars = .ok (some name)) (hpure : q.isPure = false)
    (hvalues : expandValues vars q.values = .ok resolved) : q.expand vars =
      if resolved = [] then .ok none
      else (q.format.join name (resolved.map some) q.charset).map some := by
  simp only [expand, hname, hpure, hvalues, bind_ok, Option.getD_some]
  rfl

theorem given_placeholders (names : List Text) :
    given (names.map fun n => some (placeholder n)) = names.map placeholder := by
  have hall : (names.map fun n => some (placeholder n)).filterMap id = names.map placeholder := by
    rw [List.filterMap_map]
    exact List.filterMap_eq_map ▸ rfl
  rw [given, hall]
  refine List.filter_eq_self.mpr fun t ht => ?_
  obtain ⟨n, -, rfl⟩ := List.mem_map.mp ht
  rfl

/-- Placeholders are parsed one by one. -/
theorem parseAll_placeholders {s : Template.Settings} (hs : s.normalize = s) {names : List Text}
    (h : ∀ n ∈ names, IsPlainName n) : ∃ ts, parseAll s (names.map placeholder) = .ok ts ∧
      List.Forall₂ (fun n t => ∃ hn, t = ⟨placeholder n, s, [.expression (named n hn)]⟩) names ts := by
  induction names with
  | nil => exact ⟨[], rfl, .nil⟩
  | cons n names ih =>
      obtain ⟨hn, hnames⟩ := List.forall_mem_cons.mp h
      obtain ⟨ts, hts, hforall⟩ := ih hnames
      refine ⟨⟨placeholder n, s, [.expression (named n hn.ne_nil)]⟩ :: ts, ?_,
        .cons ⟨hn.ne_nil, rfl⟩ hforall⟩
      simp only [List.map_cons, parseAll, Template.parse, hs,
        Template.parseFragment_placeholder _ hn, bind_ok, hts]

section AsciiCompatible

variable {c : Charset} {k : Codec} (hc : c.codec = .ok k) (hk : k.IsAsciiCompatible)

include hc hk

/-- The values of a parameter are the encodings of the texts that are bound. -/
theorem expandValues_placeholders {decodeSlash : Bool} {vars : Variables} {names : List Text}
    {ts : List Template} (hvars : BindsTexts c vars names)
    (h : List.Forall₂ (fun n t => ∃ hn, t =
      ⟨placeholder n, valueSettings c decodeSlash, [.expression (named n hn)]⟩) names ts) :
    expandValues vars ts = .ok ((boundTexts vars names).map fun t =>
      quote (valueSafe decodeSlash) (k.textBytes t)) := by
  induction h with
  | nil => rfl
  | @cons n t names ts ht _ ih =>
      obtain ⟨hn, rfl⟩ := ht
      obtain ⟨hv, hrest⟩ := List.forall_mem_cons.mp hvars
      rcases hv with hv | ⟨t, hv, hescape, ht⟩
      · have hskip : boundTexts vars (n :: names) = boundTexts vars names := by
          simp [boundTexts, hv]
        rw [expandValues, Template.expand_placeholder_null hn _ rfl hv, bind_ok, ih hrest, bind_ok,
          hskip]
        rfl
      · have hsafe : (if (valueSettings c decodeSlash).encodeSlash then noneSafe
            else Template.isSlash) = valueSafe decodeSlash := by
          cases decodeSlash <;> rfl
        have hkeep : boundTexts vars (n :: names) = t :: boundTexts vars names := by
          simp [boundTexts, hv]
        have hexpand := Template.expand_placeholder_text hc hn (placeholder n) hk
          (s := valueSettings c decodeSlash) rfl rfl hv hescape ((Charset.canEncode_iff hc hk).mp ht)
        rw [hsafe] at hexpand
        -- A value is cut at commas, of which encoding leaves none.
        have hcomma : ¬ ',' ∈ quote (valueSafe decodeSlash) (k.textBytes t) := fun hmem => by
          rcases Percent.mem_quote hmem with h | h | h
          · exact absurd h (by decide)
          · exact absurd h (by decide)
          · cases decodeSlash <;> exact absurd h (by decide)
        rw [expandValues, hexpand, bind_ok, ih hrest, bind_ok, hkeep]
        simp [valuesOf, hcomma]

/-- An encoded text without escapes keeps fewer delimiters as a name or value. -/
theorem queryParamEncode_quote {safe : Char → Bool} (hsafe : safe '%' = false) {t : Text}
    (hescape : hasEscape t = false) (ht : k.Encodes t) :
    Percent.queryParamEncode c (quote safe (k.textBytes t))
      = .ok (quote (fun x => safe x && Percent.isQueryParamSafe x) (k.textBytes t)) := by
  -- The second encoding is one of ASCII characters, in which every percent sign begins an escape.
  have hascii : k.Encodes (quote safe (k.textBytes t)) := Codec.encodes_of_ascii hk fun x hx => by
    simpa [Percent.isAscii] using Percent.isAscii_of_mem_quote hx
  rw [Percent.queryParamEncode, Percent.encodeUnlessEncoded_eq_ok hc hk hascii
    (Or.inl (Percent.hasStray_quote hsafe _)), ← Percent.escaped_of_not_hasEscape safe k hescape,
    Percent.escaped_escaped hk _ _ ht, Percent.escaped_of_not_hasEscape _ _ hescape]

/-- An encoded name and encoded values are joined. -/
theorem join_quote (f : CollectionFormat) {safe : Char → Bool} (hsafe : safe '%' = false)
    {name : Text} {values : List Text} (hne : values ≠ [])
    (hname : hasEscape name = false ∧ k.Encodes name)
    (hvalues : ∀ v ∈ values, hasEscape v = false ∧ k.Encodes v) :
    f.join (quote Percent.isReserved (k.textBytes name))
        ((values.map fun v => quote safe (k.textBytes v)).map some) c
      = .ok (f.joined k
        (quote (fun x => Percent.isReserved x && Percent.isQueryParamSafe x) (k.textBytes name))
        (values.map fun v => quote
          (fun x => safe x && Percent.isQueryParamSafe x) (k.textBytes v))) := by
  refine CollectionFormat.join_eq_ok hc hk f (by simp [hne])
    (queryParamEncode_quote hc hk (by decide) hname.1 hname.2) ?_
  rw [List.forall₂_map_left_iff, List.forall₂_map_right_iff, List.forall₂_same]
  exact fun v hv => queryParamEncode_quote hc hk hsafe (hvalues v hv).1 (hvalues v hv).2

end AsciiCompatible

/-- **The texts bound to the variables of a parameter can be read from its expansion**, which is
missing if there are none. -/
theorem expand_reads {c : Charset} (hcharset : c.IsAsciiCompatible) (f : CollectionFormat)
    (decodeSlash : Bool) {name : Text} (hname : name ≠ []) (hbrace : Token.openBrace ∉ name)
    (hescape : hasEscape name = false) (hencode : c.CanEncode name) {names : List Text}
    (hne : names ≠ []) (hplain : ∀ n ∈ names, IsPlainName n) {vars : Variables}
    (hvars : BindsTexts c vars names) : ∃ q r,
      create name (names.map fun n => some (placeholder n)) c f decodeSlash = .ok q ∧
        q.expand vars = .ok r ∧ (boundTexts vars names = [] → r = none) ∧
          (boundTexts vars names ≠ [] → ∃ t, r = some t ∧
            f.Reads c name (boundTexts vars names) t) := by
  obtain ⟨k, hc, hk⟩ := hcharset
  have hencodes := (Charset.canEncode_iff hc hk).mp hencode
  have hbound : ∀ t ∈ boundTexts vars names, hasEscape t = false ∧ k.Encodes t := fun t ht =>
    (mem_boundTexts hvars ht).imp_right (Charset.canEncode_iff hc hk).mp
  obtain ⟨nameTemplate, hparse, hnamed⟩ := Template.expand_literal hc hk (s := nameSettings c)
    rfl rfl hname hbrace hescape hencodes
  obtain ⟨ts, hts, hforall⟩ := parseAll_placeholders
    (Template.normalize_eq_self hc (s := valueSettings c decodeSlash) rfl) hplain
  have hcreate : create name (names.map fun n => some (placeholder n)) c f decodeSlash
      = .ok ⟨nameTemplate, ts, c, f, decodeSlash⟩ := by
    rw [create, if_neg hname, Charset.orUtf8_eq_self hc, given_placeholders]
    simp only [hparse, hts, bind_ok]
  have hpure : isPure ⟨nameTemplate, ts, c, f, decodeSlash⟩ = false := by
    cases hforall with
    | nil => exact absurd rfl hne
    | cons _ _ => rfl
  have hexpand := expand_of_values (q := ⟨nameTemplate, ts, c, f, decodeSlash⟩) (hnamed vars) hpure
    (expandValues_placeholders hc hk hvars hforall)
  by_cases hnone : boundTexts vars names = []
  · rw [hnone, List.map_nil, if_pos rfl] at hexpand
    exact ⟨_, none, hcreate, hexpand, fun _ => rfl, fun h => absurd hnone h⟩
  · have hpercent : valueSafe decodeSlash '%' = false := by cases decodeSlash <;> rfl
    rw [if_neg (by simpa using hnone),
      join_quote hc hk f hpercent hnone ⟨hescape, hencodes⟩ hbound] at hexpand
    refine ⟨_, _, hcreate, hexpand, fun h => absurd h hnone, fun _ => ⟨_, rfl, ?_⟩⟩
    exact CollectionFormat.reads_joined hc hk (fun x hx => (Bool.and_eq_true_iff.mp hx).2)
      (fun x hx => (Bool.and_eq_true_iff.mp hx).2) f hnone hencodes fun v hv => (hbound v hv).2

/-- A search term full of delimiters; no page is given. -/
def searchTerm : Variables :=
  ⟨[("term", .text "a+b/c,d&e=100%")]⟩

theorem expand_reads_searchTerm : ∃ q r,
    create "q" (["term", "page"].map fun n : Text => some (placeholder n)) .utf8 .exploded true
        = .ok q ∧
      q.expand searchTerm = .ok r ∧ ∃ t, r = some t ∧
        CollectionFormat.exploded.Reads .utf8 "q" ["a+b/c,d&e=100%"] t := by
  have hplain : ∀ n ∈ (["term", "page"] : List Text), IsPlainName n := by
    intro n hn
    simp only [List.mem_cons, List.not_mem_nil, or_false] at hn
    rcases hn with rfl | rfl
    · exact Expression.isPlainName_of_identifier (by decide) (by decide)
    · exact Expression.isPlainName_of_identifier (by decide) (by decide)
  have hvars : BindsTexts .utf8 searchTerm ["term", "page"] := by
    intro n hn
    simp only [List.mem_cons, List.not_mem_nil, or_false] at hn
    rcases hn with rfl | rfl
    · exact Or.inr ⟨_, rfl, by decide, Charset.canEncode_utf8 _⟩
    · exact Or.inl rfl
  obtain ⟨q, r, hq, hr, -, hreads⟩ := expand_reads Charset.isAsciiCompatible_utf8 .exploded true
    (by decide) (by decide) (by decide) (Charset.canEncode_utf8 "q") (by decide) hplain hvars
  exact ⟨q, r, hq, hr, hreads (by decide)⟩

end QueryTemplate

end HttpTemplates
