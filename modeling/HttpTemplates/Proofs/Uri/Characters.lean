import HttpTemplates.Proofs.Query.RoundTrip
import HttpTemplates.Proofs.Uri.Delimiters
import HttpTemplates.Proofs.Uri.Marks
import HttpTemplates.Proofs.Uri.WholeText

/-!
# The characters of an expansion

**An expanded URI template is written in the characters of URIs**: letters and digits of ASCII, four
marks, the delimiters and the percent sign. Literals and values get their characters from the
encoders; the commas and equals signs between the elements of a value are delimiters, and so are the
slashes that are decoded. An expression that is kept as text is encoded too, so its braces are gone.
The exception are texts in disguise, which are passed on: **an expansion holds another character
exactly if such a text does** (`UriTemplate.expand_isUriText`).

A text without an open brace has no expressions if it is parsed again, and it can be parsed if there
are bytes for its characters (`UriTemplate.exists_create_of_notMem`).
-/

namespace HttpTemplates

open Percent (isPlain isReserved isPathSafe isQuerySafe encodeUnlessEncoded Discerns DiscernsAscii)

/-! ### Characters of URIs -/

/-- The characters of URIs that are neither letters nor digits: four marks, the general delimiters,
the delimiters within a part, and the percent sign. -/
def uriMarks : Text := [
  '-', '.', '_', '~',
  ':', '/', '?', '#', '[', ']', '@',
  '!', '$', '&', '\x27', '(', ')', '*', '+', ',', ';', '=',
  '%']

/-- Whether a character may stand in a URI. -/
def isUriChar (x : Char) : Bool :=
  x.isAlphanum || uriMarks.contains x

/-- A text in the characters of URIs. -/
def IsUriText (t : Text) : Prop :=
  ∀ x ∈ t, isUriChar x = true

theorem isUriChar_eq (x : Char) : isUriChar x = (isPlain x || isReserved x) := by
  simp only [isUriChar, uriMarks, isPlain, Percent.isUnreserved, isReserved,
    Percent.isGeneralDelimiter, Percent.isSubDelimiter, List.contains_cons, List.contains_nil]
  grind

theorem not_isUriChar_iff {x : Char} :
    isUriChar x = false ↔ isPlain x = false ∧ isReserved x = false := by
  rw [isUriChar_eq, Bool.or_eq_false_iff]

theorem ascii_of_isUriChar {x : Char} (h : isUriChar x = true) : x.toNat < 0x80 := by
  rw [isUriChar, Bool.or_eq_true] at h
  rcases h with h | h
  · exact Percent.ascii_of_isUnreserved (by simp [Percent.isUnreserved, h])
  · have hmarks : uriMarks.all (·.toNat < 0x80) = true := by decide
    exact of_decide_eq_true (List.all_eq_true.mp hmarks x (List.contains_iff_mem.mp h))

/-- A visible character of ASCII other than a brace. -/
def IsVisible (x : Char) : Prop :=
  0x20 < x.toNat ∧ x.toNat < 0x7F ∧ x ≠ Token.openBrace ∧ x ≠ Token.closeBrace

theorem isVisible_of_isUriChar {x : Char} (h : isUriChar x = true) : IsVisible x := by
  have hcodes : ∀ n < 0x80, isUriChar (Char.ofNat n) = true → 0x20 < n ∧ n < 0x7F ∧
      Char.ofNat n ≠ Token.openBrace ∧ Char.ofNat n ≠ Token.closeBrace := by decide +kernel
  have := hcodes x.toNat (ascii_of_isUriChar h)
  rw [Char.ofNat_toNat] at this
  exact this h

theorem IsUriText.openBrace_notMem {t : Text} (h : IsUriText t) : Token.openBrace ∉ t := fun hx =>
  (isVisible_of_isUriChar (h _ hx)).2.2.1 rfl

/-! ### Expansions -/

theorem isReserved_of_isPathSafe {x : Char} (h : isPathSafe x = true) : isReserved x = true := by
  simp only [isPathSafe, isReserved, Percent.isGeneralDelimiter] at h ⊢
  grind

theorem isReserved_of_isQuerySafe {x : Char} (h : isQuerySafe x = true) : isReserved x = true := by
  simp only [isQuerySafe, isReserved, Percent.isGeneralDelimiter, Percent.isSubDelimiter] at h ⊢
  grind

theorem isUriChar_of_isRendered {x : Char} (h : Expression.isRendered x = true) :
    isUriChar x = true := by
  simp only [Expression.isRendered, Bool.or_eq_true, decide_eq_true_eq] at h
  rcases h with (h | rfl) | rfl
  · rw [isUriChar_eq, h, Bool.true_or]
  · decide
  · decide

namespace UriTemplate

variable {source : Text} {c : Charset} {encodeSlash : Bool} {u : UriTemplate} {vars : Variables}

section Expansion

variable (hu : create source c encodeSlash = .ok u)

include hu

theorem flags_of_create : u.base.settings.keepUnresolved = true ∧
    u.base.settings.encode = true ∧ u.base.settings.charset = c.orUtf8 := by
  rw [settings_of_create hu]
  exact ⟨rfl, rfl, rfl⟩

/-- Other characters of a literal, and of an expression that is kept as text, are in disguise. -/
theorem mem_expand_iff_leaks {w : Text} (h : u.expand vars = .ok (some w)) {x : Char}
    (hx : isUriChar x = false) : x ∈ w ↔ u.base.Leaks vars x := by
  obtain ⟨hkeep, hencode, hcharset⟩ := flags_of_create hu
  obtain ⟨hplain, hreserved⟩ := not_isUriChar_iff.mp hx
  have hpath : isPathSafe x = false :=
    Bool.eq_false_iff.mpr fun h => by simp [isReserved_of_isPathSafe h] at hreserved
  have hquery : isQuerySafe x = false :=
    Bool.eq_false_iff.mpr fun h => by simp [isReserved_of_isQuerySafe h] at hreserved
  have hrendered : Expression.isRendered x = false :=
    Bool.eq_false_iff.mpr fun h => by simp [isUriChar_of_isRendered h] at hx
  have hslash : x ≠ '/' := by
    rintro rfl
    exact absurd hreserved (by decide)
  rw [Template.mem_expand_iff hkeep hencode hrendered hslash h]
  constructor
  · rintro (⟨l, hl, hmem⟩ | ⟨e, he, hv, w', hw', hmem⟩ | hleaks)
    · exact .literal hl
        (hcharset ▸ isDisguised_of_mem_literals hplain hpath hquery hu l hl hmem) hmem
    · rw [Template.Settings.encodeLiteral, if_pos hencode] at hw'
      obtain ⟨hd, hmem⟩ := (Percent.mem_encodeUnlessEncoded_iff hw' hplain hreserved).mp hmem
      exact .kept he hv hd hmem
    · exact hleaks
  · exact fun hleaks => Or.inr (Or.inr hleaks)

end Expansion

end UriTemplate

/-! ### Charsets of what is not empty -/

namespace Expression

variable {c : Charset}

theorem exists_codec_of_renderScalar {v : Value} {w : Text} (h : renderScalar true c v = .ok w) :
    ∃ k, c.codec = .ok k := by
  obtain ⟨t, -, ht⟩ := bind_eq_ok_iff.mp h
  exact Percent.exists_codec_of_encodeUnlessEncoded ht

theorem exists_codec_of_renderItems {items : List Value} {ws : List Text}
    (h : renderItems true c items = .ok ws) (hne : ws ≠ []) : ∃ k, c.codec = .ok k := by
  induction items with
  | nil => exact absurd (Except.ok.inj h).symm hne
  | cons v items ih =>
      rw [renderItems] at h
      split at h
      · exact ih h
      · obtain ⟨head, hhead, -⟩ := bind_eq_ok_iff.mp h
        exact exists_codec_of_renderScalar hhead

/-- A value that is rendered as more than the empty text is encoded. -/
theorem exists_codec_of_render {v : Value} {w : Text} (h : render true c v = .ok w) (hne : w ≠ []) :
    ∃ k, c.codec = .ok k := by
  cases v with
  | list items =>
      obtain ⟨elements, helements, h⟩ := bind_eq_ok_iff.mp h
      refine exists_codec_of_renderItems helements ?_
      rintro rfl
      exact hne (Except.ok.inj h).symm
  | map entries =>
      obtain ⟨pairs, hpairs, h⟩ := bind_eq_ok_iff.mp h
      cases entries with
      | nil =>
          obtain rfl : [] = pairs := Except.ok.inj hpairs
          exact absurd (Except.ok.inj h).symm hne
      | cons entry entries =>
          obtain ⟨name, hname, -⟩ := bind_eq_ok_iff.mp hpairs
          exact exists_codec_of_renderScalar hname
  | _ => exact exists_codec_of_renderScalar h

end Expression

/-- What leaks is a character of a text that has bytes. -/
theorem Template.Leaks.exists_canEncode {t : Template} {vars : Variables} {x : Char}
    (h : t.Leaks vars x) : ∃ s, x ∈ s ∧ t.settings.charset.CanEncode s := by
  obtain ⟨-, hd, hx⟩ | ⟨-, -, hd, hx⟩ | ⟨-, -, -, -, s, -, hd, hx⟩ := h
  · exact ⟨_, hx, hd.canEncode⟩
  · exact ⟨_, hx, hd.canEncode⟩
  · exact ⟨s, hx, hd.canEncode⟩

/-- A text that is not empty has a contribution that is not. -/
theorem Template.exists_chunk_of_flatten_ne_nil {s : Settings} {vars : Variables} {cs : List Chunk}
    {ws : List Text} (h : List.Forall₂ (fun c w => expandChunk s vars c = .ok (some w)) cs ws)
    (hne : ws.flatten ≠ []) : ∃ c ∈ cs, ∃ w, w ≠ [] ∧ expandChunk s vars c = .ok (some w) := by
  induction h with
  | nil => exact absurd rfl hne
  | @cons c w cs ws hc _ ih =>
      by_cases hw : w = []
      · rw [hw, List.flatten_cons, List.nil_append] at hne
        obtain ⟨d, hd, hmore⟩ := ih hne
        exact ⟨d, List.mem_cons_of_mem _ hd, hmore⟩
      · exact ⟨c, List.mem_cons_self .., w, hw, hc⟩

namespace UriTemplate

variable {source : Text} {c : Charset} {encodeSlash : Bool} {u : UriTemplate} {vars : Variables}

/-- An expansion that is not empty has been encoded, so the charset names an encoding. -/
theorem exists_codec_of_expand (hu : create source c encodeSlash = .ok u) {w : Text}
    (h : u.expand vars = .ok (some w)) (hne : w ≠ []) : ∃ k, c.orUtf8.codec = .ok k := by
  obtain ⟨hkeep, hencode, hcharset⟩ := flags_of_create hu
  obtain ⟨ws, hws, hw⟩ := Template.expand_eq_ok_of_keepUnresolved hkeep h
  rw [Option.some.inj hw] at hne
  obtain ⟨chunk, hchunk, p, hp, hexpand⟩ := Template.exists_chunk_of_flatten_ne_nil hws hne
  cases chunk with
  | literal l hl =>
      obtain ⟨token, htoken | htoken⟩ :=
        exists_encoded_of_literal hu l (List.mem_filterMap.mpr ⟨_, hchunk, rfl⟩)
      · exact Percent.exists_codec_of_encodeUnlessEncoded htoken
      · exact Percent.exists_codec_of_encodeUnlessEncoded htoken
  | expression e =>
      rw [Template.expandChunk] at hexpand
      cases hv : (vars.get e.name).isNull with
      | true =>
          rw [Template.expandExpression_null hv, if_pos hkeep, Template.Settings.encodeLiteral,
            if_pos hencode, hcharset] at hexpand
          obtain ⟨t, ht, -⟩ := map_eq_ok_iff.mp hexpand
          exact Percent.exists_codec_of_encodeUnlessEncoded ht
      | false =>
          obtain ⟨t, ht, hpt⟩ := (Template.expandExpression_eq_ok_iff hv).mp hexpand
          rw [hencode, hcharset] at ht
          refine Expression.exists_codec_of_render (Expression.expand_eq_ok_iff.mp ht).1 ?_
          rintro rfl
          rw [Option.some.inj hpt] at hp
          exact hp (by split <;> rfl)

/-! ### Parsing again -/

/-- In a charset that encodes character by character there are bytes for an expansion. -/
theorem canEncodeIn_expand (hu : create source c encodeSlash = .ok u) {w : Text}
    (h : u.expand vars = .ok (some w)) (hne : w ≠ []) (hc : c.orUtf8.EncodesByCharacter) :
    c.orUtf8.CanEncodeIn w := by
  obtain ⟨k, hk⟩ := exists_codec_of_expand hu h hne
  intro t ht
  refine hc k hk t fun x hx => ?_
  cases hchar : isUriChar x with
  | true => exact Or.inl (ascii_of_isUriChar hchar)
  | false =>
      obtain ⟨-, -, hcharset⟩ := flags_of_create hu
      have hleaks := (mem_expand_iff_leaks hu h hchar).mp (ht hx)
      exact Or.inr (hcharset ▸ hleaks.exists_canEncode)

theorem exists_parseFragment_of_notMem (safe : Char → Bool) {t : Text}
    (hbrace : Token.openBrace ∉ t) (hc : c.CanEncodeIn t) :
    ∃ cs, Template.parseFragment (encodeUnlessEncoded safe c) t = .ok cs := by
  by_cases hne : t = []
  · subst hne
    exact ⟨[], rfl⟩
  · obtain ⟨w, hw⟩ := Percent.exists_encodeUnlessEncoded safe hc
    exact ⟨_, Template.parseFragment_literal hbrace hw hne⟩

/-- Without an open brace there are no expressions. -/
theorem expressions_create_of_notMem {t : Text} (hbrace : Token.openBrace ∉ t)
    (hu : create t c encodeSlash = .ok u) : u.base.expressions = [] := by
  rcases expressions_create hu with ⟨-, hexpressions⟩ | ⟨i, -, hexpressions⟩
  · rw [hexpressions, Token.expressionsIn_literal hbrace]
  · have htake : Token.openBrace ∉ t.take i := fun h => hbrace (List.mem_of_mem_take h)
    have hdrop : Token.openBrace ∉ t.drop i := fun h => hbrace (List.mem_of_mem_drop h)
    rw [hexpressions, Token.expressionsIn_literal htake, Token.expressionsIn_literal hdrop,
      List.append_nil]

/-- **A text without an open brace can be parsed if there are bytes for its characters.** The empty
text can be parsed without an encoding. -/
theorem exists_create_of_notMem {t : Text} (hbrace : Token.openBrace ∉ t)
    (hc : t ≠ [] → c.orUtf8.CanEncodeIn t) (encodeSlash : Bool) :
    ∃ v, create t c encodeSlash = .ok v := by
  by_cases hne : t = []
  · subst hne
    exact ⟨_, create_nil c encodeSlash⟩
  · obtain ⟨delimiter, hdelimiter⟩ : ∃ i, queryDelimiter? t = .ok i :=
      exists_findDelimiter (fun token htoken => ⟨none, Expression.parse_of_head fun hhead =>
        hbrace (Token.flatten_tokenize t ▸
          List.mem_flatten.mpr ⟨token, htoken, List.mem_of_head? hhead⟩)⟩) 0
    have hpart : ∀ safe {s : Text}, s ⊆ t →
        ∃ cs, Template.parseFragment (encodeUnlessEncoded safe c.orUtf8) s = .ok cs :=
      fun safe s hs => exists_parseFragment_of_notMem safe (fun h => hbrace (hs h))
        ((hc hne).mono hs)
    obtain ⟨chunks, hchunks⟩ : ∃ chunks, parseChunks c.orUtf8 t = .ok chunks := by
      rw [parseChunks, hdelimiter, bind_ok]
      cases delimiter with
      | none => exact hpart isPathSafe (List.Subset.refl t)
      | some i =>
          obtain ⟨path, hpath⟩ := hpart isPathSafe (List.take_subset i t)
          obtain ⟨query, hquery⟩ := hpart isQuerySafe (List.drop_subset i t)
          exact ⟨path ++ query, bind_eq_ok_iff.mpr
            ⟨path, hpath, bind_eq_ok_iff.mpr ⟨query, hquery, rfl⟩⟩⟩
    exact ⟨_, bind_eq_ok_iff.mpr ⟨chunks, hchunks, rfl⟩⟩

/-- **An expanded URI template is written in the characters of URIs, and in those that are in
disguise.** In a charset without texts in disguise all of it is visible ASCII without braces; if these
hide nothing of ASCII, its characters of ASCII are. Without an open brace it has no expressions when it
is parsed again, in whatever charset. This succeeds in the same charset if that encodes character by
character, and in any other that has bytes for its characters. -/
theorem expand_isUriText (hu : create source c encodeSlash = .ok u) {out : Option Text}
    (h : u.expand vars = .ok out) : ∃ w, out = some w ∧
      (∀ x, isUriChar x = false → (x ∈ w ↔ u.base.Leaks vars x)) ∧
      (Discerns c.orUtf8 → ∀ x ∈ w, isUriChar x = true ∧ IsVisible x) ∧
      (DiscernsAscii c.orUtf8 → ∀ x ∈ w, x.toNat < 0x80 → isUriChar x = true ∧ IsVisible x) ∧
      (Token.openBrace ∉ w → ∀ c' encodeSlash',
        (∀ v, create w c' encodeSlash' = .ok v → v.base.expressions = []) ∧
        ((c' = c ∧ c.orUtf8.EncodesByCharacter) ∨ c'.orUtf8.CanEncodeIn w →
          ∃ v, create w c' encodeSlash' = .ok v)) := by
  obtain ⟨hkeep, -, hcharset⟩ := flags_of_create hu
  obtain ⟨w, rfl⟩ : ∃ w, out = some w := by
    obtain ⟨ws, -, hws⟩ := Template.expand_eq_ok_of_keepUnresolved hkeep h
    exact ⟨_, hws⟩
  have hleaks : ∀ x, isUriChar x = false → (x ∈ w ↔ u.base.Leaks vars x) := fun x =>
    mem_expand_iff_leaks hu h
  have hchar : ∀ x ∈ w, ¬ u.base.Leaks vars x → isUriChar x = true ∧ IsVisible x := by
    intro x hx hnot
    have hchar : isUriChar x = true := by
      by_contra hfalse
      exact hnot ((hleaks x (Bool.eq_false_iff.mpr hfalse)).mp hx)
    exact ⟨hchar, isVisible_of_isUriChar hchar⟩
  refine ⟨w, rfl, hleaks, fun hc x hx => ?_, fun hc x hx hascii => ?_, fun hbrace c' slash' => ?_⟩
  · exact hchar x hx (Template.not_leaks_of_discerns (hcharset ▸ hc))
  · by_cases hleak : u.base.Leaks vars x
    · have hplain := hleak.isPlain_of_ascii (hcharset ▸ hc) hascii
      have hchar : isUriChar x = true := by rw [isUriChar_eq, hplain, Bool.true_or]
      exact ⟨hchar, isVisible_of_isUriChar hchar⟩
    · exact hchar x hx hleak
  · refine ⟨fun v hv => expressions_create_of_notMem hbrace hv, fun hc => ?_⟩
    refine exists_create_of_notMem hbrace (fun hne => ?_) slash'
    rcases hc with ⟨rfl, hc⟩ | hc
    · exact canEncodeIn_expand hu h hne hc
    · exact hc

/-- A URI template with letters outside ASCII, a nested list, a map, a byte string and an expression
without a value. -/
def nestedValuesUri : Text :=
  "/é b/\x7bitems\x7d\x7bnote:[^/]*\x7d?m=\x7bmap\x7d&b=\x7bbytes\x7d"

/-- Values of several kinds; the note is missing. -/
def nestedValues : Variables :=
  ⟨[("items", .list [.text "\x7bx\x7d", .null, .list [.text "a b", .map [(.int 1, .null)]]]),
    ("map", .map [(.text "ключ", .bool true), (.text "#", .null)]),
    ("bytes", .bytes [0x41, 0x00, 0xE9, 0x00])]⟩

/-- In UTF-16 nothing is in disguise, and the expansion can be parsed again in it as in UTF-8. -/
theorem expand_isUriText_nestedValues : ∃ u w,
    create nestedValuesUri (.named "utf-16-le") false = .ok u ∧
      u.expand nestedValues = .ok (some w) ∧ IsUriText w ∧
      ∀ c', c' = .named "utf-16-le" ∨ c' = .utf8 →
        ∃ v, create w c' = .ok v ∧ v.base.expressions = [] := by
  have hu : (create nestedValuesUri (.named "utf-16-le") false).toOption.any (fun u =>
      (u.expand nestedValues).toOption.isSome) = true := by
    decide +kernel
  obtain ⟨u, hu, hsome⟩ := exists_ok_of_any hu
  obtain ⟨out, hout⟩ := Option.isSome_iff_exists.mp hsome
  have hcodec : (Charset.named "utf-16-le").codec = .ok Coding.utf16le.codec :=
    Charset.codec_of_codingNamed? rfl (by decide) (by decide +kernel)
  have hname := Charset.orUtf8_eq_self hcodec
  have hdiscerns : Discerns (Charset.named "utf-16-le").orUtf8 := by
    rw [hname]
    exact Percent.discerns_of_codec hcodec (by decide)
  obtain ⟨w, rfl, -, hall, -, hparse⟩ := expand_isUriText hu (toOption_eq_some_iff.mp hout)
  have hw : IsUriText w := fun x hx => (hall hdiscerns x hx).1
  refine ⟨u, w, hu, toOption_eq_some_iff.mp hout, hw, fun c' hc' => ?_⟩
  obtain ⟨hplain, hexists⟩ := hparse hw.openBrace_notMem c' true
  obtain ⟨v, hv⟩ := hexists <| by
    rcases hc' with rfl | rfl
    · refine Or.inl ⟨rfl, ?_⟩
      rw [hname]
      exact Charset.encodesByCharacter_of_codec hcodec
    · exact Or.inr fun t _ => Charset.canEncode_utf8 t
  exact ⟨v, hv, hplain v hv⟩

/-- In Shift JIS an overline may be left. -/
theorem not_isUriText_expand : ¬ ∀ (source : Text) (c : Charset) (encodeSlash : Bool)
    (u : UriTemplate) (vars : Variables) (w : Text), create source c encodeSlash = .ok u →
    u.expand vars = .ok (some w) → IsUriText w := by
  intro h
  have hrun : (create "/\x7bv\x7d" (.named "shift_jis") true).toOption.any (fun u =>
      (u.expand ⟨[("v", .text "‾%41")]⟩).toOption = some (some "/‾%41".toList)) = true := by
    decide +kernel
  obtain ⟨u, hu, hexpand⟩ := exists_ok_of_any hrun
  have huri := h _ _ _ u _ _ hu (toOption_eq_some_iff.mp (of_decide_eq_true hexpand))
  exact absurd (huri '‾' (by decide)) (by decide)

end UriTemplate

end HttpTemplates
