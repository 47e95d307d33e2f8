import HttpTemplates.Proofs.Query.RoundTrip

/-!
# Literal values

A value without expressions is encoded as literal text, which keeps its commas. What is left of it
is taken for a comma-separated list, as if it had been expanded from one. So **a parameter with a
literal value stands for the parts of the value between its commas, without the empty ones at its
end** (`QueryTemplate.exists_create_literal`), and is missing if there are no others.
-/

namespace HttpTemplates

open Percent (quote isUnreserved keeps)

/-! ### Encoded texts -/

namespace Percent

variable {safe : Char → Bool} {k : Codec} (hk : k.IsAsciiCompatible) {t : Text}

theorem hasEscape_of_notMem (h : '%' ∉ t) : hasEscape t = false :=
  Bool.eq_false_iff.mpr fun hescape => h (percent_mem_of_hasEscape hescape)

include hk

/-- Characters that are kept stand for themselves. -/
theorem quote_eq_self (h : ∀ x ∈ t, keeps safe x = true) : quote safe (k.textBytes t) = t := by
  induction t with
  | nil => rfl
  | cons x t ih =>
      obtain ⟨hx, ht⟩ := List.forall_mem_cons.mp h
      have hchar : quote safe (k.charBytes x) = [x] := by
        have := quoteChar_eq hk safe x
        rwa [if_pos hx, quoteChar] at this
      rw [Codec.textBytes_cons, quote_append, hchar, ih ht, List.singleton_append]

/-- Nothing but the empty text is encoded as the empty text. -/
theorem quote_textBytes_eq_nil_iff (ht : k.Encodes t) :
    quote safe (k.textBytes t) = [] ↔ t = [] := by
  have hbyte : ∀ b, quoteByte safe b ≠ [] := fun b => by
    rw [quoteByte]
    split
    · simp
    · simp [escapeByte]
  cases t with
  | nil => simp
  | cons x rest =>
      obtain ⟨b, bytes, hx⟩ : ∃ b bytes, k.charBytes x = b :: bytes :=
        List.exists_cons_of_ne_nil (Codec.charBytes_ne_nil hk (ht x (List.mem_cons_self ..)))
      simp [hx, hbyte]

section Separator

variable {sep : Char} (hkeeps : keeps safe sep = true) (hreserved : isUnreserved sep = false)
  (hpercent : sep ≠ '%')

include hkeeps hreserved hpercent

/-- A separator that is kept is in the encoded text if it is in the text. -/
theorem mem_quote_textBytes_iff : sep ∈ quote safe (k.textBytes t) ↔ sep ∈ t := by
  induction t with
  | nil => exact Iff.rfl
  | cons x t ih =>
      have hchar : sep ∈ quoteChar safe k x ↔ sep = x := by
        refine ⟨eq_of_mem_quoteChar safe hk hreserved hpercent, ?_⟩
        rintro rfl
        rw [quoteChar_eq hk, if_pos hkeeps]
        exact List.mem_singleton_self sep
      rw [Codec.textBytes_cons, quote_append, ← quoteChar, List.mem_append, List.mem_cons, hchar,
        ih]

/-- A character that is kept separates the same texts before and after encoding. -/
theorem pieces_quote (t : Text) : Text.pieces sep (quote safe (k.textBytes t))
    = (Text.pieces sep t).map fun p => quote safe (k.textBytes p) := by
  have hsep : quote safe (k.textBytes [sep]) = [sep] :=
    quote_eq_self hk (List.forall_mem_singleton.mpr hkeeps)
  conv => lhs; rw [← Text.intercalate_pieces sep t]
  rw [CollectionFormat.quote_intercalate, hsep, Text.pieces_intercalate]
  · simpa using Text.pieces_ne_nil sep t
  · refine List.forall_mem_map.mpr fun p hp hmem => Text.notMem_of_mem_pieces hp ?_
    exact (mem_quote_textBytes_iff hk hkeeps hreserved hpercent).mp hmem

/-- A character that is kept cuts a text at the same place before and after encoding. -/
theorem cut_quote (t : Text) : Text.cut sep (quote safe (k.textBytes t))
    = (quote safe (k.textBytes (Text.cut sep t).1),
        (Text.cut sep t).2.map fun s => quote safe (k.textBytes s)) := by
  induction t with
  | nil => rfl
  | cons x t ih =>
      rw [Codec.textBytes_cons, quote_append, ← quoteChar]
      by_cases hx : x = sep
      · subst hx
        rw [quoteChar_eq hk, if_pos hkeeps, List.singleton_append, Text.cut_cons_self,
          Text.cut_cons_self]
        rfl
      · have hchar : sep ∉ quoteChar safe k x := fun h =>
          hx (eq_of_mem_quoteChar safe hk hreserved hpercent h).symm
        rw [Text.cut_append_of_not_mem hchar, ih, Text.cut_cons_ne hx, Codec.textBytes_cons,
          quote_append, ← quoteChar]

end Separator

end Percent

/-! ### Values that are cut at commas -/

namespace QueryTemplate

variable {v w : Text}

theorem mem_pieces_of_mem_splitList (h : w ∈ splitList v) : w ∈ Text.pieces ',' v := by
  rw [splitList, List.mem_reverse] at h
  exact List.mem_reverse.mp (List.dropWhile_subset _ h)

/-- The values are made of the characters of the text. -/
theorem mem_of_mem_valuesOf (h : w ∈ valuesOf v) : ∀ x ∈ w, x ∈ v := by
  rw [valuesOf] at h
  split at h
  · exact Text.mem_of_mem_pieces (mem_pieces_of_mem_splitList h)
  · rw [List.mem_singleton.mp h]
    exact fun x hx => hx

/-- A text is its own and only value if it holds no comma, and only then. -/
theorem valuesOf_eq_singleton_iff : valuesOf v = [v] ↔ ',' ∉ v := by
  constructor
  · intro h hcomma
    rw [valuesOf, if_pos (List.contains_iff_mem.mpr hcomma)] at h
    have hmem : v ∈ splitList v := h ▸ List.mem_singleton_self v
    exact Text.notMem_of_mem_pieces (mem_pieces_of_mem_splitList hmem) hcomma
  · intro h
    rw [valuesOf, if_neg fun hcontains => h (List.contains_iff_mem.mp hcontains)]

/-- The empty texts at the end of a list, if an encoding leaves no others empty. -/
theorem dropWhile_map_of_eq_nil_iff {e : Text → Text} {ts : List Text}
    (h : ∀ t ∈ ts, e t = [] ↔ t = []) :
    (ts.map e).dropWhile (· = []) = (ts.dropWhile (· = [])).map e := by
  induction ts with
  | nil => rfl
  | cons t ts ih =>
      obtain ⟨ht, hts⟩ := List.forall_mem_cons.mp h
      by_cases hnil : t = []
      · subst hnil
        simpa [ht.mpr rfl] using ih hts
      · simp [ht, hnil]

/-- The values of a text that is encoded with its commas are the encoded values of the text. -/
theorem valuesOf_quote {safe : Char → Bool} {k : Codec} (hk : k.IsAsciiCompatible)
    (hcomma : safe ',' = true) (hv : k.Encodes v) :
    valuesOf (quote safe (k.textBytes v)) = (valuesOf v).map fun w => quote safe (k.textBytes w) := by
  have hkeeps : keeps safe ',' = true := Percent.keeps_iff.mpr ⟨by decide, Or.inr hcomma⟩
  have hmem : ',' ∈ quote safe (k.textBytes v) ↔ ',' ∈ v :=
    Percent.mem_quote_textBytes_iff hk hkeeps (by decide) (by decide)
  have hempty : ∀ p ∈ (Text.pieces ',' v).reverse, quote safe (k.textBytes p) = [] ↔ p = [] :=
    fun p hp => Percent.quote_textBytes_eq_nil_iff hk fun x hx =>
      hv x (Text.mem_of_mem_pieces (List.mem_reverse.mp hp) x hx)
  simp only [valuesOf, List.contains_iff_mem, hmem]
  split
  · rw [splitList, splitList, Percent.pieces_quote hk hkeeps (by decide) (by decide),
      ← List.map_reverse, dropWhile_map_of_eq_nil_iff hempty, List.map_reverse]
  · rfl

/-! ### Expansion -/

/-- The text can stand for itself as a name or a value: it is not blank, has bytes in the charset,
opens no brace and holds no percent sign. -/
structure IsVerbatim (c : Charset) (t : Text) : Prop where
  ink : Text.hasInk t = true
  no_brace : Token.openBrace ∉ t
  no_percent : '%' ∉ t
  bytes : c.CanEncode t

theorem IsVerbatim.ne_nil {c : Charset} {t : Text} (h : IsVerbatim c t) : t ≠ [] := by
  rintro rfl
  exact absurd h.ink (by decide)

/-- A name of unreserved characters stands for itself in every ASCII-compatible charset. -/
theorem isVerbatim_of_isUnreserved {c : Charset} (hc : c.IsAsciiCompatible) {t : Text} (hne : t ≠ [])
    (hall : t.all isUnreserved = true) : IsVerbatim c t := by
  obtain ⟨k, hc, hk⟩ := hc
  have h : ∀ x ∈ t, isUnreserved x = true := List.all_eq_true.mp hall
  have hascii : ∀ m < 0x80, isUnreserved (Char.ofNat m) = true →
      Text.isBlank (Char.ofNat m) = false := by
    decide +kernel
  have hblank : ∀ x ∈ t, Text.isBlank x = false := fun x hx => by
    have := hascii x.toNat (Percent.ascii_of_isUnreserved (h x hx))
    rw [Char.ofNat_toNat] at this
    exact this (h x hx)
  refine ⟨?_, fun hopen => ?_, fun hpercent => ?_, (Charset.canEncode_iff hc hk).mpr ?_⟩
  · obtain ⟨x, hx⟩ := List.exists_mem_of_ne_nil t hne
    exact List.any_eq_true.mpr ⟨x, hx, by simp [hblank x hx]⟩
  · exact absurd (h _ hopen) (by decide)
  · exact absurd (h _ hpercent) (by decide)
  · exact Codec.encodes_of_ascii hk fun x hx => Percent.ascii_of_isUnreserved (h x hx)

/-- **A parameter with a literal value stands for the parts of the value between its commas.**
Without any part but empty ones it is missing, whatever the variables. -/
theorem exists_create_literal {c : Charset} (hcharset : c.IsAsciiCompatible) (f : CollectionFormat)
    (decodeSlash : Bool) {n v : Text} (hn : IsVerbatim c n) (hv : IsVerbatim c v) :
    ∃ q r, create n [some v] c f decodeSlash = .ok q ∧ (∀ vars, q.expand vars = .ok r) ∧
      (valuesOf v = [] → r = none) ∧
      (valuesOf v ≠ [] → ∃ t, r = some t ∧ f.Reads c n (valuesOf v) t) := by
  obtain ⟨k, hc, hk⟩ := hcharset
  have hencodes : ∀ {t}, IsVerbatim c t → k.Encodes t := fun ht =>
    (Charset.canEncode_iff hc hk).mp ht.bytes
  have hescape : ∀ {t}, IsVerbatim c t → Percent.hasEscape t = false := fun ht =>
    Percent.hasEscape_of_notMem ht.no_percent
  obtain ⟨nameTemplate, hname, hnamed⟩ := Template.expand_literal hc hk (s := nameSettings c)
    rfl rfl hn.ne_nil hn.no_brace (hescape hn) (hencodes hn)
  obtain ⟨valueTemplate, hvalue, hvalued⟩ := Template.expand_literal hc hk
    (s := valueSettings c decodeSlash) rfl rfl hv.ne_nil hv.no_brace (hescape hv) (hencodes hv)
  have hcreate : create n [some v] c f decodeSlash
      = .ok ⟨nameTemplate, [valueTemplate], c, f, decodeSlash⟩ := by
    have hgiven : given [some v] = [v] := by simp [given, hv.ink]
    rw [create, if_neg hn.ne_nil, Charset.orUtf8_eq_self hc, hgiven]
    simp only [hname, parseAll, hvalue, bind_ok]
  have hvalues : ∀ vars, expandValues vars [valueTemplate]
      = .ok ((valuesOf v).map fun w => quote Percent.isReserved (k.textBytes w)) := fun vars => by
    simp only [expandValues, hvalued vars, bind_ok, Option.map_some, Option.getD_some,
      List.append_nil, valuesOf_quote hk (show Percent.isReserved ',' = true by decide)
        (hencodes hv)]
  have hexpand := fun vars => expand_of_values
    (q := ⟨nameTemplate, [valueTemplate], c, f, decodeSlash⟩) (hnamed vars) rfl (hvalues vars)
  by_cases hnone : valuesOf v = []
  · refine ⟨_, none, hcreate, fun vars => ?_, fun _ => rfl, fun h => absurd hnone h⟩
    rw [hexpand vars, hnone, List.map_nil, if_pos rfl]
  · have hparts : ∀ w ∈ valuesOf v, Percent.hasEscape w = false ∧ k.Encodes w := fun w hw =>
      ⟨Percent.hasEscape_of_notMem fun h => hv.no_percent (mem_of_mem_valuesOf hw _ h),
        fun x hx => hencodes hv x (mem_of_mem_valuesOf hw x hx)⟩
    have hjoin := join_quote hc hk f (show Percent.isReserved '%' = false by decide) hnone
      ⟨hescape hn, hencodes hn⟩ hparts
    simp only [if_neg (mt List.map_eq_nil_iff.mp hnone), hjoin] at hexpand
    refine ⟨_, _, hcreate, hexpand, fun h => absurd h hnone, fun _ => ⟨_, rfl, ?_⟩⟩
    exact CollectionFormat.reads_joined hc hk (fun x hx => (Bool.and_eq_true_iff.mp hx).2)
      (fun x hx => (Bool.and_eq_true_iff.mp hx).2) f hnone (hencodes hn) fun w hw =>
        (hparts w hw).2

end QueryTemplate

end HttpTemplates
