import HttpTemplates.Proofs.Percent.Encoding

/-!
# Texts that look encoded

The encoders pass on a text that looks encoded: it holds an escape, and nothing but percent signs
and unreserved characters. All others go to the reserved-aware encoder. **The two ways give the same
result unless the text is misread**, which means that it looks encoded and yet holds a percent sign
that begins no escape, as `%41%` does (`encoders_agree_iff`). Such a text is passed on with its stray
percent signs, which are escaped in every other text.

For the other proofs, `encodeUnlessEncoded_eq` writes the result as a total function, and
`encodeUnlessEncoded_eq_ok` names two conditions under which nothing is misread.
-/

namespace HttpTemplates.Percent

/-! ### The test -/

/-- Whether a text looks encoded: its characters are unreserved or percent signs, and it holds an
escape. -/
def looksEncoded (t : Text) : Bool :=
  t.all isPlain && hasEscape t

/-- The text looks encoded, but one of its percent signs begins no escape. -/
def IsMisread (t : Text) : Prop :=
  looksEncoded t = true ∧ hasStray t = true

instance (t : Text) : Decidable (IsMisread t) :=
  inferInstanceAs (Decidable (_ ∧ _))

/-- The text itself if it looks encoded, and otherwise with everything encoded but the unreserved and
safe characters and the escapes. -/
def encoded (safe : Char → Bool) (k : Codec) (t : Text) : Text :=
  if looksEncoded t then t else escaped safe k t

theorem looksEncoded_iff {t : Text} :
    looksEncoded t = true ↔ (∀ x ∈ t, isPlain x = true) ∧ hasEscape t = true := by
  rw [looksEncoded, Bool.and_eq_true, List.all_eq_true]

section AsciiCompatible

variable {c : Charset} {k : Codec} (hc : c.codec = .ok k) (hk : k.IsAsciiCompatible)
variable {t : Text}

include hk

/-- The byte of a plain character may occur in an encoded text. -/
theorem isEncodedByte_of_isPlain {x : Char} (hx : isPlain x = true) :
    ∀ b ∈ k.charBytes x, isEncodedByte b = true := by
  have hascii : x.toNat < 0x80 := by
    rcases isPlain_iff.mp hx with h | rfl
    · exact ascii_of_isUnreserved h
    · decide
  have hbyte : (UInt8.ofNat x.toNat).toNat = x.toNat :=
    UInt8.toNat_ofNat_of_lt' (show x.toNat < 256 by omega)
  rw [Codec.charBytes_ascii hk hascii, List.forall_mem_singleton]
  rcases isPlain_iff.mp hx with h | rfl
  · have hkept : keepsByte noneSafe (.ofNat x.toNat) = true :=
      keepsByte_iff.mpr ⟨by rwa [hbyte], Or.inl (by rwa [hbyte, Char.ofNat_toNat])⟩
    rw [isEncodedByte, hkept, Bool.or_true]
  · decide

include hc

/-- The bytes of a text look encoded if and only if its characters do. -/
theorem isEncoded_eq (ht : k.Encodes t) : isEncoded c t = .ok (looksEncoded t) := by
  have hbytes : (k.textBytes t).all isEncodedByte = t.all isPlain := by
    rw [Bool.eq_iff_iff, List.all_eq_true, List.all_eq_true]
    constructor
    · intro h x hx
      exact isPlain_of_charBytes hk (ht x hx) fun b hb => h b (Codec.mem_textBytes hx hb)
    · intro h b hb
      obtain ⟨x, hx, hb⟩ := List.mem_flatMap.mp hb
      exact isEncodedByte_of_isPlain hk (h x hx) b hb
  rw [isEncoded, Charset.encode_eq_ok hc hk ht, bind_ok, hbytes, looksEncoded]

/-- **An encoder that tests for encoded texts succeeds on every text that has bytes.** -/
theorem encodeUnlessEncoded_eq (safe : Char → Bool) (ht : k.Encodes t) :
    encodeUnlessEncoded safe c t = .ok (encoded safe k t) := by
  rw [encodeUnlessEncoded, isEncoded_eq hc hk ht, bind_ok, encoded]
  split
  · rfl
  · exact (encodeReserved_eq_ok_iff hc hk).mpr ⟨ht, rfl⟩

end AsciiCompatible

/-! ### Agreement -/

section Agreement

variable {k : Codec} (hk : k.IsAsciiCompatible) {safe : Char → Bool} {t : Text}

theorem encoded_of_isMisread (h : IsMisread t) : encoded safe k t = t := by
  rw [encoded, if_pos h.1]

include hk

/-- A text that looks encoded is encoded already, unless it is misread. -/
theorem encoded_of_not_isMisread (h : ¬ IsMisread t) : encoded safe k t = escaped safe k t := by
  rw [encoded]
  split
  · next hlooks =>
      obtain ⟨hplain, -⟩ := looksEncoded_iff.mp hlooks
      have hstray : hasStray t = false := Bool.eq_false_iff.mpr fun hs => h ⟨hlooks, hs⟩
      exact (escaped_eq_self safe hk (fun x hx => isPlain_iff.mp (hplain x hx)) hstray).symm
  · rfl

/-- Every percent sign of the result begins an escape, unless the text is misread. -/
theorem hasStray_encoded_iff (hpercent : safe '%' = false) :
    hasStray (encoded safe k t) = false ↔ ¬ IsMisread t := by
  by_cases h : IsMisread t
  · rw [encoded_of_isMisread h, h.2]
    simp [h]
  · rw [encoded_of_not_isMisread hk h, hasStray_escaped hk safe hpercent]
    simp [h]

/-- The test makes no difference, unless the text is misread. -/
theorem escaped_eq_encoded_iff (hpercent : safe '%' = false) :
    escaped safe k t = encoded safe k t ↔ ¬ IsMisread t := by
  rw [← hasStray_encoded_iff hk hpercent]
  constructor
  · intro h
    rw [← h, hasStray_escaped hk safe hpercent]
  · intro h
    exact (encoded_of_not_isMisread hk ((hasStray_encoded_iff hk hpercent).mp h)).symm

end Agreement

/-! ### The encoded text -/

theorem mem_encoded {safe : Char → Bool} {k : Codec} {t : Text} {x : Char}
    (h : x ∈ encoded safe k t) : isPlain x = true ∨ safe x = true := by
  rw [encoded] at h
  split at h
  · next hlooks => exact Or.inl ((looksEncoded_iff.mp hlooks).1 x h)
  · exact (or_assoc.mpr (mem_escaped safe k h)).imp_left isPlain_iff.mpr

theorem encoded_eq_nil_iff {safe : Char → Bool} {k : Codec} (hk : k.IsAsciiCompatible)
    {t : Text} (ht : k.Encodes t) : encoded safe k t = [] ↔ t = [] := by
  rw [encoded]
  split
  · rfl
  · exact escaped_eq_nil_iff safe hk ht

/-- Nothing is misread in a text in which all percent signs begin escapes, nor in one without
escapes. -/
theorem encodeUnlessEncoded_eq_ok {safe : Char → Bool} {c : Charset} {k : Codec}
    (hc : c.codec = .ok k) (hk : k.IsAsciiCompatible) {t : Text} (ht : k.Encodes t)
    (h : hasStray t = false ∨ hasEscape t = false) :
    encodeUnlessEncoded safe c t = .ok (escaped safe k t) := by
  have hread : ¬ IsMisread t := by
    rintro ⟨hlooks, hstray⟩
    rcases h with h | h
    · rw [hstray] at h; exact absurd h (by simp)
    · rw [(looksEncoded_iff.mp hlooks).2] at h; exact absurd h (by simp)
  rw [encodeUnlessEncoded_eq hc hk safe ht, encoded_of_not_isMisread hk hread]

/-- A text without escapes is encoded byte by byte. -/
theorem encodeUnlessEncoded_eq_quote {safe : Char → Bool} {c : Charset} {k : Codec}
    (hc : c.codec = .ok k) (hk : k.IsAsciiCompatible) {t : Text} (ht : k.Encodes t)
    (h : hasEscape t = false) :
    encodeUnlessEncoded safe c t = .ok (quote safe (k.textBytes t)) := by
  rw [encodeUnlessEncoded_eq_ok hc hk ht (Or.inr h), escaped_of_not_hasEscape safe k h]

/-! ### The encoders -/

/-- The encoders of values, of texts with delimiters, of paths, of query strings and of their names
and values, each behind the delimiters that it keeps. -/
def encoders (c : Charset) : List ((Char → Bool) × (Text → Except Error Text)) :=
  [(noneSafe, encode c false), (isReserved, encode c true), (isPathSafe, pathEncode c),
    (isQuerySafe, queryEncode c), (isQueryParamSafe, queryParamEncode c)]

/-- All encoders have the test in common, and none keeps the percent sign. -/
theorem eq_of_mem_encoders {c : Charset} {e : (Char → Bool) × (Text → Except Error Text)}
    (he : e ∈ encoders c) : e.2 = encodeUnlessEncoded e.1 c ∧ e.1 '%' = false := by
  simp only [encoders, List.mem_cons, List.not_mem_nil, or_false] at he
  rcases he with rfl | rfl | rfl | rfl | rfl
  all_goals exact ⟨rfl, rfl⟩

/-- **The encoders agree with the reserved-aware encoder, unless they misread the text.** In an
ASCII-compatible charset each of them has a result on a text that has bytes in it. That is the result
of the reserved-aware encoder with the same delimiters if and only if the text is not misread, and
its percent signs all begin escapes if and only if the text is not misread. A misread text is passed
on as it is. -/
theorem encoders_agree_iff {c : Charset} (hc : c.IsAsciiCompatible) {t : Text}
    (ht : c.CanEncode t) {e : (Char → Bool) × (Text → Except Error Text)} (he : e ∈ encoders c) :
    ∃ w, e.2 t = .ok w
      ∧ (encodeReserved e.1 c t = .ok w ↔ ¬ IsMisread t)
      ∧ (hasStray w = false ↔ ¬ IsMisread t)
      ∧ (IsMisread t → w = t) := by
  obtain ⟨k, hcodec, hk⟩ := hc
  have hencodes : k.Encodes t := (Charset.canEncode_iff hcodec hk).mp ht
  obtain ⟨hencoder, hpercent⟩ := eq_of_mem_encoders he
  refine ⟨encoded e.1 k t, ?_, ?_, hasStray_encoded_iff hk hpercent, encoded_of_isMisread⟩
  · rw [hencoder, encodeUnlessEncoded_eq hcodec hk e.1 hencodes]
  · rw [encodeReserved_eq_ok_iff hcodec hk, ← escaped_eq_encoded_iff hk hpercent (k := k)]
    exact and_iff_right hencodes

/-- A path with a stray percent sign and an escape is not misread, because of its slash. -/
theorem encoders_agree_path : Charset.utf8.IsAsciiCompatible ∧ Charset.utf8.CanEncode "/50%/%41".toList
    ∧ (isPathSafe, pathEncode .utf8) ∈ encoders .utf8
    ∧ ¬ IsMisread "/50%/%41".toList
    ∧ ∃ w, pathEncode .utf8 "/50%/%41".toList = .ok w
      ∧ encodeReserved isPathSafe .utf8 "/50%/%41".toList = .ok w ∧ hasStray w = false := by
  have hc := Charset.isAsciiCompatible_utf8
  have ht := Charset.canEncode_utf8 "/50%/%41".toList
  have he : (isPathSafe, pathEncode .utf8) ∈ encoders .utf8 := by simp [encoders]
  have hread : ¬ IsMisread "/50%/%41".toList := by decide
  obtain ⟨w, hw, hagree, hstray, -⟩ := encoders_agree_iff hc ht he
  exact ⟨hc, ht, he, hread, w, hw, hagree.mpr hread, hstray.mpr hread⟩

/-- Not every text is encoded as by the reserved-aware encoder, and not every percent sign of an
encoded text begins an escape: `%41%` is passed on, and its last percent sign is not escaped. -/
theorem not_encoders_agree :
    (¬ ∀ (c : Charset) (t : Text), c.IsAsciiCompatible → c.CanEncode t →
      ∀ e ∈ encoders c, e.2 t = encodeReserved e.1 c t)
    ∧ ¬ ∀ (c : Charset) (t : Text), c.IsAsciiCompatible → c.CanEncode t →
      ∀ e ∈ encoders c, ∀ w, e.2 t = .ok w → hasStray w = false := by
  have hc := Charset.isAsciiCompatible_utf8
  have ht := Charset.canEncode_utf8 "%41%".toList
  have he : (noneSafe, encode .utf8 false) ∈ encoders .utf8 := by simp [encoders]
  have hpassed : encode .utf8 false "%41%".toList = .ok "%41%".toList :=
    toOption_eq_some_iff.mp (by decide +kernel)
  have hreserved : encodeReserved noneSafe .utf8 "%41%".toList = .ok "%41%25".toList :=
    toOption_eq_some_iff.mp (by decide +kernel)
  constructor
  · intro h
    have heq : encode .utf8 false "%41%".toList = encodeReserved noneSafe .utf8 "%41%".toList :=
      h _ _ hc ht _ he
    rw [hpassed, hreserved] at heq
    exact absurd (Except.ok.inj heq) (by decide)
  · intro h
    exact absurd (h _ _ hc ht _ he _ hpassed) (by decide)

end HttpTemplates.Percent
