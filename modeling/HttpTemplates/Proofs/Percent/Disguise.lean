import HttpTemplates.Proofs.Percent.Encoding

/-!
# Texts in disguise

An encoder passes on a text that looks encoded. It looks at the bytes, each of which has to be that
of an unreserved character or of a percent sign in ASCII, and **a charset may have another character
on such a byte**: in Shift JIS an overline is written as the byte of a tilde, so that `‾%41` looks
encoded and keeps its overline (`not_discerns_shiftJis`).

* `mem_encodeUnlessEncoded` — with whatever encoding, a text that is not in disguise is encoded to
  unreserved characters, safe ones and percent signs;
* `discerns_of_isAsciiCompatible` — in an ASCII-compatible charset no text is in disguise;
* `discerns_of_codec` — nor is any in a coding with known rules, Shift JIS apart;
* `discernsAscii_of_codec` — in Shift JIS too, only characters outside ASCII are.

The other results say when an encoder has a result at all.
-/

namespace HttpTemplates.Percent

/-! ### Disguise -/

/-- The text looks encoded although it holds a character that is neither unreserved nor a percent
sign. -/
def IsDisguised (c : Charset) (t : Text) : Prop :=
  isEncoded c t = .ok true ∧ ∃ x ∈ t, isPlain x = false

/-- A text in disguise has bytes, all of them of plain characters, and holds an escape. -/
theorem IsDisguised.exists_bytes {c : Charset} {t : Text} (h : IsDisguised c t) :
    ∃ bytes, c.encode t = .ok bytes ∧ (∀ b ∈ bytes, isEncodedByte b = true) ∧
      hasEscape t = true := by
  obtain ⟨bytes, hbytes, h⟩ := bind_eq_ok_iff.mp h.1
  obtain ⟨hall, hescape⟩ := Bool.and_eq_true_iff.mp (Except.ok.inj h)
  exact ⟨bytes, hbytes, List.all_eq_true.mp hall, hescape⟩

theorem IsDisguised.canEncode {c : Charset} {t : Text} (h : IsDisguised c t) : c.CanEncode t := by
  obtain ⟨bytes, hbytes, -⟩ := h.exists_bytes
  exact ⟨bytes, hbytes⟩

/-- The charset has no text in disguise. -/
def Discerns (c : Charset) : Prop :=
  ∀ t, ¬ IsDisguised c t

/-- In the charset, what a text in disguise hides is outside ASCII. -/
def DiscernsAscii (c : Charset) : Prop :=
  ∀ t, IsDisguised c t → ∀ x ∈ t, x.toNat < 0x80 → isPlain x = true

theorem Discerns.discernsAscii {c : Charset} (h : Discerns c) : DiscernsAscii c :=
  fun t ht => absurd ht (h t)

/-! ### What an encoded text holds -/

theorem isHexDigit_of_mem_pieces {t : Text} {h l : Char} (hmem : .escape h l ∈ pieces t) :
    Text.isHexDigit h = true ∧ Text.isHexDigit l = true := by
  induction t using escapeInduction with
  | nil => simp [pieces] at hmem
  | escape x y rest hx hy ih =>
      rw [pieces_escape hx hy] at hmem
      rcases List.mem_cons.mp hmem with heq | hmem
      · obtain ⟨rfl, rfl⟩ := Piece.escape.inj heq
        exact ⟨hx, hy⟩
      · exact ih hmem
  | char c rest hc ih =>
      rw [pieces_char hc] at hmem
      refine ih ?_
      cases hps : pieces rest with
      | nil => simp [hps, consRaw] at hmem
      | cons p ps => cases p <;> simpa [hps, consRaw] using hmem

/-- Encoded pieces hold unreserved characters, percent signs and safe characters, if the escapes are
written with hexadecimal digits. -/
theorem mem_encodePieces {safe : Char → Bool} {c : Charset} {ps : List Piece} {w : Text}
    (hhex : ∀ h l, .escape h l ∈ ps → Text.isHexDigit h = true ∧ Text.isHexDigit l = true)
    (h : encodePieces safe c ps = .ok w) {x : Char} (hx : x ∈ w) :
    isUnreserved x = true ∨ x = '%' ∨ safe x = true := by
  induction ps generalizing w with
  | nil =>
      obtain rfl : [] = w := Except.ok.inj h
      exact absurd hx (by simp)
  | cons p ps ih =>
      obtain ⟨head, hhead, h⟩ := bind_eq_ok_iff.mp h
      obtain ⟨tail, htail, h⟩ := bind_eq_ok_iff.mp h
      obtain rfl : head ++ tail = w := Except.ok.inj h
      rcases List.mem_append.mp hx with hx | hx
      · cases p with
        | raw t =>
            obtain ⟨bytes, -, rfl⟩ := map_eq_ok_iff.mp hhead
            exact mem_quote hx
        | escape y z =>
            obtain ⟨hy, hz⟩ := hhex y z (List.mem_cons_self ..)
            obtain rfl : ['%', y, z] = head := Except.ok.inj hhead
            simp only [List.mem_cons, List.not_mem_nil, or_false] at hx
            rcases hx with rfl | rfl | rfl
            · exact Or.inr (Or.inl rfl)
            · exact Or.inl (isUnreserved_of_isHexDigit hy)
            · exact Or.inl (isUnreserved_of_isHexDigit hz)
      · exact ih (fun h l hmem => hhex h l (List.mem_cons_of_mem _ hmem)) htail hx

/-- With whatever encoding, an encoded text holds nothing but unreserved characters, safe ones and
percent signs. -/
theorem mem_encodeReserved {safe : Char → Bool} {c : Charset} {t w : Text}
    (h : encodeReserved safe c t = .ok w) {x : Char} (hx : x ∈ w) :
    isPlain x = true ∨ safe x = true :=
  (or_assoc.mpr (mem_encodePieces (fun _ _ => isHexDigit_of_mem_pieces) h hx)).imp_left
    isPlain_iff.mpr

section Encoded

variable {safe : Char → Bool} {c : Charset} {t w : Text}
variable (h : encodeUnlessEncoded safe c t = .ok w)

include h

/-- Nothing else passes the test whether a text is encoded already, unless it is in disguise. -/
theorem mem_encodeUnlessEncoded {x : Char} (hx : x ∈ w) :
    isPlain x = true ∨ safe x = true ∨ IsDisguised c t := by
  obtain ⟨test, htest, h⟩ := bind_eq_ok_iff.mp h
  cases test with
  | true =>
      obtain rfl : t = w := Except.ok.inj h
      cases hplain : isPlain x with
      | true => exact Or.inl rfl
      | false => exact Or.inr (Or.inr ⟨htest, x, hx, hplain⟩)
  | false => exact (mem_encodeReserved h hx).imp_right Or.inl

/-- A text in disguise is passed on. -/
theorem eq_of_isDisguised (ht : IsDisguised c t) : w = t := by
  rw [encodeUnlessEncoded, ht.1] at h
  exact (Except.ok.inj h).symm

/-- Whatever else a result holds is a character of a text in disguise. -/
theorem mem_encodeUnlessEncoded_iff {x : Char} (hplain : isPlain x = false)
    (hsafe : safe x = false) : x ∈ w ↔ IsDisguised c t ∧ x ∈ t := by
  constructor
  · intro hx
    rcases mem_encodeUnlessEncoded h hx with hp | hs | ht
    · exact absurd hp (by simp [hplain])
    · exact absurd hs (by simp [hsafe])
    · exact ⟨ht, eq_of_isDisguised h ht ▸ hx⟩
  · rintro ⟨ht, hx⟩
    rwa [eq_of_isDisguised h ht]

/-- What has been encoded, or passed on as it was, is in a charset that names an encoding. -/
theorem exists_codec_of_encodeUnlessEncoded : ∃ k, c.codec = .ok k := by
  obtain ⟨test, htest, -⟩ := bind_eq_ok_iff.mp h
  obtain ⟨bytes, hbytes, -⟩ := bind_eq_ok_iff.mp htest
  exact Charset.exists_codec_of_encode hbytes

end Encoded

/-! ### Charsets without texts in disguise -/

/-- In an ASCII-compatible charset no text is in disguise. -/
theorem discerns_of_isAsciiCompatible {c : Charset} (hc : c.IsAsciiCompatible) : Discerns c := by
  intro t ht
  obtain ⟨k, hcodec, hk⟩ := hc
  obtain ⟨bytes, hbytes, hall, -⟩ := ht.exists_bytes
  obtain ⟨-, x, hx, hplain⟩ := ht
  obtain ⟨hencodes, rfl⟩ := (Charset.encode_eq_ok_iff hcodec hk).mp hbytes
  have := isPlain_of_charBytes hk (hencodes x hx) fun b hb => hall b (Codec.mem_textBytes hx hb)
  exact absurd this (by simp [hplain])

/-- Nor is any in a coding with known rules, Shift JIS apart: in units of two bytes a percent sign
brings a zero. -/
theorem discerns_of_codec {c : Charset} {j : Coding} (hc : c.codec = .ok j.codec)
    (hj : j ≠ .shiftJis) : Discerns c := by
  cases hkeeps : j.keepsAscii with
  | true => exact discerns_of_isAsciiCompatible ⟨_, hc, Coding.isAsciiCompatible_codec hkeeps⟩
  | false =>
      intro t ht
      have hzero : ∀ code, j.encodeChar? '%' = some code → 0 ∈ code := by
        cases j with
        | utf8 | latin1 | ascii | cp1252 => exact absurd hkeeps (by simp [Coding.keepsAscii])
        | shiftJis => exact absurd rfl hj
        | utf16 | utf16le | utf16be =>
            rintro code ⟨⟩
            decide
      obtain ⟨bytes, hbytes, hall, hescape⟩ := ht.exists_bytes
      obtain ⟨code, hcode, hsub⟩ := Coding.mem_of_encode
        ((Charset.encode_eq_ok_iff_encode hc).mp hbytes) (percent_mem_of_hasEscape hescape)
      exact absurd (hall 0 (hsub (hzero code hcode))) (by decide)

/-- With known rules, Shift JIS included, no delimiter of ASCII is in disguise. -/
theorem discernsAscii_of_codec {c : Charset} {j : Coding} (hc : c.codec = .ok j.codec) :
    DiscernsAscii c := by
  by_cases hj : j = .shiftJis
  · subst hj
    intro t ht x hx hascii
    obtain ⟨bytes, hbytes, hall, -⟩ := ht.exists_bytes
    obtain ⟨code, hcode, hsub⟩ :=
      Coding.mem_of_encode ((Charset.encode_eq_ok_iff_encode hc).mp hbytes) hx
    -- A character of ASCII is its own byte.
    obtain rfl : [.ofNat x.toNat] = code := by
      simpa [Coding.encodeChar?, ShiftJis.encodeChar?, hascii] using hcode
    exact isPlain_of_isEncodedByte hascii (hall _ (hsub (List.mem_singleton.mpr rfl)))
  · exact (discerns_of_codec hc hj).discernsAscii

/-- In Shift JIS the overline is in disguise in front of an escape. -/
theorem not_discerns_shiftJis : ¬ Discerns (Charset.named "shift_jis") := fun h =>
  h "‾%41" ⟨toOption_eq_some_iff.mp (by decide +kernel), '‾', by decide, by decide⟩

/-! ### Success -/

/-- The characters outside the escapes of a text are characters of the text. -/
theorem subset_of_mem_pieces {t u : Text} (h : .raw u ∈ pieces t) : u ⊆ t := fun x hx => by
  rw [← flatMap_text_pieces t]
  exact List.mem_flatMap.mpr ⟨_, h, hx⟩

section Success

variable {c : Charset} (safe : Char → Bool)

theorem exists_encodePieces {ps : List Piece} (h : ∀ u, .raw u ∈ ps → c.CanEncode u) :
    ∃ w, encodePieces safe c ps = .ok w := by
  induction ps with
  | nil => exact ⟨[], rfl⟩
  | cons p ps ih =>
      obtain ⟨tail, htail⟩ := ih fun u hu => h u (List.mem_cons_of_mem _ hu)
      obtain ⟨head, hhead⟩ : ∃ head, encodePiece safe c p = .ok head := by
        cases p with
        | escape x y => exact ⟨_, rfl⟩
        | raw u =>
            obtain ⟨bytes, hbytes⟩ := h u (List.mem_cons_self ..)
            obtain ⟨k, hc⟩ := Charset.exists_codec_of_encode hbytes
            rw [encodePiece, Charset.filled_eq_self hc, hbytes]
            exact ⟨_, rfl⟩
      exact ⟨head ++ tail, by rw [encodePieces, hhead, bind_ok, htail, bind_ok]⟩

/-- A text can be encoded if the charset has every text in its characters. -/
theorem exists_encodeUnlessEncoded {t : Text} (ht : c.CanEncodeIn t) :
    ∃ w, encodeUnlessEncoded safe c t = .ok w := by
  obtain ⟨bytes, hbytes⟩ := ht.canEncode
  rw [encodeUnlessEncoded, isEncoded, hbytes, bind_ok, bind_ok]
  split
  · exact ⟨t, rfl⟩
  · exact exists_encodePieces safe fun u hu => ht u (subset_of_mem_pieces hu)

end Success

end HttpTemplates.Percent
