import HttpTemplates.Proofs.Charset.AsciiCompatible

/-!
# Codings that keep ASCII

UTF-8, Latin-1, ASCII and code page 1252 are ASCII-compatible (`Coding.isAsciiCompatible_codec`). Most
of the work is in `Coding.units_textBytes`: the units of an encoded text are its characters, whatever
follows a character.
-/

namespace HttpTemplates

namespace Coding

/-- Whether ASCII characters are single bytes below 128 and all others only use higher ones. -/
def keepsAscii : Coding → Bool
  | .utf8 | .latin1 | .ascii | .cp1252 => true
  | .utf16 | .utf16le | .utf16be | .shiftJis => false

/-! ### Characters outside ASCII -/

/-- The code points of characters leave out the surrogates. -/
theorem toNat_scalar (c : Char) :
    c.toNat < 0xD800 ∨ (0xE000 ≤ c.toNat ∧ c.toNat < 0x110000) := by
  have h := c.valid
  simp only [UInt32.isValidChar, Nat.isValidChar] at h
  simp only [Char.toNat]
  omega

theorem utf8Char_ne_nil (c : Char) : utf8Char c ≠ [] := by
  simp only [utf8Char]
  split
  · simp
  · split
    · simp
    · split <;> simp

/-- In two, three and four bytes alike, the leading bits do not carry into the eighth one. -/
theorem utf8Char_high {c : Char} (hc : 0x80 ≤ c.toNat) : ∀ b ∈ utf8Char c, 0x80 ≤ b.toNat := by
  have hvalid := toNat_scalar c
  simp only [utf8Char, if_neg (show ¬ c.toNat < 0x80 by omega)]
  split
  · simp only [List.forall_mem_cons, UInt8.toNat_ofNat', List.not_mem_nil, false_implies,
      implies_true, and_true]
    omega
  · split
    · simp only [List.forall_mem_cons, UInt8.toNat_ofNat', List.not_mem_nil, false_implies,
        implies_true, and_true]
      omega
    · simp only [List.forall_mem_cons, UInt8.toNat_ofNat', List.not_mem_nil, false_implies,
        implies_true, and_true]
      omega

theorem cp1252Char?_high {c : Char} (hc : 0x80 ≤ c.toNat) {b : UInt8}
    (h : cp1252Char? c = some b) : 0x80 ≤ b.toNat := by
  simp only [cp1252Char?] at h
  split at h
  · next hrange =>
      obtain rfl : UInt8.ofNat c.toNat = b := by simpa using h
      simp only [Bool.or_eq_true, Bool.and_eq_true, decide_eq_true_eq] at hrange
      simp only [UInt8.toNat_ofNat']
      omega
  · -- The index into the table is added to 128.
    obtain ⟨i, hi, rfl⟩ := Option.map_eq_some_iff.mp h
    obtain ⟨hlt, -⟩ := List.findIdx?_eq_some_iff_findIdx_eq.mp hi
    have hlen : cp1252Middle.length = 32 := rfl
    simp only [UInt8.toNat_ofNat']
    omega

/-! ### UTF-8 -/

theorem scalar?_toNat (c : Char) : scalar? c.toNat = some c := by
  have hvalid := toNat_scalar c
  simp only [scalar?, Bool.or_eq_true, Bool.and_eq_true, decide_eq_true_eq]
  rw [if_pos (by omega), Char.ofNat_toNat]

theorem isTail_iff {b : UInt8} : isTail b = true ↔ 0x80 ≤ b.toNat ∧ b.toNat < 0xC0 := by
  simp [isTail]

theorem tailBits_eq {b : UInt8} {n : Nat} (h : b.toNat = 0x80 + n) : tailBits b = n :=
  Nat.sub_eq_of_eq_add' h

/-- After a lead byte that would allow an overlong form, a surrogate or a code point that is too
large, fewer bytes continue a character. -/
theorem isSecond_iff {a b : UInt8} :
    isSecond a b = true ↔ (0x80 ≤ b.toNat ∧ b.toNat < 0xC0) ∧ (a.toNat = 0xE0 → 0xA0 ≤ b.toNat)
      ∧ (a.toNat = 0xED → b.toNat < 0xA0) ∧ (a.toNat = 0xF0 → 0x90 ≤ b.toNat)
      ∧ (a.toNat = 0xF4 → b.toNat < 0x90) := by
  simp only [isSecond, ← UInt8.toNat_inj, UInt8.reduceToNat]
  split
  · simp; omega
  · split
    · simp; omega
    · split
      · simp; omega
      · split
        · simp; omega
        · rw [isTail_iff]; omega

section Units

variable {a b d e : UInt8} {c : Char} (rest : Bytes)

theorem utf8Units_one (ha : a.toNat = c.toNat) (hhigh : c.toNat < 0x80) :
    utf8Units (a :: rest) = some c :: utf8Units rest := by
  rw [utf8Units.eq_def]
  simp only [ha, if_pos hhigh, Char.ofNat_toNat]

theorem utf8Units_two (ha : a.toNat = 0xC0 + c.toNat / 64) (hb : b.toNat = 0x80 + c.toNat % 64)
    (hlow : 0x80 ≤ c.toNat) (hhigh : c.toNat < 0x800) :
    utf8Units (a :: b :: rest) = some c :: utf8Units rest := by
  have hlead : (decide (a.toNat < 0xC2) || decide (0xF5 ≤ a.toNat)) = false := by simp; omega
  have htail : isTail b = true := isTail_iff.mpr (by omega)
  have hcode : (a.toNat - 0xC0) * 64 + tailBits b = c.toNat := by
    rw [Nat.sub_eq_of_eq_add' ha, tailBits_eq hb]; omega
  rw [utf8Units.eq_def]
  simp only [if_neg (show ¬ a.toNat < 0x80 by omega), hlead, Bool.false_eq_true, if_false,
    if_pos (show a.toNat < 0xE0 by omega), htail, if_true, hcode, scalar?_toNat]

theorem utf8Units_three (ha : a.toNat = 0xE0 + c.toNat / 4096)
    (hb : b.toNat = 0x80 + c.toNat / 64 % 64) (hd : d.toNat = 0x80 + c.toNat % 64)
    (hlow : 0x800 ≤ c.toNat) (hhigh : c.toNat < 0x10000) :
    utf8Units (a :: b :: d :: rest) = some c :: utf8Units rest := by
  have hvalid := toNat_scalar c
  have hlead : (decide (a.toNat < 0xC2) || decide (0xF5 ≤ a.toNat)) = false := by simp; omega
  -- The second byte is above that of an overlong form and, by `hvalid`, not that of a surrogate.
  have hsecond : isSecond a b = true := isSecond_iff.mpr (by omega)
  have htail : isTail d = true := isTail_iff.mpr (by omega)
  have hcode : (a.toNat - 0xE0) * 4096 + tailBits b * 64 + tailBits d = c.toNat := by
    rw [Nat.sub_eq_of_eq_add' ha, tailBits_eq hb, tailBits_eq hd]; omega
  rw [utf8Units.eq_def]
  simp only [if_neg (show ¬ a.toNat < 0x80 by omega), hlead, Bool.false_eq_true, if_false,
    if_neg (show ¬ a.toNat < 0xE0 by omega), hsecond, htail,
    if_pos (show a.toNat < 0xF0 by omega), if_true, hcode, scalar?_toNat]

theorem utf8Units_four (ha : a.toNat = 0xF0 + c.toNat / 262144)
    (hb : b.toNat = 0x80 + c.toNat / 4096 % 64) (hd : d.toNat = 0x80 + c.toNat / 64 % 64)
    (he : e.toNat = 0x80 + c.toNat % 64) (hlow : 0x10000 ≤ c.toNat) :
    utf8Units (a :: b :: d :: e :: rest) = some c :: utf8Units rest := by
  have hvalid := toNat_scalar c
  have hlead : (decide (a.toNat < 0xC2) || decide (0xF5 ≤ a.toNat)) = false := by simp; omega
  have hsecond : isSecond a b = true := isSecond_iff.mpr (by omega)
  have htail : isTail d = true := isTail_iff.mpr (by omega)
  have htail' : isTail e = true := isTail_iff.mpr (by omega)
  have hcode : (a.toNat - 0xF0) * 262144 + tailBits b * 4096 + tailBits d * 64 + tailBits e
      = c.toNat := by
    rw [Nat.sub_eq_of_eq_add' ha, tailBits_eq hb, tailBits_eq hd, tailBits_eq he]; omega
  rw [utf8Units.eq_def]
  simp only [if_neg (show ¬ a.toNat < 0x80 by omega), hlead, Bool.false_eq_true, if_false,
    if_neg (show ¬ a.toNat < 0xE0 by omega), hsecond, htail, htail',
    if_neg (show ¬ a.toNat < 0xF0 by omega), if_true, hcode, scalar?_toNat]

end Units

/-- The first unit of bytes that begin with a character is that character. -/
theorem utf8Units_utf8Char (c : Char) (rest : Bytes) :
    utf8Units (utf8Char c ++ rest) = some c :: utf8Units rest := by
  have hvalid := toNat_scalar c
  have hbyte : ∀ n < 256, (UInt8.ofNat n).toNat = n := fun n hn => UInt8.toNat_ofNat_of_lt' hn
  -- As many bytes as the size of the code point takes.
  simp only [utf8Char]
  split
  · next h1 => exact utf8Units_one rest (hbyte _ (by omega)) h1
  · split
    · next h2 =>
        exact utf8Units_two rest (hbyte _ (by omega)) (hbyte _ (by omega)) (by omega) h2
    · split
      · next h3 =>
          exact utf8Units_three rest (hbyte _ (by omega)) (hbyte _ (by omega))
            (hbyte _ (by omega)) (by omega) h3
      · exact utf8Units_four rest (hbyte _ (by omega)) (hbyte _ (by omega))
          (hbyte _ (by omega)) (hbyte _ (by omega)) (by omega)

/-! ### Code page 1252 -/

/-- The byte of a character in code page 1252 stands for that character. -/
theorem cp1252Unit_cp1252Char? {c : Char} {b : UInt8} (h : cp1252Char? c = some b) :
    cp1252Unit b = some c := by
  have hvalid := toNat_scalar c
  simp only [cp1252Char?] at h
  split at h
  · next hrange =>
      obtain rfl : UInt8.ofNat c.toNat = b := by simpa using h
      simp only [Bool.or_eq_true, Bool.and_eq_true, decide_eq_true_eq] at hrange
      have hb : (UInt8.ofNat c.toNat).toNat = c.toNat :=
        UInt8.toNat_ofNat_of_lt' (show c.toNat < 256 by omega)
      have hout : (decide (0x80 ≤ c.toNat) && decide (c.toNat < 0xA0)) = false := by simp; omega
      simp only [cp1252Unit, hb, hout, Bool.false_eq_true, if_false, Char.ofNat_toNat]
  · next hrange =>
      obtain ⟨i, hi, rfl⟩ := Option.map_eq_some_iff.mp h
      obtain ⟨hlt, hmem, -⟩ := List.findIdx?_eq_some_iff_getElem.mp hi
      have hlen : cp1252Middle.length = 32 := rfl
      have hb : (UInt8.ofNat (0x80 + i)).toNat = 0x80 + i := by
        rw [UInt8.toNat_ofNat']; omega
      have hin : (decide (0x80 ≤ 0x80 + i) && decide (0x80 + i < 0xA0)) = true := by simp; omega
      have hget : cp1252Middle[0x80 + i - 0x80]? = some c.toNat := by
        rw [Nat.add_sub_cancel_left, List.getElem?_eq_getElem hlt]
        exact congrArg some (beq_iff_eq.mp hmem)
      -- A byte without a character is marked by 0, which is the code point of another character.
      have hpos : c.toNat ≠ 0 := fun h0 => by simp [h0] at hrange
      simp only [cp1252Unit, hb, hin, if_true, hget]
      rw [Char.ofNat_toNat]

/-! ### Characters of ASCII and others -/

section KeepsAscii

variable {j : Coding} (hj : j.keepsAscii = true)

include hj

theorem mark_eq_nil : j.mark = [] := by
  cases j with
  | utf16 => exact absurd hj (by decide)
  | _ => rfl

theorem encodeChar?_ascii {c : Char} (hc : c.toNat < 0x80) :
    j.encodeChar? c = some [.ofNat c.toNat] := by
  cases j with
  | utf8 => simp [encodeChar?, utf8Char, hc]
  | latin1 => simp [encodeChar?, show c.toNat < 0x100 by omega]
  | ascii => simp [encodeChar?, hc]
  | cp1252 => simp [encodeChar?, cp1252Char?, hc]
  | _ => simp [keepsAscii] at hj

theorem high_of_encodeChar? {c : Char} {bytes : Bytes} (hc : 0x80 ≤ c.toNat)
    (h : j.encodeChar? c = some bytes) : bytes ≠ [] ∧ ∀ b ∈ bytes, 0x80 ≤ b.toNat := by
  cases j with
  | utf8 =>
      obtain rfl : utf8Char c = bytes := by simpa [encodeChar?] using h
      exact ⟨utf8Char_ne_nil c, utf8Char_high hc⟩
  | latin1 =>
      simp only [encodeChar?, Option.ite_none_right_eq_some, Option.some.injEq] at h
      obtain ⟨hlt, rfl⟩ := h
      simp
      omega
  | ascii =>
      simp only [encodeChar?, Option.ite_none_right_eq_some] at h
      omega
  | cp1252 =>
      obtain ⟨b, hb, rfl⟩ := Option.map_eq_some_iff.mp h
      simpa using cp1252Char?_high hc hb
  | _ => simp [keepsAscii] at hj

/-! ### Texts -/

/-- What the codec makes of a single character. -/
theorem encodeChar?_codec (c : Char) : j.codec.encodeChar? c = j.encodeChar? c := by
  simp only [Codec.encodeChar?, codec, encode, encodeChars?, mark_eq_nil hj]
  cases j.encodeChar? c <;> simp [Except.toOption]

/-- The bytes of a text are those of its characters, if each of them has some. -/
theorem encodeChars?_eq_some_iff {t : Text} {bytes : Bytes} :
    j.encodeChars? t = some bytes ↔ j.codec.Encodes t ∧ j.codec.textBytes t = bytes := by
  induction t generalizing bytes with
  | nil => simp [encodeChars?]
  | cons c rest ih =>
      rw [encodeChars?, Codec.encodes_cons, encodeChar?_codec hj]
      cases hc : j.encodeChar? c with
      | none => simp
      | some b =>
          have hb : j.codec.charBytes c = b :=
            Codec.charBytes_of_some ((encodeChar?_codec hj c).trans hc)
          cases hrest : j.encodeChars? rest with
          | none =>
              have hnot : ¬ j.codec.Encodes rest := fun h => by
                have := ih.mpr ⟨h, rfl⟩
                rw [hrest] at this
                exact absurd this (by simp)
              simp [hnot]
          | some bs =>
              obtain ⟨henc, hbs⟩ := ih.mp hrest
              simp [henc, hbs, hb]

theorem encode_eq_ok_iff {t : Text} {bytes : Bytes} :
    j.encode t = .ok bytes ↔ j.codec.Encodes t ∧ j.codec.textBytes t = bytes := by
  rw [← encodeChars?_eq_some_iff hj, encode, mark_eq_nil hj]
  cases j.encodeChars? t <;> simp

/-- The units of an encoded text are its characters. -/
theorem units_textBytes {t : Text} (ht : j.codec.Encodes t) :
    j.units (j.codec.textBytes t) = t.map some := by
  induction t with
  | nil => cases j <;> simp [units, utf8Units] <;> simp [keepsAscii] at hj
  | cons c rest ih =>
      obtain ⟨hc, hrest⟩ := Codec.encodes_cons.mp ht
      obtain ⟨bytes, hcode⟩ := Option.isSome_iff_exists.mp hc
      have ih := ih hrest
      rw [Codec.textBytes_cons, Codec.charBytes_of_some hcode, List.map_cons]
      rw [encodeChar?_codec hj] at hcode
      -- UTF-8 is read character by character, the other codings byte by byte.
      cases j with
      | utf8 =>
          obtain rfl : utf8Char c = bytes := by simpa [encodeChar?] using hcode
          simp only [units] at ih ⊢
          rw [utf8Units_utf8Char, ih]
      | latin1 =>
          simp only [encodeChar?, Option.ite_none_right_eq_some, Option.some.injEq] at hcode
          obtain ⟨hlt, rfl⟩ := hcode
          have hb : (UInt8.ofNat c.toNat).toNat = c.toNat :=
            UInt8.toNat_ofNat_of_lt' (show c.toNat < 256 by omega)
          simp only [units] at ih ⊢
          rw [List.cons_append, List.nil_append, List.map_cons, ih, hb, Char.ofNat_toNat]
      | ascii =>
          simp only [encodeChar?, Option.ite_none_right_eq_some, Option.some.injEq] at hcode
          obtain ⟨hlt, rfl⟩ := hcode
          have hb : (UInt8.ofNat c.toNat).toNat = c.toNat :=
            UInt8.toNat_ofNat_of_lt' (show c.toNat < 256 by omega)
          simp only [units] at ih ⊢
          rw [List.cons_append, List.nil_append, List.map_cons, ih, hb, if_pos hlt,
            Char.ofNat_toNat]
      | cp1252 =>
          obtain ⟨b, hb, rfl⟩ := Option.map_eq_some_iff.mp hcode
          simp only [units] at ih ⊢
          rw [List.cons_append, List.nil_append, List.map_cons, ih, cp1252Unit_cp1252Char? hb]
      | _ => simp [keepsAscii] at hj

omit hj in
theorem mapM_id_map_some (t : Text) : (t.map some).mapM id = some t := by
  induction t with
  | nil => rfl
  | cons c rest ih => simp [List.mapM_cons, ih]

theorem decode_textBytes {t : Text} (ht : j.codec.Encodes t) :
    j.decode (j.codec.textBytes t) = .ok t := by
  rw [decode, decode?, units_textBytes hj ht, mapM_id_map_some]

/-- **A coding that keeps ASCII is ASCII-compatible.** -/
theorem isAsciiCompatible_codec : j.codec.IsAsciiCompatible where
  encode_eq_ok_iff := encode_eq_ok_iff hj
  encodeChar?_ascii hc := (encodeChar?_codec hj _).trans (encodeChar?_ascii hj hc)
  high_of_encodeChar? hc h := high_of_encodeChar? hj hc ((encodeChar?_codec hj _).symm.trans h)
  decode_textBytes ht _ := decode_textBytes hj ht

end KeepsAscii

/-! ### All codings -/

/-- A text has bytes if each of its characters has, and it holds those of each. -/
theorem encodeChars?_cases (j : Coding) (t : Text) :
    (∃ bytes, j.encodeChars? t = some bytes ∧
        ∀ x ∈ t, ∃ code, j.encodeChar? x = some code ∧ code ⊆ bytes) ∨
      j.encodeChars? t = none ∧ ∃ x ∈ t, j.encodeChar? x = none := by
  induction t with
  | nil => exact Or.inl ⟨[], rfl, by simp⟩
  | cons c rest ih =>
      rw [encodeChars?]
      cases hc : j.encodeChar? c with
      | none => exact Or.inr ⟨rfl, c, List.mem_cons_self .., hc⟩
      | some code =>
          rcases ih with ⟨bytes, hrest, hall⟩ | ⟨hrest, x, hx, hnone⟩
          · refine Or.inl ⟨code ++ bytes, by rw [hrest], fun x hx => ?_⟩
            rcases List.mem_cons.mp hx with rfl | hx
            · exact ⟨code, hc, List.subset_append_left _ _⟩
            · obtain ⟨own, hown, hsub⟩ := hall x hx
              exact ⟨own, hown, List.subset_append_of_subset_right _ hsub⟩
          · exact Or.inr ⟨by rw [hrest], x, List.mem_cons_of_mem _ hx, hnone⟩

theorem exists_encode_iff (j : Coding) (t : Text) :
    (∃ bytes, j.encode t = .ok bytes) ↔ ∀ x ∈ t, (j.encodeChar? x).isSome := by
  rw [encode]
  rcases j.encodeChars?_cases t with ⟨bytes, h, hall⟩ | ⟨h, x, hx, hnone⟩
  · simp only [h, Except.ok.injEq, exists_eq', true_iff]
    intro x hx
    obtain ⟨code, hcode, -⟩ := hall x hx
    rw [hcode]
    rfl
  · simp only [h, reduceCtorEq, exists_false, false_iff]
    intro hall
    exact absurd (hall x hx) (by simp [hnone])

/-- The bytes of a text hold those of each of its characters. -/
theorem mem_of_encode {j : Coding} {t : Text} {bytes : Bytes} (h : j.encode t = .ok bytes)
    {x : Char} (hx : x ∈ t) : ∃ code, j.encodeChar? x = some code ∧ code ⊆ bytes := by
  rw [encode] at h
  rcases j.encodeChars?_cases t with ⟨rest, hrest, hall⟩ | ⟨hnone, -⟩
  · simp only [hrest, Except.ok.injEq] at h
    obtain ⟨code, hcode, hsub⟩ := hall x hx
    exact ⟨code, hcode, h ▸ List.subset_append_of_subset_right _ hsub⟩
  · simp [hnone] at h

/-- Every coding has the characters of ASCII. -/
theorem isSome_encodeChar?_of_ascii (j : Coding) {x : Char} (hx : x.toNat < 0x80) :
    (j.encodeChar? x).isSome := by
  cases j with
  | utf8 | utf16 | utf16le | utf16be => rfl
  | latin1 => simp [encodeChar?, show x.toNat < 0x100 by omega]
  | ascii => simp [encodeChar?, hx]
  | cp1252 => simp [encodeChar?, cp1252Char?, hx]
  | shiftJis => simp [encodeChar?, ShiftJis.encodeChar?, hx]

end Coding

namespace Charset

/-- A charset with the name of a coding has this coding, whatever is registered under the name. -/
theorem codec_of_codingNamed? {c : Charset} {name : Text} {j : Coding} (hname : c.name = some name)
    (hplain : name.contains '\x00' = false ∧ name ≠ []) (hj : codingNamed? name = some j) :
    c.codec = .ok j.codec := by
  simp only [codec, hname, hplain.1, hplain.2, hj, Bool.false_eq_true, if_false]

section Known

variable {c : Charset} {j : Coding} (hc : c.codec = .ok j.codec)

include hc

/-- With known rules, a text has bytes if each of its characters has. -/
theorem canEncode_iff_of_codec {t : Text} :
    c.CanEncode t ↔ ∀ x ∈ t, (j.encodeChar? x).isSome := by
  simp only [CanEncode, encode_eq_ok_iff_encode hc]
  exact j.exists_encode_iff t

theorem encodesByCharacter_of_codec : c.EncodesByCharacter := fun _ _ t h =>
  (canEncode_iff_of_codec hc).mpr fun x hx => by
    rcases h x hx with hascii | ⟨s, hs, hcan⟩
    · exact j.isSome_encodeChar?_of_ascii hascii
    · exact (canEncode_iff_of_codec hc).mp hcan x hs

end Known

/-- A name of a coding that keeps ASCII is one of an ASCII-compatible charset. -/
theorem isAsciiCompatible_named {name : Text} (j : Coding)
    (hplain : name.contains '\x00' = false ∧ name ≠ []) (hname : codingNamed? name = some j)
    (hj : j.keepsAscii = true) :
    (named name).IsAsciiCompatible :=
  ⟨j.codec, codec_of_codingNamed? rfl hplain hname, Coding.isAsciiCompatible_codec hj⟩

/-! ### UTF-8 -/

theorem codec_utf8 : utf8.codec = .ok Coding.utf8.codec :=
  codec_of_codingNamed? rfl (by decide) (by decide +kernel)

theorem isAsciiCompatible_utf8 : utf8.IsAsciiCompatible :=
  ⟨_, codec_utf8, Coding.isAsciiCompatible_codec rfl⟩

end Charset

/-- Every text has bytes in UTF-8. -/
theorem Codec.encodes_utf8 (t : Text) : Coding.utf8.codec.Encodes t := fun _ _ => by
  rw [Coding.encodeChar?_codec rfl]
  rfl

theorem Charset.canEncode_utf8 (t : Text) : utf8.CanEncode t :=
  (canEncode_iff codec_utf8 (Coding.isAsciiCompatible_codec rfl)).mpr (Codec.encodes_utf8 t)

end HttpTemplates
