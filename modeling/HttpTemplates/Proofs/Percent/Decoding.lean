import HttpTemplates.Proofs.Charset.Coding
import HttpTemplates.Proofs.Percent.Shortcut

/-!
# Decoding undoes encoding

The bytes of a text, encoded with any safe characters but the plus and the percent sign, decode to
that text (`decode_quote`). The encoded text is ASCII, so `decode` reads it as one run; if it holds
no percent sign `decode` leaves it alone, and then it is the text itself.
-/

namespace HttpTemplates.Percent

/-! ### Reading escapes -/

section Unescape

variable {safe : Char → Bool} (hpercent : safe '%' = false)

include hpercent

theorem ne_percent_of_keepsByte {b : UInt8} (h : keepsByte safe b = true) :
    Char.ofNat b.toNat ≠ '%' := by
  intro heq
  obtain ⟨-, h⟩ := keepsByte_iff.mp h
  rw [heq] at h
  rcases h with h | h
  · exact absurd h (by decide)
  · rw [hpercent] at h; exact absurd h (by simp)

/-- An encoded byte is read back, whatever follows it. -/
theorem unescape_quoteByte (b : UInt8) (rest : Text) :
    unescape (quoteByte safe b ++ rest) = b :: unescape rest := by
  have hb : b.toNat < 256 := b.toNat_lt
  rw [quoteByte]
  split
  · next hkept =>
      have hascii := (keepsByte_iff.mp hkept).1
      have hcode := toNat_ofNat_ascii _ hascii
      have hne := ne_percent_of_keepsByte hpercent hkept
      rw [List.cons_append, List.nil_append, unescape_char (startsEscape_cons_ne hne _), hcode,
        UInt8.ofNat_toNat]
  · have hhigh := isHexDigit_hexDigit (b.toNat / 16) (by omega)
    have hlow := isHexDigit_hexDigit (b.toNat % 16) (by omega)
    rw [escapeByte, List.cons_append, List.cons_append, List.cons_append, List.nil_append,
      unescape_escape hhigh hlow, numberIn_hexDigits, UInt8.ofNat_toNat]

/-- An encoded byte string is read back, whatever follows it. -/
theorem unescape_quote_append (bytes : Bytes) (rest : Text) :
    unescape (quote safe bytes ++ rest) = bytes ++ unescape rest := by
  induction bytes with
  | nil => rfl
  | cons b bytes ih =>
      rw [quote_cons, List.append_assoc, unescape_quoteByte hpercent, ih, List.cons_append]

theorem unescape_quote (bytes : Bytes) : unescape (quote safe bytes) = bytes := by
  simpa [unescape] using unescape_quote_append hpercent bytes []

theorem hasStray_quote (bytes : Bytes) : hasStray (quote safe bytes) = false := by
  induction bytes with
  | nil => rfl
  | cons b rest ih =>
      have hb : b.toNat < 256 := b.toNat_lt
      rw [quote_cons, quoteByte]
      split
      · next hkept =>
          have hne := ne_percent_of_keepsByte hpercent hkept
          rw [List.cons_append, List.nil_append, hasStray_char (startsEscape_cons_ne hne _), ih]
          simp [hne]
      · have hhigh := isHexDigit_hexDigit (b.toNat / 16) (by omega)
        have hlow := isHexDigit_hexDigit (b.toNat % 16) (by omega)
        rw [escapeByte, List.cons_append, List.cons_append, List.cons_append, List.nil_append,
          hasStray_escape hhigh hlow, ih]

end Unescape

theorem isAscii_of_mem_quote {safe : Char → Bool} {bytes : Bytes} {c : Char}
    (h : c ∈ quote safe bytes) : isAscii c = true := by
  obtain ⟨b, -, hb⟩ := List.mem_flatMap.mp h
  have hbyte : b.toNat < 256 := b.toNat_lt
  have hdigit : ∀ n < 16, isAscii (Text.hexDigit n) = true := by decide
  rw [quoteByte] at hb
  split at hb
  · next hkept =>
      have hascii := (keepsByte_iff.mp hkept).1
      obtain rfl := List.mem_singleton.mp hb
      simpa only [isAscii, toNat_ofNat_ascii _ hascii, decide_eq_true_eq] using hascii
  · simp only [escapeByte, List.mem_cons, List.not_mem_nil, or_false] at hb
    rcases hb with rfl | rfl | rfl
    · decide
    · exact hdigit _ (by omega)
    · exact hdigit _ (by omega)

theorem isAscii_of_mem_escaped {safe : Char → Bool} {k : Codec} {t : Text} {c : Char}
    (h : c ∈ escaped safe k t) : isAscii c = true := by
  have hdigit : ∀ {x : Char}, Text.isHexDigit x = true → isAscii x = true := fun hx => by
    simpa [isAscii] using ascii_of_isUnreserved (isUnreserved_of_isHexDigit hx)
  induction t using escapeInduction with
  | nil => simp at h
  | escape x l rest hx hl ih =>
      rw [escaped_escape safe k hx hl] at h
      simp only [List.mem_cons] at h
      rcases h with rfl | rfl | rfl | h
      · decide
      · exact hdigit hx
      · exact hdigit hl
      · exact ih h
  | char c' rest hc ih =>
      rw [escaped_char safe k hc] at h
      exact (List.mem_append.mp h).elim isAscii_of_mem_quote ih

/-- An encoded text has bytes in every ASCII-compatible charset. -/
theorem encodes_escaped {k : Codec} (hk : k.IsAsciiCompatible) (safe : Char → Bool)
    (t : Text) : k.Encodes (escaped safe k t) :=
  Codec.encodes_of_ascii hk fun x hx => by simpa [isAscii] using isAscii_of_mem_escaped hx

/-! ### Runs -/

/-- A text of ASCII characters is one run. -/
theorem asciiRuns_of_ascii {t : Text} (hne : t ≠ []) (h : ∀ c ∈ t, isAscii c = true) :
    asciiRuns t = [t] := by
  induction t with
  | nil => exact absurd rfl hne
  | cons c rest ih =>
      obtain ⟨hc, hrest⟩ := List.forall_mem_cons.mp h
      cases rest with
      | nil => rfl
      | cons d rest =>
          have hd := hrest d (List.mem_cons_self ..)
          rw [asciiRuns, ih (by simp) hrest]
          simp [hc, hd]

theorem plusToSpace_eq_self {t : Text} (h : '+' ∉ t) : plusToSpace t = t := by
  have hkeep : ∀ c ∈ t, (if c = '+' then ' ' else c) = id c := fun c hc => by
    have hne : c ≠ '+' := fun heq => h (heq ▸ hc)
    rw [if_neg hne, id]
  rw [plusToSpace, List.map_congr_left hkeep, List.map_id]

/-! ### Decoding -/

/-- The bytes of an ASCII text are those of its characters. -/
theorem textBytes_ascii {k : Codec} (hk : k.IsAsciiCompatible) {t : Text}
    (h : ∀ c ∈ t, isAscii c = true) : k.textBytes t = t.map fun c => .ofNat c.toNat := by
  induction t with
  | nil => rfl
  | cons c rest ih =>
      obtain ⟨hc, hrest⟩ := List.forall_mem_cons.mp h
      rw [Codec.textBytes_cons, Codec.charBytes_ascii hk (by simpa [isAscii] using hc), ih hrest]
      rfl

theorem unescape_of_not_mem {t : Text} (h : '%' ∉ t) :
    unescape t = t.map fun c => .ofNat c.toNat := by
  induction t with
  | nil => rfl
  | cons c rest ih =>
      simp only [List.mem_cons, not_or] at h
      rw [unescape_char (startsEscape_cons_ne (Ne.symm h.1) _), ih h.2, List.map_cons]

theorem percent_mem_plusToSpace_iff {t : Text} : '%' ∈ plusToSpace t ↔ '%' ∈ t := by
  induction t with
  | nil => rfl
  | cons x t ih =>
      rw [plusToSpace, List.map_cons, ← plusToSpace, List.mem_cons, List.mem_cons, ih]
      by_cases hx : x = '+' <;> simp [hx]

theorem isAscii_of_mem_plusToSpace {t : Text} (h : ∀ x ∈ t, isAscii x = true) :
    ∀ x ∈ plusToSpace t, isAscii x = true := by
  refine List.forall_mem_map.mpr fun x hx => ?_
  split
  · decide
  · exact h x hx

/-- **A text of ASCII characters decodes to what its escapes stand for**, once the plus signs are
spaces, if all of its percent signs begin escapes. -/
theorem decode_eq_of_unescape {c : Charset} {k : Codec} (hc : c.codec = .ok k)
    (hk : k.IsAsciiCompatible) {w u : Text} (hascii : ∀ x ∈ w, isAscii x = true)
    (hstray : hasStray w = false) (hu : k.Encodes u)
    (hread : unescape (plusToSpace w) = k.textBytes u) : decode c w = .ok u := by
  have hspaced := isAscii_of_mem_plusToSpace hascii
  by_cases hmem : '%' ∈ w
  · have hne : plusToSpace w ≠ [] := List.ne_nil_of_mem (percent_mem_plusToSpace_iff.mpr hmem)
    have hrun : decodeRun c (plusToSpace w) = .ok u := by
      rw [decodeRun, if_pos (List.all_eq_true.mpr hspaced), Charset.filled_eq_self hc, hread,
        Charset.decode_textBytes hc hk hu]
    rw [decode, if_neg (by simp [hmem]), if_neg (by simp [hstray]), if_neg (by simp [hmem]),
      asciiRuns_of_ascii hne hspaced]
    simp only [decodeRuns, hrun, bind_ok, List.append_nil]
  · -- Without escapes the bytes are those of the text itself.
    have hplain : '%' ∉ plusToSpace w := fun h => hmem (percent_mem_plusToSpace_iff.mp h)
    have hself : plusToSpace w = u := by
      rw [unescape_of_not_mem hplain, ← textBytes_ascii hk hspaced] at hread
      have hback := Charset.decode_textBytes hc hk
        (Codec.encodes_of_ascii hk fun x hx => by simpa [isAscii] using hspaced x hx)
      rw [hread, Charset.decode_textBytes hc hk hu] at hback
      exact (Except.ok.inj hback).symm
    by_cases hplus : '+' ∈ w
    · rw [decode, if_neg (by simp [hplus]), if_neg (by simp [hstray]), if_pos (by simp [hmem]),
        hself]
    · rw [decode, if_pos (by simp [hmem, hplus]), ← hself, plusToSpace_eq_self hplus]

/-- **The encoded bytes of a text decode to that text.** -/
theorem decode_quote {c : Charset} {k : Codec} (hc : c.codec = .ok k)
    (hk : k.IsAsciiCompatible) {safe : Char → Bool} (hpercent : safe '%' = false)
    (hplus : safe '+' = false) {t : Text} (ht : k.Encodes t) :
    decode c (quote safe (k.textBytes t)) = .ok t := by
  have hnoplus : '+' ∉ quote safe (k.textBytes t) := fun h => by
    rcases mem_quote h with h | h | h
    · exact absurd h (by decide)
    · exact absurd h (by decide)
    · rw [hplus] at h; exact absurd h (by simp)
  refine decode_eq_of_unescape hc hk (fun _ => isAscii_of_mem_quote) (hasStray_quote hpercent _) ht ?_
  rw [plusToSpace_eq_self hnoplus, unescape_quote hpercent]

end HttpTemplates.Percent
