import HttpTemplates.Proofs.Charset.Coding
import HttpTemplates.Proofs.Percent.Escape
import HttpTemplates.Proofs.Success

/-!
# The encoded text

`escaped safe k t` is the text that encoding `t` with a codec `k` gives, as a total function: it
goes through the pieces of `t` and leaves out how encoding may fail. In an ASCII-compatible charset
the two agree (`encodeReserved_eq_ok_iff`), and `escaped` has the laws that the proofs about
templates use:

* `escaped_append` — a text may be encoded in parts, unless an escape lies across the cut;
* `escaped_escaped` — encoding twice keeps the characters that both passes keep;
* `hasStray_escaped` — every percent sign of an encoded text begins an escape;
* `mem_escaped` — an encoded text holds nothing but unreserved characters, safe ones and percent
  signs.
-/

namespace HttpTemplates.Percent

/-! ### Single characters -/

/-- Whether a character is kept: it belongs to ASCII, and it is unreserved or safe. -/
def keeps (safe : Char → Bool) (c : Char) : Bool :=
  c.toNat < 0x80 && (isUnreserved c || safe c)

/-- A byte string with every byte escaped. -/
def escapes (bytes : Bytes) : Text :=
  bytes.flatMap escapeByte

/-- An encoded character. -/
def quoteChar (safe : Char → Bool) (k : Codec) (c : Char) : Text :=
  quote safe (k.charBytes c)

@[simp] theorem escapes_nil : escapes [] = [] := rfl

@[simp] theorem escapes_cons (b : UInt8) (bytes : Bytes) :
    escapes (b :: bytes) = escapeByte b ++ escapes bytes := rfl

theorem keeps_iff {safe : Char → Bool} {c : Char} : keeps safe c = true ↔
    c.toNat < 0x80 ∧ (isUnreserved c = true ∨ safe c = true) := by
  simp [keeps]

theorem keeps_of_isUnreserved (safe : Char → Bool) {c : Char} (h : isUnreserved c = true) :
    keeps safe c = true :=
  keeps_iff.mpr ⟨ascii_of_isUnreserved h, Or.inl h⟩

/-- No byte from 128 on is kept. -/
theorem quote_high (safe : Char → Bool) {bytes : Bytes} (h : ∀ b ∈ bytes, 0x80 ≤ b.toNat) :
    quote safe bytes = escapes bytes := by
  induction bytes with
  | nil => rfl
  | cons b rest ih =>
      obtain ⟨hb, hrest⟩ := List.forall_mem_cons.mp h
      have hkeeps : ¬ keepsByte safe b = true := fun hk => by
        have := (keepsByte_iff.mp hk).1
        omega
      rw [quote_cons, ih hrest, quoteByte, if_neg hkeeps, escapes_cons]

section AsciiCompatible

variable {k : Codec} (hk : k.IsAsciiCompatible) (safe : Char → Bool)

include hk

/-- A character is either kept, or each of its bytes is escaped. -/
theorem quoteChar_eq (c : Char) :
    quoteChar safe k c = if keeps safe c then [c] else escapes (k.charBytes c) := by
  by_cases hc : c.toNat < 0x80
  · have hb : (UInt8.ofNat c.toNat).toNat = c.toNat :=
      UInt8.toNat_ofNat_of_lt' (show c.toNat < 256 by omega)
    have hkeeps : keepsByte safe (.ofNat c.toNat) = keeps safe c := by
      rw [keepsByte, hb, Char.ofNat_toNat, keeps]
    rw [quoteChar, Codec.charBytes_ascii hk hc, quote_cons, quote_nil, List.append_nil, quoteByte,
      hkeeps, hb, Char.ofNat_toNat, escapes_cons, escapes_nil, List.append_nil]
  · have hkeeps : ¬ keeps safe c = true := fun h => hc (keeps_iff.mp h).1
    rw [if_neg hkeeps, quoteChar]
    refine quote_high safe fun b hb => ?_
    cases henc : k.encodeChar? c with
    | none => simp [Codec.charBytes, henc] at hb
    | some bytes =>
        rw [Codec.charBytes_of_some henc] at hb
        exact (hk.high_of_encodeChar? (by omega) henc).2 b hb

/-- An encoded character is the character or begins with a percent sign. -/
theorem quoteChar_cases {c : Char} (hc : (k.encodeChar? c).isSome) :
    quoteChar safe k c = [c] ∧ keeps safe c = true
      ∨ keeps safe c = false ∧ ∃ rest, quoteChar safe k c = '%' :: rest := by
  rw [quoteChar_eq hk]
  cases hkeeps : keeps safe c with
  | true => exact Or.inl ⟨by simp, rfl⟩
  | false =>
      refine Or.inr ⟨rfl, ?_⟩
      obtain ⟨bytes, hbytes⟩ := Option.isSome_iff_exists.mp hc
      rw [Codec.charBytes_of_some hbytes]
      cases bytes with
      | cons b rest => exact ⟨_, by simp [escapeByte]; rfl⟩
      | nil =>
          by_cases hascii : c.toNat < 0x80
          · rw [hk.encodeChar?_ascii hascii] at hbytes
            simp at hbytes
          · exact absurd rfl (hk.high_of_encodeChar? (by omega) hbytes).1

end AsciiCompatible

/-! ### Texts -/

/-- A piece with its raw characters encoded. -/
def escapedPiece (safe : Char → Bool) (k : Codec) : Piece → Text
  | .raw t => quote safe (k.textBytes t)
  | .escape high low => ['%', high, low]

/-- The text with everything encoded but the unreserved and safe characters and the escapes. -/
def escaped (safe : Char → Bool) (k : Codec) (t : Text) : Text :=
  (pieces t).flatMap (escapedPiece safe k)

section Equations

variable (safe : Char → Bool) (k : Codec)

@[simp] theorem escaped_nil : escaped safe k [] = [] := rfl

theorem escaped_escape {h l : Char} (hh : Text.isHexDigit h = true)
    (hl : Text.isHexDigit l = true) (rest : Text) :
    escaped safe k ('%' :: h :: l :: rest) = '%' :: h :: l :: escaped safe k rest := by
  rw [escaped, pieces_escape hh hl]
  rfl

theorem escaped_char {c : Char} {t : Text} (hc : startsEscape (c :: t) = false) :
    escaped safe k (c :: t) = quoteChar safe k c ++ escaped safe k t := by
  rw [escaped, pieces_char hc, escaped]
  cases pieces t with
  | nil => simp [consRaw, escapedPiece, quoteChar]
  | cons p ps => cases p <;> simp [consRaw, escapedPiece, quoteChar]

/-- A safe character of ASCII is kept. -/
theorem escaped_cons_of_safe (hk : k.IsAsciiCompatible) {c : Char} (hascii : c.toNat < 0x80)
    (hsafe : safe c = true) (hc : c ≠ '%') (t : Text) :
    escaped safe k (c :: t) = c :: escaped safe k t := by
  rw [escaped_char safe k (startsEscape_cons_ne hc t), quoteChar_eq hk,
    if_pos (keeps_iff.mpr ⟨hascii, Or.inr hsafe⟩), List.singleton_append]

/-- Without escapes the encoded text is the encoded byte string. -/
theorem escaped_of_not_hasEscape {t : Text} (h : hasEscape t = false) :
    escaped safe k t = quote safe (k.textBytes t) := by
  induction t using escapeInduction with
  | nil => rfl
  | escape h l rest hh hl _ => rw [hasEscape_escape hh hl] at h; exact absurd h (by simp)
  | char c rest hc ih =>
      rw [hasEscape_char hc] at h
      rw [escaped_char safe k hc, ih h, Codec.textBytes_cons, quote_append, quoteChar]

/-- An encoded text holds nothing but unreserved characters, safe ones and percent signs. -/
theorem mem_escaped {t : Text} {c : Char} (h : c ∈ escaped safe k t) :
    isUnreserved c = true ∨ c = '%' ∨ safe c = true := by
  induction t using escapeInduction with
  | nil => simp at h
  | escape h l rest hh hl ih =>
      rw [escaped_escape safe k hh hl] at h
      simp only [List.mem_cons] at h
      rcases h with rfl | rfl | rfl | h
      · exact Or.inr (Or.inl rfl)
      · exact Or.inl (isUnreserved_of_isHexDigit hh)
      · exact Or.inl (isUnreserved_of_isHexDigit hl)
      · exact ih h
  | char c' rest hc ih =>
      rw [escaped_char safe k hc] at h
      exact (List.mem_append.mp h).elim mem_quote ih

theorem mem_escapes {bytes : Bytes} {c : Char} (h : c ∈ escapes bytes) :
    isUnreserved c = true ∨ c = '%' := by
  obtain ⟨b, -, hb⟩ := List.mem_flatMap.mp h
  have hbyte : b.toNat < 256 := b.toNat_lt
  simp only [escapeByte, List.mem_cons, List.not_mem_nil, or_false] at hb
  rcases hb with rfl | rfl | rfl
  · exact Or.inr rfl
  · exact Or.inl (isUnreserved_of_isHexDigit (isHexDigit_hexDigit _ (by omega)))
  · exact Or.inl (isUnreserved_of_isHexDigit (isHexDigit_hexDigit _ (by omega)))

/-- The only delimiter that an encoded character may hold is the character itself. -/
theorem eq_of_mem_quoteChar {k : Codec} (hk : k.IsAsciiCompatible) {c d : Char}
    (hreserved : isUnreserved c = false) (hpercent : c ≠ '%') (h : c ∈ quoteChar safe k d) :
    c = d := by
  rw [quoteChar_eq hk] at h
  split at h
  · exact List.mem_singleton.mp h
  · rcases mem_escapes h with h | h
    · rw [hreserved] at h; exact absurd h (by simp)
    · exact absurd h hpercent

/-- The delimiters of an encoded text are delimiters of the text. -/
theorem mem_of_mem_escaped (hk : k.IsAsciiCompatible) {t : Text} {c : Char}
    (hreserved : isUnreserved c = false) (hpercent : c ≠ '%') (h : c ∈ escaped safe k t) :
    c ∈ t := by
  induction t using escapeInduction with
  | nil => exact absurd h (by simp)
  | escape x l rest hx hl ih =>
      rw [escaped_escape safe k hx hl] at h
      simp only [List.mem_cons] at h ⊢
      exact h.imp_right fun h => h.imp_right fun h => h.imp_right ih
  | char d rest hd ih =>
      rw [escaped_char safe k hd] at h
      rcases List.mem_append.mp h with h | h
      · exact List.mem_cons.mpr (Or.inl (eq_of_mem_quoteChar safe hk hreserved hpercent h))
      · exact List.mem_cons_of_mem _ (ih h)

/-- A character that is kept stays where it is. -/
theorem mem_escaped_of_mem (hk : k.IsAsciiCompatible) {t : Text} {c : Char}
    (hkeeps : keeps safe c = true) (h : c ∈ t) : c ∈ escaped safe k t := by
  induction t using escapeInduction with
  | nil => exact absurd h (by simp)
  | escape x l rest hx hl ih =>
      rw [escaped_escape safe k hx hl]
      simp only [List.mem_cons] at h ⊢
      exact h.imp_right fun h => h.imp_right fun h => h.imp_right ih
  | char d rest hd ih =>
      rw [escaped_char safe k hd, quoteChar_eq hk]
      rcases List.mem_cons.mp h with rfl | h
      · rw [if_pos hkeeps]
        exact List.mem_cons_self ..
      · exact List.mem_append_right _ (ih h)

end Equations

/-! ### Encoding in parts -/

/-- No escape of `s ++ t` begins in `s` and ends in `t`. -/
def Apart (s t : Text) : Prop :=
  ∀ u, u <:+ s → startsEscape (u ++ t) = true → u = [] ∨ startsEscape u = true

theorem Apart.of_suffix {s s' t : Text} (h : Apart s t) (hs : s' <:+ s) : Apart s' t :=
  fun u hu => h u (hu.trans hs)

/-- If every percent sign of a text begins an escape, no escape lies across its end. -/
theorem apart_of_not_hasStray {s : Text} (h : hasStray s = false) (t : Text) : Apart s t := by
  induction s using escapeInduction with
  | nil => exact fun u hu _ => Or.inl (List.suffix_nil.mp hu)
  | escape x l rest hx hl ih =>
      rw [hasStray_escape hx hl] at h
      intro u hu hut
      -- A suffix is the whole text, begins at one of the two digits or lies in the rest.
      rcases List.suffix_cons_iff.mp hu with rfl | hu
      · exact Or.inr (startsEscape_iff.mpr ⟨x, l, rest, rfl, hx, hl⟩)
      rcases List.suffix_cons_iff.mp hu with rfl | hu
      · rw [List.cons_append, startsEscape_cons_ne (ne_percent_of_isHexDigit hx)] at hut
        exact absurd hut (by simp)
      rcases List.suffix_cons_iff.mp hu with rfl | hu
      · rw [List.cons_append, startsEscape_cons_ne (ne_percent_of_isHexDigit hl)] at hut
        exact absurd hut (by simp)
      exact ih h u hu hut
  | char c rest hc ih =>
      rw [hasStray_char hc, Bool.or_eq_false_iff, decide_eq_false_iff_not] at h
      intro u hu hut
      rcases List.suffix_cons_iff.mp hu with rfl | hu
      · rw [List.cons_append, startsEscape_cons_ne h.1] at hut
        exact absurd hut (by simp)
      exact ih h.2 u hu hut

/-- A text may be encoded in parts, unless an escape lies across the cut. -/
theorem escaped_append (safe : Char → Bool) (k : Codec) {s t : Text} (h : Apart s t) :
    escaped safe k (s ++ t) = escaped safe k s ++ escaped safe k t := by
  induction s using escapeInduction with
  | nil => rfl
  | escape x l rest hx hl ih =>
      have hrest : Apart rest t := h.of_suffix ⟨['%', x, l], rfl⟩
      simp only [List.cons_append, escaped_escape safe k hx hl, ih hrest]
  | char c rest hc ih =>
      -- `c` alone begins no escape, and with `t` behind it the escape would lie across the cut.
      have hcut : startsEscape (c :: (rest ++ t)) = false := by
        rw [Bool.eq_false_iff]
        intro hs
        rcases h (c :: rest) (List.suffix_refl _) hs with h0 | h1
        · exact absurd h0 (by simp)
        · rw [hc] at h1; exact absurd h1 (by simp)
      rw [List.cons_append, escaped_char safe k hcut, escaped_char safe k hc,
        ih (h.of_suffix ⟨[c], rfl⟩), List.append_assoc]

/-- Escapes in front of a text stay as they are. -/
theorem escaped_escapes_append (safe : Char → Bool) (k : Codec) (bytes : Bytes) (t : Text) :
    escaped safe k (escapes bytes ++ t) = escapes bytes ++ escaped safe k t := by
  induction bytes with
  | nil => rfl
  | cons b rest ih =>
      have hb : b.toNat < 256 := b.toNat_lt
      have hhigh := isHexDigit_hexDigit (b.toNat / 16) (by omega)
      have hlow := isHexDigit_hexDigit (b.toNat % 16) (by omega)
      rw [escapes_cons, List.append_assoc, escapeByte, List.cons_append, List.cons_append,
        List.cons_append, List.nil_append, escaped_escape safe k hhigh hlow, ih]
      rfl

theorem hasStray_escapes_append (bytes : Bytes) (t : Text) :
    hasStray (escapes bytes ++ t) = hasStray t := by
  induction bytes with
  | nil => rfl
  | cons b rest ih =>
      have hb : b.toNat < 256 := b.toNat_lt
      have hhigh := isHexDigit_hexDigit (b.toNat / 16) (by omega)
      have hlow := isHexDigit_hexDigit (b.toNat % 16) (by omega)
      rw [escapes_cons, List.append_assoc, escapeByte, List.cons_append, List.cons_append,
        List.cons_append, List.nil_append, hasStray_escape hhigh hlow, ih]

theorem hasStray_append {s t : Text} (hs : hasStray s = false) (ht : hasStray t = false) :
    hasStray (s ++ t) = false := by
  induction s using escapeInduction with
  | nil => exact ht
  | escape h l rest hh hl ih =>
      rw [hasStray_escape hh hl] at hs
      simp only [List.cons_append]
      rw [hasStray_escape hh hl, ih hs]
  | char c rest hc ih =>
      rw [hasStray_char hc, Bool.or_eq_false_iff, decide_eq_false_iff_not] at hs
      rw [List.cons_append, hasStray_char (startsEscape_cons_ne hs.1 _), ih hs.2]
      simp [hs.1]

/-- No escape lies across a character that is no hexadecimal digit. -/
theorem hasStray_split {s : Text} {c : Char} {t : Text} (hc : Text.isHexDigit c = false)
    (h : hasStray (s ++ c :: t) = false) : hasStray s = false ∧ hasStray (c :: t) = false := by
  induction s using escapeInduction with
  | nil => exact ⟨rfl, h⟩
  | escape x l rest hx hl ih =>
      simp only [List.cons_append, hasStray_escape hx hl] at h
      rw [hasStray_escape hx hl]
      exact ih h
  | char d rest hd ih =>
      have hcut : startsEscape (d :: (rest ++ c :: t)) = false := by
        rcases startsEscape_eq_false_cases hd with hp | ⟨rfl, hstart⟩
        · exact startsEscape_cons_ne hp _
        · -- The two characters behind the percent sign may reach as far as `c`.
          match rest with
          | [] => cases t <;> simp [startsEscape, startsHex, hc]
          | [y] => simp [startsEscape, startsHex, hc]
          | y :: z :: r => simpa [startsEscape, startsHex] using hstart
      rw [List.cons_append, hasStray_char hcut, Bool.or_eq_false_iff] at h
      obtain ⟨hrest, htail⟩ := ih h.2
      rw [hasStray_char hd, h.1, hrest]
      exact ⟨rfl, htail⟩

/-! ### Encoding twice -/

section Twice

variable {k : Codec} (hk : k.IsAsciiCompatible) (safe : Char → Bool)

include hk

/-- Every percent sign of an encoded text begins an escape, if none is kept. -/
theorem hasStray_escaped (hsafe : safe '%' = false) (t : Text) :
    hasStray (escaped safe k t) = false := by
  induction t using escapeInduction with
  | nil => rfl
  | escape h l rest hh hl ih => rw [escaped_escape safe k hh hl, hasStray_escape hh hl, ih]
  | char c rest hc ih =>
      rw [escaped_char safe k hc, quoteChar_eq hk]
      cases hkeeps : keeps safe c with
      | false => rw [if_neg (by simp), hasStray_escapes_append, ih]
      | true =>
          have hne : c ≠ '%' := by
            rintro rfl
            rcases (keeps_iff.mp hkeeps).2 with h | h
            · exact absurd h (by decide)
            · rw [hsafe] at h; exact absurd h (by simp)
          rw [if_pos rfl, List.cons_append, List.nil_append,
            hasStray_char (startsEscape_cons_ne hne _), ih]
          simp [hne]

/-- Encoding makes no two hexadecimal digits at the beginning of a text. -/
theorem startsHex_escaped {t : Text} (ht : k.Encodes t) (h : startsHex t = false) :
    startsHex (escaped safe k t) = false := by
  -- A digit in front of an encoded text is a digit in front of the text.
  have step : ∀ {u r : Text} {x : Char}, k.Encodes u → Text.isHexDigit x = true →
      escaped safe k u = x :: r → ∃ u', u = x :: u' ∧ r = escaped safe k u' := by
    intro u r x hu hx heq
    cases u with
    | nil => exact absurd heq (by simp)
    | cons c rest =>
        cases hc : startsEscape (c :: rest) with
        | true =>
            obtain ⟨h, l, rest', hrest, hh, hl⟩ := startsEscape_iff.mp hc
            rw [hrest, escaped_escape safe k hh hl] at heq
            exact absurd (List.cons.inj heq).1.symm (ne_percent_of_isHexDigit hx)
        | false =>
            rw [escaped_char safe k hc] at heq
            rcases quoteChar_cases hk safe (Codec.encodes_cons.mp hu).1 with
              ⟨hq, -⟩ | ⟨-, rest', hq⟩
            · rw [hq] at heq
              obtain ⟨rfl, rfl⟩ := List.cons.inj heq
              exact ⟨rest, rfl, rfl⟩
            · rw [hq] at heq
              exact absurd (List.cons.inj heq).1.symm (ne_percent_of_isHexDigit hx)
  rw [Bool.eq_false_iff]
  intro hs
  match hesc : escaped safe k t with
  | [] => rw [hesc] at hs; exact absurd hs (by simp [startsHex])
  | [_] => rw [hesc] at hs; exact absurd hs (by simp [startsHex])
  | x :: y :: r =>
      rw [hesc] at hs
      obtain ⟨hx, hy⟩ : Text.isHexDigit x = true ∧ Text.isHexDigit y = true := by
        simpa [startsHex] using hs
      obtain ⟨u, rfl, hu⟩ := step ht hx hesc
      obtain ⟨v, rfl, -⟩ := step (Codec.encodes_cons.mp ht).2 hy hu.symm
      simp [startsHex, hx, hy] at h

/-- **Encoding twice keeps the characters that both passes keep.** -/
theorem escaped_escaped (safe' : Char → Bool) {t : Text} (ht : k.Encodes t) :
    escaped safe' k (escaped safe k t) = escaped (fun c => safe c && safe' c) k t := by
  induction t using escapeInduction with
  | nil => rfl
  | escape h l rest hh hl ih =>
      have hrest : k.Encodes rest := fun c hc => ht c (by simp [hc])
      rw [escaped_escape safe k hh hl, escaped_escape safe' k hh hl, escaped_escape _ k hh hl,
        ih hrest]
  | char c rest hc ih =>
      have hrest := (Codec.encodes_cons.mp ht).2
      rw [escaped_char safe k hc, escaped_char _ k hc, quoteChar_eq hk, quoteChar_eq hk]
      cases hkeeps : keeps safe c with
      | false =>
          -- The escapes of the first pass are left alone by the second one.
          have hboth : keeps (fun c => safe c && safe' c) c = false := by
            rw [Bool.eq_false_iff] at hkeeps ⊢
            intro h
            obtain ⟨hascii, h⟩ := keeps_iff.mp h
            exact hkeeps (keeps_iff.mpr ⟨hascii, h.imp_right fun h => by simp at h; exact h.1⟩)
          rw [hboth, if_neg (by simp), escaped_escapes_append, ih hrest]
      | true =>
          -- The first pass must not put two digits behind a percent sign that it keeps.
          have hcut : startsEscape (c :: escaped safe k rest) = false := by
            rcases startsEscape_eq_false_cases hc with hp | ⟨rfl, hstart⟩
            · exact startsEscape_cons_ne hp _
            · simp [startsEscape, startsHex_escaped hk safe hrest hstart]
          have hboth : keeps (fun c => safe c && safe' c) c = keeps safe' c := by
            obtain ⟨hascii, h⟩ := keeps_iff.mp hkeeps
            simp only [keeps]
            rcases h with h | h <;> simp [h]
          rw [if_pos rfl, List.cons_append, List.nil_append, escaped_char safe' k hcut,
            quoteChar_eq hk, hboth, ih hrest]

/-- Encoding an encoded text changes nothing. -/
theorem escaped_idem {t : Text} (ht : k.Encodes t) :
    escaped safe k (escaped safe k t) = escaped safe k t := by
  rw [escaped_escaped hk safe safe ht]
  simp only [Bool.and_self]

end Twice

/-- A text of unreserved characters and escapes is encoded already. -/
theorem escaped_eq_self (safe : Char → Bool) {k : Codec} (hk : k.IsAsciiCompatible)
    {t : Text} (hplain : ∀ c ∈ t, isUnreserved c = true ∨ c = '%') (hstray : hasStray t = false) :
    escaped safe k t = t := by
  induction t using escapeInduction with
  | nil => rfl
  | escape h l rest hh hl ih =>
      rw [hasStray_escape hh hl] at hstray
      rw [escaped_escape safe k hh hl, ih (fun c hc => hplain c (by simp [hc])) hstray]
  | char c rest hc ih =>
      rw [hasStray_char hc, Bool.or_eq_false_iff, decide_eq_false_iff_not] at hstray
      have hkeeps := keeps_of_isUnreserved safe ((hplain c (by simp)).resolve_right hstray.1)
      rw [escaped_char safe k hc, quoteChar_eq hk, if_pos hkeeps,
        ih (fun c hc => hplain c (by simp [hc])) hstray.2]
      rfl

/-- Nothing but the empty text is encoded as the empty text. -/
theorem escaped_eq_nil_iff (safe : Char → Bool) {k : Codec} (hk : k.IsAsciiCompatible)
    {t : Text} (ht : k.Encodes t) : escaped safe k t = [] ↔ t = [] := by
  cases t using escapeInduction with
  | nil => simp
  | escape h l rest hh hl _ => simp [escaped_escape safe k hh hl]
  | char c rest hc _ =>
      rw [escaped_char safe k hc]
      rcases quoteChar_cases hk safe (Codec.encodes_cons.mp ht).1 with ⟨h, -⟩ | ⟨-, rest, h⟩
      · simp [h]
      · simp [h]

/-! ### Agreement with the encoders -/

section Agreement

variable {c : Charset} {k : Codec} (hc : c.codec = .ok k) (hk : k.IsAsciiCompatible)
variable {safe : Char → Bool}

include hc hk

theorem encodePiece_eq_ok_iff {p : Piece} {w : Text} : encodePiece safe c p = .ok w ↔
    (∀ t, p = .raw t → k.Encodes t) ∧ escapedPiece safe k p = w := by
  cases p with
  | escape h l => simp [encodePiece, escapedPiece]
  | raw t =>
      rw [encodePiece, Charset.filled_eq_self hc, map_eq_ok_iff]
      simp only [Charset.encode_eq_ok_iff hc hk, escapedPiece, Piece.raw.injEq]
      constructor
      · rintro ⟨bytes, ⟨ht, rfl⟩, rfl⟩
        exact ⟨fun u hu => hu ▸ ht, rfl⟩
      · rintro ⟨ht, rfl⟩
        exact ⟨_, ⟨ht t rfl, rfl⟩, rfl⟩

/-- The pieces of a list can be encoded if and only if each raw one has bytes. -/
theorem encodePieces_eq_ok_iff {ps : List Piece} {w : Text} : encodePieces safe c ps = .ok w ↔
    (∀ t, .raw t ∈ ps → k.Encodes t) ∧ ps.flatMap (escapedPiece safe k) = w := by
  induction ps generalizing w with
  | nil => simp [encodePieces]
  | cons p ps ih =>
      simp only [encodePieces, bind_eq_ok_iff, encodePiece_eq_ok_iff hc hk, ih, List.flatMap_cons,
        List.mem_cons, Except.ok.injEq]
      constructor
      · rintro ⟨_, ⟨hp, rfl⟩, _, ⟨hps, rfl⟩, rfl⟩
        exact ⟨fun t ht => ht.elim (fun h => hp t h.symm) (hps t), rfl⟩
      · rintro ⟨hps, rfl⟩
        exact ⟨_, ⟨fun t ht => hps t (Or.inl ht.symm), rfl⟩, _,
          ⟨fun t ht => hps t (Or.inr ht), rfl⟩, rfl⟩

omit hc in
/-- A text has bytes if and only if its raw pieces have: the characters of escapes always do. -/
theorem encodes_iff_pieces {t : Text} : k.Encodes t ↔ ∀ u, .raw u ∈ pieces t → k.Encodes u := by
  induction t using escapeInduction with
  | nil => simp [pieces]
  | escape h l rest hh hl ih =>
      have hascii : k.Encodes ['%', h, l] := by
        refine Codec.encodes_of_ascii hk fun c hc => ?_
        simp only [List.mem_cons, List.not_mem_nil, or_false] at hc
        rcases hc with rfl | rfl | rfl
        · decide
        · exact ascii_of_isUnreserved (isUnreserved_of_isHexDigit hh)
        · exact ascii_of_isUnreserved (isUnreserved_of_isHexDigit hl)
      rw [show '%' :: h :: l :: rest = ['%', h, l] ++ rest from rfl, Codec.encodes_append, ih]
      simp [hascii, pieces_escape hh hl]
  | char c rest hc ih =>
      rw [pieces_char hc, Codec.encodes_cons, ih]
      cases pieces rest with
      | nil => simp [consRaw]
      | cons p ps =>
          cases p with
          | escape h l => simp [consRaw]
          | raw t =>
              simp only [consRaw, List.mem_cons, Piece.raw.injEq]
              constructor
              · rintro ⟨hc, h⟩ u (rfl | hu)
                · exact Codec.encodes_cons.mpr ⟨hc, h t (Or.inl rfl)⟩
                · exact h u (Or.inr hu)
              · intro h
                obtain ⟨hc, ht⟩ := Codec.encodes_cons.mp (h _ (Or.inl rfl))
                exact ⟨hc, fun u hu => hu.elim (fun h' => h' ▸ ht) fun h' => h u (Or.inr h')⟩

/-- Encoding with a set of safe characters succeeds on the texts that have bytes. -/
theorem encodeReserved_eq_ok_iff {t w : Text} :
    encodeReserved safe c t = .ok w ↔ k.Encodes t ∧ escaped safe k t = w := by
  rw [encodeReserved, encodePieces_eq_ok_iff hc hk, ← encodes_iff_pieces hk, escaped]

end Agreement

/-! ### The test whether a text is encoded -/

/-- Whether a character may occur in an encoded text: it is unreserved or a percent sign. -/
def isPlain (c : Char) : Bool :=
  isUnreserved c || c = '%'

theorem isPlain_iff {c : Char} : isPlain c = true ↔ isUnreserved c = true ∨ c = '%' := by
  simp [isPlain]

theorem percent_mem_of_hasEscape {t : Text} (h : hasEscape t = true) : '%' ∈ t := by
  induction t using escapeInduction with
  | nil => simp [hasEscape] at h
  | escape h l rest => simp
  | char c rest hc ih =>
      rw [hasEscape_char hc] at h
      exact List.mem_cons_of_mem _ (ih h)

/-- A byte that may occur in an encoded text belongs to ASCII, to a character that may. -/
theorem isPlain_of_isEncodedByte {c : Char} (hc : c.toNat < 0x80)
    (h : isEncodedByte (.ofNat c.toNat) = true) : isPlain c = true := by
  have hb : (UInt8.ofNat c.toNat).toNat = c.toNat :=
    UInt8.toNat_ofNat_of_lt' (show c.toNat < 256 by omega)
  simp only [isEncodedByte, Bool.or_eq_true, decide_eq_true_eq, ← UInt8.toNat_inj, hb] at h
  rcases h with h | h
  · have hpercent : c = '%' := by
      rw [← Char.ofNat_toNat c, h]
      rfl
    exact isPlain_iff.mpr (Or.inr hpercent)
  · obtain ⟨-, h⟩ := keepsByte_iff.mp h
    rw [hb, Char.ofNat_toNat] at h
    exact isPlain_iff.mpr (Or.inl (h.resolve_right (by simp [noneSafe])))

theorem ascii_of_isEncodedByte {b : UInt8} (h : isEncodedByte b = true) : b.toNat < 0x80 := by
  simp only [isEncodedByte, Bool.or_eq_true, decide_eq_true_eq] at h
  rcases h with rfl | h
  · decide
  · exact (keepsByte_iff.mp h).1

theorem isPlain_of_charBytes {k : Codec} (hk : k.IsAsciiCompatible) {c : Char}
    (hc : (k.encodeChar? c).isSome) (h : ∀ b ∈ k.charBytes c, isEncodedByte b = true) :
    isPlain c = true := by
  by_cases hascii : c.toNat < 0x80
  · rw [Codec.charBytes_ascii hk hascii] at h
    exact isPlain_of_isEncodedByte hascii (h _ (List.mem_singleton.mpr rfl))
  · -- Outside ASCII there is a byte from 128 on, which occurs in no encoded text.
    obtain ⟨bytes, hbytes⟩ := Option.isSome_iff_exists.mp hc
    obtain ⟨hne, hhigh⟩ := hk.high_of_encodeChar? (by omega) hbytes
    rw [Codec.charBytes_of_some hbytes] at h
    obtain ⟨b, hb⟩ := List.exists_mem_of_ne_nil bytes hne
    have h1 := hhigh b hb
    have h2 := ascii_of_isEncodedByte (h b hb)
    omega

end HttpTemplates.Percent
