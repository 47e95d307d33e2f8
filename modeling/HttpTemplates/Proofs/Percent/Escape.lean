import HttpTemplates.Percent

/-!
# Escapes in texts

A text is read from the left as a sequence of escapes and of characters outside escapes.
`escapeInduction` is induction along this reading; the equation lemmas below it say what the
functions on texts that may hold escapes do at each of its two steps, so that no later proof looks
at three characters at a time.

`mem_quote` bounds the characters of an encoded byte string, and `unescape_quote` reads one back.
-/

namespace HttpTemplates.Percent

/-! ### Reading escapes -/

/-- Whether a text begins with two hexadecimal digits. -/
def startsHex : Text → Bool
  | h :: l :: _ => Text.isHexDigit h && Text.isHexDigit l
  | _ => false

/-- Whether a text begins with an escape. -/
def startsEscape : Text → Bool
  | c :: rest => c = '%' && startsHex rest
  | [] => false

theorem startsEscape_cons_ne {c : Char} (hc : c ≠ '%') (rest : Text) :
    startsEscape (c :: rest) = false := by
  simp [startsEscape, hc]

/-- A text that begins with an escape consists of its three characters and a rest. -/
theorem startsEscape_iff {t : Text} : startsEscape t = true ↔
    ∃ h l rest, t = '%' :: h :: l :: rest ∧ Text.isHexDigit h = true ∧ Text.isHexDigit l = true := by
  constructor
  · intro ht
    match t with
    | [] => simp [startsEscape] at ht
    | [c] => simp [startsEscape, startsHex] at ht
    | [c, h] => simp [startsEscape, startsHex] at ht
    | c :: h :: l :: rest =>
        simp only [startsEscape, startsHex, Bool.and_eq_true, decide_eq_true_eq] at ht
        obtain ⟨rfl, hh, hl⟩ := ht
        exact ⟨h, l, rest, rfl, hh, hl⟩
  · rintro ⟨h, l, rest, rfl, hh, hl⟩
    simp [startsEscape, startsHex, hh, hl]

/-- **Induction along the escapes of a text.** -/
@[elab_as_elim]
theorem escapeInduction {motive : Text → Prop} (t : Text) (nil : motive [])
    (escape : ∀ h l rest, Text.isHexDigit h = true → Text.isHexDigit l = true → motive rest →
      motive ('%' :: h :: l :: rest))
    (char : ∀ c rest, startsEscape (c :: rest) = false → motive rest → motive (c :: rest)) :
    motive t := by
  induction hn : t.length using Nat.strongRecOn generalizing t with
  | ind n ih =>
      match t with
      | [] => exact nil
      | c :: rest =>
          cases hs : startsEscape (c :: rest) with
          | false => exact char c rest hs (ih _ (by simp [← hn]) rest rfl)
          | true =>
              obtain ⟨h, l, rest', heq, hh, hl⟩ := startsEscape_iff.mp hs
              rw [heq]
              exact escape h l rest' hh hl (ih _ (by rw [← hn, heq]; simp; omega) rest' rfl)

/-! ### Hexadecimal digits -/

theorem isHexDigit_iff {c : Char} : Text.isHexDigit c = true ↔
    ((48 ≤ c.toNat ∧ c.toNat ≤ 57) ∨ (97 ≤ c.toNat ∧ c.toNat ≤ 102))
      ∨ (65 ≤ c.toNat ∧ c.toNat ≤ 70) := by
  simp only [Text.isHexDigit, Char.isDigit, Bool.or_eq_true, Bool.and_eq_true, decide_eq_true_eq,
    Char.le_def, UInt32.le_iff_toNat_le, ge_iff_le]
  rfl

theorem isAlphanum_iff {c : Char} : c.isAlphanum = true ↔
    ((65 ≤ c.toNat ∧ c.toNat ≤ 90) ∨ (97 ≤ c.toNat ∧ c.toNat ≤ 122))
      ∨ (48 ≤ c.toNat ∧ c.toNat ≤ 57) := by
  have hupper : c.isUpper = decide (65 ≤ c.toNat ∧ c.toNat ≤ 90) := rfl
  have hlower : c.isLower = (decide (97 ≤ c.toNat) && decide (c.toNat ≤ 122)) := rfl
  have hdigit : c.isDigit = (decide (48 ≤ c.toNat) && decide (c.toNat ≤ 57)) := rfl
  show ((c.isUpper || c.isLower) || c.isDigit) = true ↔ _
  simp only [hupper, hlower, hdigit, Bool.or_eq_true, Bool.and_eq_true, decide_eq_true_eq]

/-- A hexadecimal digit is a letter or a digit. -/
theorem isUnreserved_of_isHexDigit {c : Char} (h : Text.isHexDigit c = true) :
    isUnreserved c = true := by
  have hb := isHexDigit_iff.mp h
  have ha : c.isAlphanum = true := isAlphanum_iff.mpr (by omega)
  simp [isUnreserved, ha]

/-- The unreserved characters belong to ASCII. -/
theorem ascii_of_isUnreserved {c : Char} (h : isUnreserved c = true) : c.toNat < 0x80 := by
  simp only [isUnreserved, Bool.or_eq_true, decide_eq_true_eq] at h
  rcases h with (((h | rfl) | rfl) | rfl) | rfl
  · have := isAlphanum_iff.mp h
    omega
  all_goals decide

theorem ne_percent_of_isHexDigit {c : Char} (h : Text.isHexDigit c = true) : c ≠ '%' := by
  rintro rfl
  exact absurd h (by decide)

theorem isHexDigit_hexDigit : ∀ n < 16, Text.isHexDigit (Text.hexDigit n) = true := by decide

theorem hexValue_hexDigit : ∀ n < 16, Text.hexValue (Text.hexDigit n) = n := by decide

/-- The two digits of an escaped byte write its value. -/
theorem numberIn_hexDigits (b : UInt8) :
    Text.numberIn 16 [Text.hexDigit (b.toNat / 16), Text.hexDigit (b.toNat % 16)] = b.toNat := by
  have hb : b.toNat < 256 := b.toNat_lt
  simp only [Text.numberIn, List.foldl_cons, List.foldl_nil,
    hexValue_hexDigit (b.toNat / 16) (by omega), hexValue_hexDigit (b.toNat % 16) (by omega)]
  omega

/-- The code points of ASCII are those of their characters. -/
theorem toNat_ofNat_ascii : ∀ n < 0x80, (Char.ofNat n).toNat = n := by decide

/-! ### Equations of the readers -/

section Reading

variable {h l : Char} (hh : Text.isHexDigit h = true) (hl : Text.isHexDigit l = true) (rest : Text)
variable {c : Char} {t : Text} (hc : startsEscape (c :: t) = false)

/-- What a text begins with if it begins with no escape: another character than a percent sign, or
one in front of fewer than two digits. -/
theorem startsEscape_eq_false_cases (hc : startsEscape (c :: t) = false) :
    c ≠ '%' ∨ c = '%' ∧ startsHex t = false := by
  simp only [startsEscape, Bool.and_eq_false_iff, decide_eq_false_iff_not] at hc
  by_cases hp : c = '%'
  · exact Or.inr ⟨hp, hc.resolve_left (fun h => h hp)⟩
  · exact Or.inl hp

include hh hl in
theorem pieces_escape : pieces ('%' :: h :: l :: rest) = .escape h l :: pieces rest := by
  simp [pieces, hh, hl]

include hc in
theorem pieces_char : pieces (c :: t) = consRaw c (pieces t) := by
  rcases startsEscape_eq_false_cases hc with hp | ⟨rfl, ht⟩
  · rw [pieces.eq_3]
    exact fun _ _ _ h _ => hp h
  · match t with
    | [] => rfl
    | [h] => rfl
    | h :: l :: t => rw [pieces, if_neg (by simpa [startsHex] using ht)]

include hh hl in
theorem hasEscape_escape : hasEscape ('%' :: h :: l :: rest) = true := by
  simp [hasEscape, hh, hl]

include hc in
theorem hasEscape_char : hasEscape (c :: t) = hasEscape t := by
  rcases startsEscape_eq_false_cases hc with hp | ⟨rfl, ht⟩
  · rw [hasEscape.eq_3]
    exact fun _ _ _ h _ => hp h
  · match t with
    | [] => rfl
    | [h] => rfl
    | h :: l :: t => rw [hasEscape, show (Text.isHexDigit h && Text.isHexDigit l) = false from ht,
        Bool.false_or]

include hc in
theorem hasStray_char : hasStray (c :: t) = (c = '%' || hasStray t) := by
  rcases startsEscape_eq_false_cases hc with hp | ⟨rfl, ht⟩
  · rw [hasStray.eq_3]
    exact fun _ _ _ h _ => hp h
  · match t with
    | [] => rfl
    | [h] => rfl
    | h :: l :: t =>
        rw [hasStray, show (Text.isHexDigit h && Text.isHexDigit l) = false from ht]
        rfl

include hh hl in
theorem hasStray_escape : hasStray ('%' :: h :: l :: rest) = hasStray rest := by
  have hh' := ne_percent_of_isHexDigit hh
  have hl' := ne_percent_of_isHexDigit hl
  rw [hasStray, hh, hl, hasStray_char (startsEscape_cons_ne hh' _),
    hasStray_char (startsEscape_cons_ne hl' _)]
  simp [hh', hl']

include hh hl in
theorem unescape_escape :
    unescape ('%' :: h :: l :: rest) = .ofNat (Text.numberIn 16 [h, l]) :: unescape rest := by
  rw [unescape, if_pos (by simp [hh, hl])]

include hc in
theorem unescape_char : unescape (c :: t) = .ofNat c.toNat :: unescape t := by
  rcases startsEscape_eq_false_cases hc with hp | ⟨rfl, ht⟩
  · rw [unescape.eq_3]
    exact fun _ _ _ h _ => hp h
  · match t with
    | [] => rfl
    | [h] => rfl
    | h :: l :: t =>
        rw [unescape, if_neg (by simpa [startsHex] using ht)]
        rfl

end Reading

/-! ### Encoded byte strings -/

/-- A byte is kept as a character of ASCII that is unreserved or safe. -/
theorem keepsByte_iff {safe : Char → Bool} {b : UInt8} : keepsByte safe b = true ↔
    b.toNat < 0x80 ∧ (isUnreserved (Char.ofNat b.toNat) = true ∨ safe (Char.ofNat b.toNat) = true) := by
  simp [keepsByte]

/-- The characters of an encoded byte string are unreserved, safe or percent signs. -/
theorem mem_quote {safe : Char → Bool} {bytes : Bytes} {c : Char} (h : c ∈ quote safe bytes) :
    isUnreserved c = true ∨ c = '%' ∨ safe c = true := by
  obtain ⟨b, -, hb⟩ := List.mem_flatMap.mp h
  have hbyte : b.toNat < 256 := b.toNat_lt
  rw [quoteByte] at hb
  split at hb
  · next hkept =>
      obtain rfl := List.mem_singleton.mp hb
      exact (keepsByte_iff.mp hkept).2.imp_right Or.inr
  · simp only [escapeByte, List.mem_cons, List.not_mem_nil, or_false] at hb
    rcases hb with rfl | rfl | rfl
    · exact Or.inr (Or.inl rfl)
    · exact Or.inl (isUnreserved_of_isHexDigit (isHexDigit_hexDigit _ (by omega)))
    · exact Or.inl (isUnreserved_of_isHexDigit (isHexDigit_hexDigit _ (by omega)))

end HttpTemplates.Percent
