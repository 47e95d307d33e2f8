import HttpTemplates.Proofs.Percent.Encoding
import Mathlib.Data.List.Infix

/-!
# Encoding in parts

A text has an encoding if all of its characters have bytes, and it is encoded escape by escape and
character by character. So **a text may be cut anywhere but within an escape, and its parts be encoded
on their own** (`encodeReserved_append`).

A cut within an escape does not go unnoticed, unless percent signs are kept: the part that ends with
the percent sign has no escape there any more, the sign is encoded, and the parts make a text that is
longer by two characters (`length_escaped_of_not_apart`).
-/

namespace HttpTemplates.Percent

/-! ### Where escapes are cut -/

/-- Only the suffixes of the first text have to be looked at. -/
instance (s t : Text) : Decidable (Apart s t) :=
  decidable_of_iff
    (s.tails.all fun u => !startsEscape (u ++ t) || u.isEmpty || startsEscape u) <| by
    simp only [Apart, List.all_eq_true, List.mem_tails, Bool.or_eq_true, Bool.not_eq_true',
      List.isEmpty_iff]
    refine forall₂_congr fun u _ => ?_
    cases startsEscape (u ++ t) <;> simp

/-- No escape reaches over a percent sign. -/
theorem apart_percent (s t : Text) : Apart s ('%' :: t) := by
  have hpercent : Text.isHexDigit '%' = false := by decide
  intro u _ hu
  match u with
  | [] => exact Or.inl rfl
  | [a] => cases t <;> simp [startsEscape, startsHex, hpercent] at hu
  | [a, b] => simp [startsEscape, startsHex, hpercent] at hu
  | a :: b :: c :: u => exact Or.inr hu

/-- An escape that lies across the end of `s` has its percent sign, or that and one of its digits,
in `s`. -/
theorem exists_of_not_apart {s t : Text} (h : ¬ Apart s t) : ∃ x a b r,
    Text.isHexDigit a = true ∧ Text.isHexDigit b = true ∧
      (s = x ++ ['%'] ∧ t = a :: b :: r ∨ s = x ++ ['%', a] ∧ t = b :: r) := by
  simp only [Apart, not_forall, not_or] at h
  obtain ⟨u, ⟨x, rfl⟩, hu, hne, hnot⟩ := h
  obtain ⟨a, b, r, heq, ha, hb⟩ := startsEscape_iff.mp hu
  match u with
  | [] => exact absurd rfl hne
  | [p] =>
      obtain ⟨rfl, rfl⟩ := List.cons.inj heq
      exact ⟨x, a, b, r, ha, hb, Or.inl ⟨rfl, rfl⟩⟩
  | [p, q] =>
      simp only [List.cons_append, List.nil_append, List.cons.injEq] at heq
      obtain ⟨rfl, rfl, rfl⟩ := heq
      exact ⟨x, q, b, r, ha, hb, Or.inr ⟨rfl, rfl⟩⟩
  | p :: q :: l :: u =>
      rw [List.cons_append, List.cons_append, List.cons_append] at hu
      exact absurd hu hnot

/-! ### The encoding of the parts -/

section AsciiCompatible

variable {k : Codec} (hk : k.IsAsciiCompatible) {safe : Char → Bool}

include hk

/-- A hexadecimal digit is kept. -/
theorem escaped_hexDigit {a : Char} (ha : Text.isHexDigit a = true) (t : Text) :
    escaped safe k (a :: t) = a :: escaped safe k t := by
  rw [escaped_char safe k (startsEscape_cons_ne (ne_percent_of_isHexDigit ha) t), quoteChar_eq hk,
    if_pos (keeps_of_isUnreserved safe (isUnreserved_of_isHexDigit ha)), List.singleton_append]

/-- A percent sign that is not kept becomes three characters. -/
theorem length_quoteChar_percent (hsafe : safe '%' = false) :
    (quoteChar safe k '%').length = 3 := by
  have hkeeps : keeps safe '%' = false := by simp [keeps, isUnreserved, hsafe]
  rw [quoteChar_eq hk, hkeeps, Codec.charBytes_ascii hk (by decide)]
  rfl

/-- If an escape lies across the cut, the parts are encoded as two characters more. -/
theorem length_escaped_of_not_apart (hsafe : safe '%' = false) {s t : Text} (h : ¬ Apart s t) :
    (escaped safe k s ++ escaped safe k t).length = (escaped safe k (s ++ t)).length + 2 := by
  obtain ⟨x, a, b, r, ha, hb, ⟨rfl, rfl⟩ | ⟨rfl, rfl⟩⟩ := exists_of_not_apart h
  · rw [List.append_assoc, List.cons_append, List.nil_append,
      escaped_append safe k (apart_percent x _), escaped_append safe k (apart_percent x _),
      escaped_escape safe k ha hb, escaped_hexDigit hk ha, escaped_hexDigit hk hb,
      escaped_char safe k (show startsEscape ['%'] = false from rfl)]
    simp [length_quoteChar_percent hk hsafe]
    omega
  · rw [List.append_assoc, List.cons_append, List.cons_append, List.nil_append,
      escaped_append safe k (apart_percent x _), escaped_append safe k (apart_percent x _),
      escaped_escape safe k ha hb, escaped_hexDigit hk hb,
      escaped_char safe k (show startsEscape ['%', a] = false from rfl), escaped_hexDigit hk ha]
    simp [length_quoteChar_percent hk hsafe]
    omega

end AsciiCompatible

/-- **A text may be encoded in parts.** In an ASCII-compatible charset, with whatever safe characters,
two texts one behind the other can be encoded if and only if each of them can. The encodings of the
two make that of the whole if no escape lies across the cut. If percent signs are not kept, they make
it only then. -/
theorem encodeReserved_append {c : Charset} (hc : c.IsAsciiCompatible) (safe : Char → Bool)
    (s t : Text) :
    ((∃ w, encodeReserved safe c (s ++ t) = .ok w) ↔
      (∃ u, encodeReserved safe c s = .ok u) ∧ ∃ v, encodeReserved safe c t = .ok v) ∧
    ∀ {u v}, encodeReserved safe c s = .ok u → encodeReserved safe c t = .ok v →
      (Apart s t → encodeReserved safe c (s ++ t) = .ok (u ++ v)) ∧
      (safe '%' = false → encodeReserved safe c (s ++ t) = .ok (u ++ v) → Apart s t) := by
  obtain ⟨k, hcodec, hk⟩ := hc
  simp only [encodeReserved_eq_ok_iff hcodec hk]
  refine ⟨by simp, ?_⟩
  rintro u v ⟨hs, rfl⟩ ⟨ht, rfl⟩
  refine ⟨fun h => ⟨Codec.encodes_append.mpr ⟨hs, ht⟩, escaped_append safe k h⟩, ?_⟩
  rintro hsafe ⟨-, hwhole⟩
  by_contra h
  have hlength := length_escaped_of_not_apart hk hsafe h
  rw [hwhole] at hlength
  omega

/-- With stray percent signs on both sides the cut makes no difference. In front of the last digit of
an escape it does. -/
theorem encodeReserved_append_stray :
    Charset.utf8.IsAsciiCompatible ∧ Apart "é%2%" "z%2F" ∧
    encodeReserved noneSafe .utf8 ("é%2%".toList ++ "z%2F".toList)
      = .ok ("%C3%A9%252%25".toList ++ "z%2F".toList) ∧
    encodeReserved noneSafe .utf8 ("z%2".toList ++ "F".toList)
      ≠ .ok ("z%252".toList ++ "F".toList) := by
  have hc := Charset.isAsciiCompatible_utf8
  have happart : Apart "é%2%" "z%2F" := by decide
  have hs : encodeReserved noneSafe .utf8 "é%2%" = .ok "%C3%A9%252%25".toList :=
    toOption_eq_some_iff.mp (by decide +kernel)
  have ht : encodeReserved noneSafe .utf8 "z%2F" = .ok "z%2F".toList :=
    toOption_eq_some_iff.mp (by decide +kernel)
  have hs' : encodeReserved noneSafe .utf8 "z%2" = .ok "z%252".toList :=
    toOption_eq_some_iff.mp (by decide +kernel)
  have ht' : encodeReserved noneSafe .utf8 "F" = .ok "F".toList :=
    toOption_eq_some_iff.mp (by decide +kernel)
  have hwhole := ((encodeReserved_append hc noneSafe _ _).2 hs ht).1 happart
  have hcut := ((encodeReserved_append hc noneSafe _ _).2 hs' ht').2 rfl
  exact ⟨hc, happart, hwhole, fun h => absurd (hcut h) (by decide)⟩

end HttpTemplates.Percent
