import HttpTemplates.Proofs.Percent.Escape
import HttpTemplates.Text.Casing

/-!
# Letter case in ASCII

Among texts of ASCII characters, `capitalize` and `lower` tell apart the same ones
(`capitalize_eq_capitalize_iff`). Outside ASCII they do not: the title case of a letter may have
several characters, and its lower case may depend on its place.
-/

namespace HttpTemplates.Text

open Percent (isAscii toNat_ofNat_ascii)

/-- A text of ASCII characters only. -/
def IsAscii (t : Text) : Prop :=
  ∀ c ∈ t, isAscii c = true

instance (t : Text) : Decidable t.IsAscii :=
  decidable_of_iff (t.all isAscii = true) List.all_eq_true

theorem toNat_lt_of_isAscii {c : Char} (h : isAscii c = true) : c.toNat < 0x80 := by
  simpa [isAscii] using h

theorem IsAscii.tail {c : Char} {t : Text} (h : IsAscii (c :: t)) : IsAscii t :=
  fun x hx => h x (List.mem_cons_of_mem _ hx)

/-! ### Single characters -/

/-- The lower case of a character of ASCII. -/
def asciiLower (c : Char) : Char :=
  .ofNat (lowerCode c.toNat)

/-- The upper case of a character of ASCII. -/
def asciiUpper (c : Char) : Char :=
  .ofNat (upperCode c.toNat)

theorem lowerCharIn_ascii {c : Char} (h : isAscii c = true) (before after : Text) :
    lowerCharIn before after c = [asciiLower c] := by
  have hcode := toNat_lt_of_isAscii h
  have hsigma : c ≠ '\u03A3' := by
    rintro rfl
    exact absurd hcode (by decide)
  have hdotted : c ≠ '\u0130' := by
    rintro rfl
    exact absurd hcode (by decide)
  rw [lowerCharIn, if_neg hsigma, if_neg hdotted, asciiLower]

/-- The title case of an ASCII character is its upper case. -/
theorem titleChar_ascii {c : Char} (h : isAscii c = true) : titleChar c = [asciiUpper c] := by
  have hcode := toNat_lt_of_isAscii h
  have hexceptions : ∀ p ∈ titleExceptions, 0x80 ≤ p.1 := by decide +kernel
  have hlookup : titleExceptions.lookup c.toNat = none := by
    rw [List.lookup_eq_none_iff]
    intro p hp
    have hp := hexceptions p hp
    rw [bne_iff_ne]
    omega
  rw [titleChar, hlookup]
  simp only [upperChar, if_pos hcode, asciiUpper]

/-- Two ASCII characters have the same upper case exactly if they have the same lower case. -/
theorem asciiUpper_eq_iff {c d : Char} (hc : isAscii c = true) (hd : isAscii d = true) :
    asciiUpper c = asciiUpper d ↔ asciiLower c = asciiLower d := by
  have hc := toNat_lt_of_isAscii hc
  have hd := toNat_lt_of_isAscii hd
  -- Among codes of ASCII, characters are told apart by them.
  have hcodes : ∀ {m n : Nat}, m < 0x80 → n < 0x80 → (Char.ofNat m = Char.ofNat n ↔ m = n) := by
    intro m n hm hn
    constructor
    · intro h
      rw [← toNat_ofNat_ascii m hm, h, toNat_ofNat_ascii n hn]
    · rintro rfl
      rfl
  have hupper : ∀ {n : Nat}, n < 0x80 → upperCode n < 0x80 := by
    intro n hn
    rw [upperCode, if_pos hn]
    split <;> omega
  have hlower : ∀ {n : Nat}, n < 0x80 → lowerCode n < 0x80 := by
    intro n hn
    rw [lowerCode, if_pos hn]
    split
    · next h => simp only [Bool.and_eq_true, decide_eq_true_eq] at h; omega
    · exact hn
  rw [asciiUpper, asciiUpper, asciiLower, asciiLower, hcodes (hupper hc) (hupper hd),
    hcodes (hlower hc) (hlower hd)]
  simp only [upperCode, lowerCode, if_pos hc, if_pos hd, Bool.and_eq_true, decide_eq_true_eq]
  split <;> split <;> split <;> split <;> omega

/-! ### Texts -/

theorem lowerFrom_ascii {t : Text} (h : t.IsAscii) (before : Text) :
    lowerFrom before t = t.map asciiLower := by
  induction t generalizing before with
  | nil => rfl
  | cons c rest ih =>
      rw [lowerFrom, lowerCharIn_ascii (h c (List.mem_cons_self ..)), ih h.tail, List.map_cons]
      rfl

theorem lower_ascii {t : Text} (h : t.IsAscii) : lower t = t.map asciiLower :=
  lowerFrom_ascii h []

theorem capitalize_ascii {c : Char} {t : Text} (h : IsAscii (c :: t)) :
    capitalize (c :: t) = asciiUpper c :: t.map asciiLower := by
  rw [capitalize, titleChar_ascii (h c (List.mem_cons_self ..)), lowerFrom_ascii h.tail]
  rfl

/-- **Two texts of ASCII characters are capitalized alike exactly if they have the same lower
case.** -/
theorem capitalize_eq_capitalize_iff {s t : Text} (hs : s.IsAscii) (ht : t.IsAscii) :
    capitalize s = capitalize t ↔ lower s = lower t := by
  rw [lower_ascii hs, lower_ascii ht]
  cases s with
  | nil =>
      cases t with
      | nil => simp
      | cons d t =>
          rw [capitalize_ascii ht]
          simp [capitalize]
  | cons c s =>
      cases t with
      | nil =>
          rw [capitalize_ascii hs]
          simp [capitalize]
      | cons d t =>
          rw [capitalize_ascii hs, capitalize_ascii ht, List.map_cons, List.map_cons,
            List.cons.injEq, List.cons.injEq,
            asciiUpper_eq_iff (hs c (List.mem_cons_self ..)) (ht d (List.mem_cons_self ..))]

/-- Capitalized, ASCII texts differ from each other if their lower cases do. -/
theorem nodup_map_capitalize (ts : List Text) (hascii : ∀ t ∈ ts, t.IsAscii)
    (h : (ts.map lower).Nodup) : (ts.map capitalize).Nodup := by
  rw [List.Nodup, List.pairwise_map] at h ⊢
  refine h.imp_of_mem fun hs ht hne heq => hne ?_
  exact (capitalize_eq_capitalize_iff (hascii _ hs) (hascii _ ht)).mp heq

end HttpTemplates.Text
