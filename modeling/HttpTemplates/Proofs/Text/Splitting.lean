import HttpTemplates.Text.Blank
import Mathlib.Data.List.TakeWhile

/-!
# Splitting texts

The inverse of joining: `cut_append` cuts at the first separator again, and `pieces_intercalate`
finds the parts of a joined list, as long as no part holds the separator. Trimming removes blanks at
the two ends and nothing else (`exists_trim`), and it leaves a text alone that neither begins nor
ends with one (`trim_eq_self_iff`).
-/

namespace HttpTemplates.Text

/-! ### Separators -/

theorem cut_of_not_mem {sep : Char} {t : Text} (h : sep ∉ t) : cut sep t = (t, none) := by
  induction t with
  | nil => rfl
  | cons c rest ih =>
      simp only [List.mem_cons, not_or] at h
      rw [cut_cons_ne (Ne.symm h.1), ih h.2]

/-- A text is cut at the first separator. -/
theorem cut_append {sep : Char} {s : Text} (h : sep ∉ s) (t : Text) :
    cut sep (s ++ sep :: t) = (s, some t) := by
  induction s with
  | nil => exact cut_cons_self sep t
  | cons c rest ih =>
      simp only [List.mem_cons, not_or] at h
      rw [List.cons_append, cut_cons_ne (Ne.symm h.1), ih h.2]

/-- A text without the separator is not cut. -/
theorem cut_append_of_not_mem {sep : Char} {s : Text} (h : sep ∉ s) (t : Text) :
    cut sep (s ++ t) = (s ++ (cut sep t).1, (cut sep t).2) := by
  induction s with
  | nil => rfl
  | cons c rest ih =>
      simp only [List.mem_cons, not_or] at h
      rw [List.cons_append, cut_cons_ne (Ne.symm h.1), ih h.2, List.cons_append]

/-- The first part is the longest one without the separator. -/
theorem cut_eq_takeWhile (sep : Char) (t : Text) :
    cut sep t = (t.takeWhile (· ≠ sep),
      if sep ∈ t then some (t.dropWhile (· ≠ sep)).tail else none) := by
  induction t with
  | nil => simp
  | cons c rest ih =>
      by_cases h : c = sep
      · subst h
        simp [cut_cons_self]
      · simp [cut_cons_ne h, ih, h, Ne.symm h]

theorem head_cut {sep : Char} {t : Text} {c : Char} (h : (cut sep t).1.head? = some c) :
    t.head? = some c := by
  rw [cut_eq sep t, List.head?_append, h, Option.some_or]

theorem pieces_of_not_mem {sep : Char} {t : Text} (h : sep ∉ t) : pieces sep t = [t] := by
  induction t with
  | nil => rfl
  | cons c rest ih =>
      simp only [List.mem_cons, not_or] at h
      obtain ⟨p, ps, hps, hcons⟩ := pieces_cons_ne (Ne.symm h.1) rest
      rw [ih h.2] at hps
      obtain ⟨rfl, rfl⟩ := List.cons.inj hps
      exact hcons

/-- No piece holds the separator. -/
theorem notMem_of_mem_pieces {sep : Char} {t p : Text} (h : p ∈ pieces sep t) : sep ∉ p := by
  induction t generalizing p with
  | nil =>
      rw [List.mem_singleton.mp h]
      exact List.not_mem_nil
  | cons c rest ih =>
      by_cases hc : c = sep
      · subst hc
        rw [pieces_cons_self] at h
        rcases List.mem_cons.mp h with rfl | h
        · exact List.not_mem_nil
        · exact ih h
      · obtain ⟨q, qs, hqs, hcons⟩ := pieces_cons_ne hc rest
        rw [hqs] at ih
        rw [hcons] at h
        rcases List.mem_cons.mp h with rfl | h
        · exact List.not_mem_cons_of_ne_of_not_mem (Ne.symm hc) (ih (List.mem_cons_self ..))
        · exact ih (List.mem_cons_of_mem _ h)

/-- The characters of a piece are characters of the text. -/
theorem mem_of_mem_pieces {sep : Char} {t p : Text} (h : p ∈ pieces sep t) : ∀ x ∈ p, x ∈ t := by
  induction t generalizing p with
  | nil =>
      rw [List.mem_singleton.mp h]
      simp
  | cons c rest ih =>
      by_cases hc : c = sep
      · subst hc
        rw [pieces_cons_self] at h
        rcases List.mem_cons.mp h with rfl | h
        · simp
        · exact fun x hx => List.mem_cons_of_mem _ (ih h x hx)
      · obtain ⟨q, qs, hqs, hcons⟩ := pieces_cons_ne hc rest
        rw [hqs] at ih
        rw [hcons] at h
        rcases List.mem_cons.mp h with rfl | h
        · exact List.cons_subset_cons _ fun x hx => ih (List.mem_cons_self ..) x hx
        · exact fun x hx => List.mem_cons_of_mem _ (ih (List.mem_cons_of_mem _ h) x hx)

/-- A separator ends a piece. -/
theorem pieces_append {sep : Char} {s : Text} (h : sep ∉ s) (t : Text) :
    pieces sep (s ++ sep :: t) = s :: pieces sep t := by
  induction s with
  | nil => exact pieces_cons_self sep t
  | cons c rest ih =>
      simp only [List.mem_cons, not_or] at h
      obtain ⟨p, ps, hps, hcons⟩ := pieces_cons_ne (Ne.symm h.1) (rest ++ sep :: t)
      rw [ih h.2] at hps
      obtain ⟨rfl, rfl⟩ := List.cons.inj hps
      exact hcons

/-- Splitting undoes joining. -/
theorem pieces_intercalate {sep : Char} {ps : List Text} (hne : ps ≠ [])
    (h : ∀ p ∈ ps, sep ∉ p) : pieces sep ([sep].intercalate ps) = ps := by
  induction ps with
  | nil => exact absurd rfl hne
  | cons p ps ih =>
      obtain ⟨hp, hps⟩ := List.forall_mem_cons.mp h
      cases ps with
      | nil =>
          rw [List.intercalate_singleton]
          exact pieces_of_not_mem hp
      | cons q qs =>
          rw [List.intercalate_cons_cons, List.append_assoc, List.singleton_append,
            pieces_append hp, ih (by simp) hps]

/-- Every part but the first has a separator in front of it. -/
theorem intercalate_cons (sep : Char) (p : Text) (ps : List Text) :
    [sep].intercalate (p :: ps) = p ++ ps.flatMap (sep :: ·) := by
  induction ps generalizing p with
  | nil => simp
  | cons q qs ih =>
      rw [List.intercalate_cons_cons, ih, List.flatMap_cons, List.append_assoc]
      rfl

/-- Two lists of texts are joined as one, with a separator between the two. -/
theorem intercalate_append (sep : Char) {ps qs : List Text} (hps : ps ≠ []) (hqs : qs ≠ []) :
    [sep].intercalate (ps ++ qs) = [sep].intercalate ps ++ sep :: [sep].intercalate qs := by
  obtain ⟨p, ps, rfl⟩ := List.exists_cons_of_ne_nil hps
  obtain ⟨q, qs, rfl⟩ := List.exists_cons_of_ne_nil hqs
  rw [List.cons_append, intercalate_cons, intercalate_cons, intercalate_cons, List.flatMap_append,
    List.flatMap_cons, List.append_assoc, List.cons_append]

/-- Joining adds nothing but separators. -/
theorem mem_intercalate {sep c : Char} {ps : List Text} (h : c ∈ [sep].intercalate ps) :
    c = sep ∨ ∃ p ∈ ps, c ∈ p := by
  induction ps with
  | nil => exact absurd h (by simp)
  | cons p ps ih =>
      cases ps with
      | nil =>
          rw [List.intercalate_singleton] at h
          exact Or.inr ⟨p, List.mem_cons_self .., h⟩
      | cons q qs =>
          rw [List.intercalate_cons_cons, List.mem_append, List.mem_append] at h
          rcases h with (h | h) | h
          · exact Or.inr ⟨p, List.mem_cons_self .., h⟩
          · exact Or.inl (List.mem_singleton.mp h)
          · obtain hsep | ⟨r, hr, hc⟩ := ih h
            · exact Or.inl hsep
            · exact Or.inr ⟨r, List.mem_cons_of_mem _ hr, hc⟩

/-- Joining loses nothing. -/
theorem subset_intercalate (sep : Char) {ps : List Text} {p : Text} (hp : p ∈ ps) :
    p ⊆ [sep].intercalate ps := by
  cases ps with
  | nil => exact absurd hp (by simp)
  | cons q qs =>
      rw [intercalate_cons]
      rcases List.mem_cons.mp hp with rfl | hp
      · exact List.subset_append_left _ _
      · intro x hx
        exact List.mem_append_right _ (List.mem_flatMap.mpr ⟨p, hp, List.mem_cons_of_mem _ hx⟩)

/-! ### Blanks -/

theorem exists_dropEnd (p : Char → Bool) (t : Text) :
    ∃ s, t = dropEnd p t ++ s ∧ ∀ c ∈ s, p c = true := by
  refine ⟨(t.reverse.takeWhile p).reverse, ?_, fun c hc => ?_⟩
  · rw [dropEnd, ← List.reverse_append, List.takeWhile_append_dropWhile, List.reverse_reverse]
  · exact List.all_eq_true.mp List.all_takeWhile c (List.mem_reverse.mp hc)

/-- A text that does not end with such a character is not shortened. -/
theorem dropEnd_append {p : Char → Bool} {s : Text} {c : Char} (hc : s.getLast? = some c)
    (hp : p c = false) (t : Text) : dropEnd p (s ++ t) = s ++ dropEnd p t := by
  have hkeep : s.reverse.dropWhile p = s.reverse := by
    rw [← List.head?_reverse] at hc
    obtain ⟨rest, hrest⟩ := List.head?_eq_some_iff.mp hc
    rw [hrest, List.dropWhile_cons_of_neg (by simp [hp])]
  rw [dropEnd, List.reverse_append, List.dropWhile_append]
  split
  · next hempty =>
      rw [hkeep, List.reverse_reverse, dropEnd, List.isEmpty_iff.mp hempty]
      simp
  · rw [List.reverse_append, List.reverse_reverse]
    rfl

theorem dropEnd_eq_nil_iff {p : Char → Bool} {t : Text} :
    dropEnd p t = [] ↔ ∀ c ∈ t, p c = true := by
  rw [dropEnd, List.reverse_eq_nil_iff, List.dropWhile_eq_nil_iff]
  simp

/-- Trimming removes blanks at the two ends. -/
theorem exists_trim (t : Text) : ∃ a b, t = a ++ trim t ++ b ∧ (∀ c ∈ a, isBlank c = true) ∧
    ∀ c ∈ b, isBlank c = true := by
  obtain ⟨b, hb, hblank⟩ := exists_dropEnd isBlank (t.dropWhile isBlank)
  refine ⟨t.takeWhile isBlank, b, ?_, fun c hc => ?_, hblank⟩
  · rw [List.append_assoc, trim, ← hb, List.takeWhile_append_dropWhile]
  · exact List.all_eq_true.mp List.all_takeWhile c hc

theorem trim_sublist (t : Text) : (trim t).Sublist t := by
  obtain ⟨a, b, ht, -, -⟩ := exists_trim t
  conv => rhs; rw [ht]
  exact (List.sublist_append_right a _).trans (List.sublist_append_left _ b)

theorem head_dropWhile {p : Char → Bool} {t : Text} {c : Char}
    (h : (t.dropWhile p).head? = some c) : p c = false := by
  have := List.head?_dropWhile_not p t
  rwa [h] at this

/-- A trimmed text does not end with a blank. -/
theorem isBlank_getLast_trim {t : Text} {c : Char} (h : (trim t).getLast? = some c) :
    isBlank c = false := by
  rw [trim, dropEnd, List.getLast?_reverse] at h
  exact head_dropWhile h

/-- A trimmed text does not begin with a blank. -/
theorem isBlank_head_trim {t : Text} {c : Char} (h : (trim t).head? = some c) :
    isBlank c = false := by
  obtain ⟨s, hs, -⟩ := exists_dropEnd isBlank (t.dropWhile isBlank)
  refine head_dropWhile (p := isBlank) (t := t) ?_
  rw [trim] at h
  rw [hs, List.head?_append, h, Option.some_or]

/-- Trimming keeps a first character that is no blank. -/
theorem head_trim {t : Text} {c d : Char} (hd : t.head? = some d) (hblank : isBlank d = false)
    (h : (trim t).head? = some c) : c = d := by
  obtain ⟨a, b, ht, ha, -⟩ := exists_trim t
  rw [ht, List.append_assoc, List.head?_append, List.head?_append, h, Option.some_or] at hd
  cases a with
  | nil => exact Option.some.inj hd
  | cons x rest =>
      obtain rfl : x = d := Option.some.inj hd
      rw [ha x (List.mem_cons_self ..)] at hblank
      exact absurd hblank (by simp)

/-- Nothing is trimmed if neither end is a blank. -/
theorem trim_eq_self_iff {t : Text} : trim t = t ↔
    (∀ c, t.head? = some c → isBlank c = false) ∧ ∀ c, t.getLast? = some c → isBlank c = false := by
  constructor
  · intro h
    rw [← h]
    exact ⟨fun _ => isBlank_head_trim, fun _ => isBlank_getLast_trim⟩
  · rintro ⟨hhead, hlast⟩
    have hkeep : ∀ {u : Text}, (∀ c, u.head? = some c → isBlank c = false) →
        u.dropWhile isBlank = u := by
      intro u hu
      cases u with
      | nil => rfl
      | cons c rest => rw [List.dropWhile_cons_of_neg]; simp [hu c rfl]
    rw [trim, hkeep hhead, dropEnd, hkeep fun c hc => hlast c (by rwa [List.head?_reverse] at hc),
      List.reverse_reverse]

theorem trim_trim (t : Text) : trim (trim t) = trim t :=
  trim_eq_self_iff.mpr ⟨fun _ => isBlank_head_trim, fun _ => isBlank_getLast_trim⟩

end HttpTemplates.Text
