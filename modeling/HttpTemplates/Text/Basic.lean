/-!
# Texts

A text is a list of characters, so that every operation on it is a recursion on its characters.

* `Text.cut` splits at the first occurrence of a character and `Text.pieces` at every one;
  `cut_eq` and `intercalate_pieces` say that nothing is lost.
* `Text.dropEnd` removes a run of characters at the end.
* `Text.indexOf?` and `Text.lastIndexOf?` find a text inside another.
-/

namespace HttpTemplates

/-- A text, as the list of its characters. -/
abbrev Text := List Char

instance : Coe String Text := ⟨String.toList⟩

namespace Text

/-! ## Cutting -/

/-- What stands before the first `sep`, and what follows it if there is one. -/
def cut (sep : Char) : Text → Text × Option Text
  | [] => ([], none)
  | c :: rest =>
    if c = sep then ([], some rest)
    else (c :: (cut sep rest).1, (cut sep rest).2)

@[simp] theorem cut_nil (sep : Char) : cut sep [] = ([], none) := rfl

theorem cut_cons_self (sep : Char) (rest : Text) : cut sep (sep :: rest) = ([], some rest) := by
  simp [cut]

theorem cut_cons_ne {sep c : Char} (h : c ≠ sep) (rest : Text) :
    cut sep (c :: rest) = (c :: (cut sep rest).1, (cut sep rest).2) := by
  simp [cut, h]

/-- Cutting loses only the separator. -/
theorem cut_eq (sep : Char) (t : Text) :
    t = (cut sep t).1 ++ ((cut sep t).2.map (sep :: ·)).getD [] := by
  induction t with
  | nil => rfl
  | cons c rest ih =>
    by_cases h : c = sep
    · subst h; simp [cut]
    · rw [cut_cons_ne h]; simpa using ih

/-- The part before the cut does not hold the separator. -/
theorem not_mem_cut (sep : Char) (t : Text) : sep ∉ (cut sep t).1 := by
  induction t with
  | nil => simp
  | cons c rest ih =>
    by_cases h : c = sep
    · subst h; simp [cut]
    · rw [cut_cons_ne h]
      simpa [Ne.symm h] using ih

/-- The texts between the occurrences of `sep`; there is one more of them than of `sep`. -/
def pieces (sep : Char) : Text → List Text
  | [] => [[]]
  | c :: rest =>
    if c = sep then [] :: pieces sep rest
    else
      match pieces sep rest with
      | [] => [[c]]
      | p :: ps => (c :: p) :: ps

@[simp] theorem pieces_nil (sep : Char) : pieces sep [] = [[]] := rfl

theorem pieces_cons_self (sep : Char) (rest : Text) :
    pieces sep (sep :: rest) = [] :: pieces sep rest := by
  simp [pieces]

theorem pieces_ne_nil (sep : Char) (t : Text) : pieces sep t ≠ [] := by
  cases t with
  | nil => simp
  | cons c rest =>
    by_cases h : c = sep
    · simp [pieces, h]
    · simp only [pieces, h, if_false]
      split <;> simp

theorem pieces_cons_ne {sep c : Char} (h : c ≠ sep) (rest : Text) :
    ∃ p ps, pieces sep rest = p :: ps ∧ pieces sep (c :: rest) = (c :: p) :: ps := by
  cases hp : pieces sep rest with
  | nil => exact absurd hp (pieces_ne_nil sep rest)
  | cons p ps => exact ⟨p, ps, rfl, by simp [pieces, h, hp]⟩

/-- Joining the pieces with the separator gives the text back. -/
theorem intercalate_pieces (sep : Char) (t : Text) : [sep].intercalate (pieces sep t) = t := by
  induction t with
  | nil => rfl
  | cons c rest ih =>
    by_cases h : c = sep
    · subst h
      rw [pieces_cons_self]
      cases hp : pieces c rest with
      | nil => exact absurd hp (pieces_ne_nil c rest)
      | cons p ps => rw [hp] at ih; simpa [List.intercalate, List.intersperse] using ih
    · obtain ⟨p, ps, hp, hc⟩ := pieces_cons_ne h rest
      rw [hc]
      rw [hp] at ih
      cases ps with
      | nil => simpa [List.intercalate, List.intersperse] using ih
      | cons q qs => simpa [List.intercalate, List.intersperse] using ih

/-! ## Ends -/

/-- The text without the longest run of characters at its end that satisfy `p`. -/
def dropEnd (p : Char → Bool) (t : Text) : Text :=
  (t.reverse.dropWhile p).reverse

@[simp] theorem dropEnd_nil (p : Char → Bool) : dropEnd p [] = [] := rfl

/-- Whether the text begins with `lead`. -/
def startsWith (t lead : Text) : Bool :=
  lead.isPrefixOf t

/-- Whether the text ends with `tail`. -/
def endsWith (t tail : Text) : Bool :=
  tail.isSuffixOf t

/-! ## Finding -/

/-- The index at which `sought` first occurs. -/
def indexOf? (sought : Text) : Text → Option Nat
  | [] => if sought = [] then some 0 else none
  | c :: rest =>
    if startsWith (c :: rest) sought then some 0
    else (indexOf? sought rest).map (· + 1)

/-- The index at which `sought` last occurs. -/
def lastIndexOf? (sought : Text) : Text → Option Nat
  | [] => if sought = [] then some 0 else none
  | c :: rest =>
    match lastIndexOf? sought rest with
    | some i => some (i + 1)
    | none => if startsWith (c :: rest) sought then some 0 else none

/-! ## Numbers -/

/-- A natural number in decimal digits. -/
def ofNat (n : Nat) : Text :=
  Nat.toDigits 10 n

/-- An integer in decimal digits, with a sign if it is negative. -/
def ofInt : Int → Text
  | .ofNat n => ofNat n
  | .negSucc n => '-' :: ofNat (n + 1)

/-- `t` with `fill` in front, up to the length `width`. -/
def padLeft (width : Nat) (fill : Char) (t : Text) : Text :=
  List.replicate (width - t.length) fill ++ t

end Text

end HttpTemplates
