import HttpTemplates.Proofs.Percent.Disguise
import HttpTemplates.Proofs.Text.Splitting
import HttpTemplates.Template.Expression
import Mathlib.Data.List.Basic

/-!
# What a rendered value holds

A value is encoded in parts (`Value.parts`): the elements of a list, the keys and values of a map,
any other value as a whole. Between them stand commas and equals signs. **Any character but these
and the plain ones comes from a part whose text is in disguise** (`Expression.mem_render_iff`), and
most charsets have no text in disguise.
-/

namespace HttpTemplates

open Percent (isPlain IsDisguised Discerns DiscernsAscii)

/-! ### Parts of a value -/

namespace Value

/-- The parts of a value that are encoded one by one. An element of a list that is nothing is none
of them, nor is such a value of a map. -/
def parts : Value → List Value
  | .list items => items.filter (!·.isNull)
  | .map entries => entries.flatMap fun (k, v) => if v.isNull then [k] else [k, v]
  | v => [v]

/-- The text of the value is in disguise and holds this character. -/
def Hides (c : Charset) (v : Value) (x : Char) : Prop :=
  ∃ s, Expression.scalarText c v = .ok s ∧ IsDisguised c s ∧ x ∈ s

/-- The text of a part of the value is in disguise and holds this character. -/
def Leaks (c : Charset) (v : Value) (x : Char) : Prop :=
  ∃ p ∈ v.parts, p.Hides c x

variable {c : Charset} {x : Char}

theorem not_leaks_of_discerns (hc : Discerns c) (v : Value) : ¬ v.Leaks c x :=
  fun ⟨_, _, s, _, hs, _⟩ => hc s hs

theorem isPlain_of_leaks (hc : DiscernsAscii c) {v : Value} (h : v.Leaks c x)
    (hx : x.toNat < 0x80) : isPlain x = true := by
  obtain ⟨p, -, s, -, hs, hmem⟩ := h
  exact hc s hs x hmem hx

end Value

/-! ### Rendering -/

namespace Expression

/-- Whether a character may occur in a rendered value without being in disguise: it is plain, or it
stands between elements or in an entry. -/
def isRendered (x : Char) : Bool :=
  isPlain x || x = ',' || x = '='

theorem isRendered_eq_false_iff {x : Char} :
    isRendered x = false ↔ isPlain x = false ∧ x ≠ ',' ∧ x ≠ '=' := by
  simp [isRendered, and_assoc]

variable {c : Charset} {x : Char}

section Plain

variable (hplain : isPlain x = false)

include hplain

theorem mem_renderScalar_iff {v : Value} {w : Text} (h : renderScalar true c v = .ok w) :
    x ∈ w ↔ v.Hides c x := by
  obtain ⟨s, hs, hw⟩ := bind_eq_ok_iff.mp h
  rw [Percent.mem_encodeUnlessEncoded_iff hw hplain rfl]
  constructor
  · rintro ⟨hd, hx⟩
    exact ⟨s, hs, hd, hx⟩
  · rintro ⟨u, hu, hd, hx⟩
    obtain rfl : s = u := Except.ok.inj (hs.symm.trans hu)
    exact ⟨hd, hx⟩

theorem mem_renderItems_iff {items : List Value} {ws : List Text}
    (h : renderItems true c items = .ok ws) :
    (∃ w ∈ ws, x ∈ w) ↔ (Value.list items).Leaks c x := by
  induction items generalizing ws with
  | nil =>
      rw [← Except.ok.inj h]
      simp [Value.Leaks, Value.parts]
  | cons v items ih =>
      rw [renderItems] at h
      split at h
      · next hnull =>
          rw [ih h]
          simp [Value.Leaks, Value.parts, hnull]
      · next hbound =>
          obtain ⟨head, hhead, h⟩ := bind_eq_ok_iff.mp h
          obtain ⟨tail, htail, h⟩ := bind_eq_ok_iff.mp h
          rw [← Except.ok.inj h, List.exists_mem_cons_iff, mem_renderScalar_iff hplain hhead,
            ih htail]
          simp [Value.Leaks, Value.parts, hbound]

theorem mem_renderEntries_iff (hequals : x ≠ '=') {entries : List (Value × Value)}
    {ws : List Text} (h : renderEntries true c entries = .ok ws) :
    (∃ w ∈ ws, x ∈ w) ↔ (Value.map entries).Leaks c x := by
  induction entries generalizing ws with
  | nil =>
      rw [← Except.ok.inj h]
      simp [Value.Leaks, Value.parts]
  | cons entry entries ih =>
      obtain ⟨k, v⟩ := entry
      obtain ⟨name, hname, h⟩ := bind_eq_ok_iff.mp h
      have hkey := mem_renderScalar_iff hplain hname
      -- An entry is a key, an equals sign and a value, which is empty if it is nothing.
      obtain ⟨value, tail, hvalue, htail, rfl⟩ : ∃ value tail,
          (x ∈ value ↔ v.isNull = false ∧ v.Hides c x) ∧
            renderEntries true c entries = .ok tail ∧ (name ++ '=' :: value) :: tail = ws := by
        dsimp only at h
        split at h
        · next hnull =>
            rw [bind_ok] at h
            obtain ⟨tail, htail, h⟩ := bind_eq_ok_iff.mp h
            exact ⟨[], tail, by simp [hnull], htail, Except.ok.inj h⟩
        · next hbound =>
            obtain ⟨value, hvalue, h⟩ := bind_eq_ok_iff.mp h
            obtain ⟨tail, htail, h⟩ := bind_eq_ok_iff.mp h
            refine ⟨value, tail, ?_, htail, Except.ok.inj h⟩
            rw [mem_renderScalar_iff hplain hvalue]
            simp [hbound]
      rw [List.exists_mem_cons_iff, ih htail, List.mem_append, List.mem_cons, or_iff_right hequals,
        hkey, hvalue]
      simp only [Value.Leaks, Value.parts, List.flatMap_cons, List.mem_append, or_and_right,
        exists_or]
      refine or_congr_left ?_
      cases hnull : v.isNull <;> simp

end Plain

section Comma

variable (hcomma : x ≠ ',')

include hcomma

theorem mem_addElement_iff {pieces : List Text} {element : Text} :
    (∃ p ∈ addElement pieces element, x ∈ p) ↔ (∃ p ∈ pieces, x ∈ p) ∨ x ∈ element := by
  unfold addElement
  split
  · next hnil => simp [hnil, hcomma]
  split
  · rw [List.exists_mem_cons_iff, or_comm]
  · rw [List.exists_mem_cons_iff, List.mem_cons, or_iff_right hcomma, or_comm]

theorem mem_foldl_addElement_iff {elements pieces : List Text} :
    (∃ p ∈ elements.foldl addElement pieces, x ∈ p) ↔
      (∃ p ∈ pieces, x ∈ p) ∨ ∃ w ∈ elements, x ∈ w := by
  induction elements generalizing pieces with
  | nil => simp
  | cons element elements ih =>
      rw [List.foldl_cons, ih, mem_addElement_iff hcomma, List.exists_mem_cons_iff, or_assoc]

theorem mem_joinElements_iff {elements : List Text} :
    x ∈ joinElements elements ↔ ∃ w ∈ elements, x ∈ w := by
  rw [joinElements, List.mem_flatten]
  simp only [List.mem_reverse]
  rw [mem_foldl_addElement_iff hcomma]
  simp

theorem mem_intercalate_iff {ps : List Text} : x ∈ [','].intercalate ps ↔ ∃ p ∈ ps, x ∈ p := by
  constructor
  · intro hx
    exact (Text.mem_intercalate hx).resolve_left hcomma
  · rintro ⟨p, hp, hx⟩
    exact Text.subset_intercalate ',' hp hx

end Comma

/-- **Plain characters, commas and equals signs apart, a rendered value holds what its parts hold in
disguise.** -/
theorem mem_render_iff (hx : isRendered x = false) {v : Value} {w : Text}
    (h : render true c v = .ok w) : x ∈ w ↔ v.Leaks c x := by
  obtain ⟨hplain, hcomma, hequals⟩ := isRendered_eq_false_iff.mp hx
  cases v with
  | list items =>
      obtain ⟨elements, helements, h⟩ := bind_eq_ok_iff.mp h
      rw [← Except.ok.inj h, mem_joinElements_iff hcomma, mem_renderItems_iff hplain helements]
  | map entries =>
      obtain ⟨pairs, hpairs, h⟩ := bind_eq_ok_iff.mp h
      rw [← Except.ok.inj h, mem_intercalate_iff hcomma,
        mem_renderEntries_iff hplain hequals hpairs]
  | null | bool | int | real | text | bytes =>
      rw [mem_renderScalar_iff hplain h]
      simp [Value.Leaks, Value.parts]

end Expression

end HttpTemplates
