import HttpTemplates.Proofs.Template.Segment
import HttpTemplates.Template.Uri

/-!
# Path and query string

A URI template is divided in front of the first question mark outside its expressions. On segments
this is `Segment.divide`, and parsing encodes the literals of the two sides as a path and as a query
string: `UriTemplate.create_textOf`. A question mark stays one in either encoding, so the chunks of
a template are divided where the template was.
-/

namespace HttpTemplates

namespace Segment

/-! ### Dividing segments -/

/-- The segments in front of the first question mark in a literal, and those from it on. -/
def divide : List Segment → List Segment × List Segment
  | [] => ([], [])
  | .span s e :: ss => (.span s e :: (divide ss).1, (divide ss).2)
  | .literal t :: ss =>
    match Text.cut '?' t with
    | (p, some q) => ([.literal p], .literal ('?' :: q) :: ss)
    | (_, none) => (.literal t :: (divide ss).1, (divide ss).2)

/-- No literal holds a question mark. -/
def IsPath (ss : List Segment) : Prop :=
  ∀ t, .literal t ∈ ss → '?' ∉ t

theorem divide_mark {p : Text} (hp : '?' ∉ p) (q : Text) (ss : List Segment) :
    divide (.literal (p ++ '?' :: q) :: ss) = ([.literal p], .literal ('?' :: q) :: ss) := by
  rw [divide, Text.cut_append hp]

theorem divide_literal {t : Text} (ht : '?' ∉ t) (ss : List Segment) :
    divide (.literal t :: ss) = (.literal t :: (divide ss).1, (divide ss).2) := by
  rw [divide, Text.cut_of_not_mem ht]

@[simp] theorem isPath_nil : IsPath [] := by simp [IsPath]

theorem isPath_literal {t : Text} {ss : List Segment} :
    IsPath (.literal t :: ss) ↔ '?' ∉ t ∧ IsPath ss := by
  simp [IsPath]

theorem isPath_span {s : Text} {e : Expression} {ss : List Segment} :
    IsPath (.span s e :: ss) ↔ IsPath ss := by
  simp [IsPath]

theorem isPath_append {ss ts : List Segment} : IsPath (ss ++ ts) ↔ IsPath ss ∧ IsPath ts := by
  simp only [IsPath, List.mem_append]
  exact ⟨fun h => ⟨fun t ht => h t (Or.inl ht), fun t ht => h t (Or.inr ht)⟩,
    fun h t ht => ht.elim (h.1 t) (h.2 t)⟩

/-- Segments are divided at a question mark, or nowhere if there is none. -/
theorem divide_cases (ss : List Segment) :
    (IsPath ss ∧ divide ss = (ss, [])) ∨
      ∃ p t us, divide ss = (p, .literal ('?' :: t) :: us) ∧ IsPath p := by
  induction ss with
  | nil => exact Or.inl ⟨isPath_nil, rfl⟩
  | cons s ss ih =>
      cases s with
      | span s e =>
          rcases ih with ⟨hpath, hdivide⟩ | ⟨p, t, us, hdivide, hpath⟩
          · exact Or.inl ⟨isPath_span.mpr hpath, by rw [divide, hdivide]⟩
          · exact Or.inr ⟨_, t, us, by rw [divide, hdivide], isPath_span.mpr hpath⟩
      | literal t =>
          by_cases hmark : '?' ∈ t
          · obtain ⟨p, q, rfl, hp⟩ := List.eq_append_cons_of_mem hmark
            exact Or.inr ⟨_, q, ss, divide_mark hp q ss, isPath_literal.mpr ⟨hp, isPath_nil⟩⟩
          · rcases ih with ⟨hpath, hdivide⟩ | ⟨p, u, us, hdivide, hpath⟩
            · exact Or.inl ⟨isPath_literal.mpr ⟨hmark, hpath⟩, by rw [divide_literal hmark, hdivide]⟩
            · exact Or.inr ⟨_, u, us, by rw [divide_literal hmark, hdivide],
                isPath_literal.mpr ⟨hmark, hpath⟩⟩

/-- What stands behind a path is divided on its own. -/
theorem divide_append_of_isPath {ss : List Segment} (h : IsPath ss) (ts : List Segment) :
    divide (ss ++ ts) = (ss ++ (divide ts).1, (divide ts).2) := by
  induction ss with
  | nil => rfl
  | cons s ss ih =>
      cases s with
      | span s e => rw [List.cons_append, divide, ih (isPath_span.mp h), List.cons_append]
      | literal t =>
          obtain ⟨ht, hss⟩ := isPath_literal.mp h
          rw [List.cons_append, divide_literal ht, ih hss, List.cons_append]

/-- What stands behind a question mark belongs to the query string. -/
theorem divide_append_of_mark {ss ts : List Segment} (h : (divide ss).2 ≠ []) :
    divide (ss ++ ts) = ((divide ss).1, (divide ss).2 ++ ts) := by
  induction ss with
  | nil => exact absurd rfl h
  | cons s ss ih =>
      cases s with
      | span s e =>
          rw [List.cons_append, divide, ih h]
          rfl
      | literal t =>
          by_cases hmark : '?' ∈ t
          · obtain ⟨p, q, rfl, hp⟩ := List.eq_append_cons_of_mem hmark
            rw [List.cons_append, divide_mark hp, divide_mark hp, List.cons_append]
          · rw [divide_literal hmark] at h
            rw [List.cons_append, divide_literal hmark, divide_literal hmark, ih h]

theorem textOf_divide (ss : List Segment) :
    textOf (divide ss).1 ++ textOf (divide ss).2 = textOf ss := by
  induction ss with
  | nil => rfl
  | cons s ss ih =>
      cases s with
      | span s e => rw [divide, textOf_cons, List.append_assoc, ih, textOf_cons]
      | literal t =>
          by_cases hmark : '?' ∈ t
          · obtain ⟨p, q, rfl, hp⟩ := List.eq_append_cons_of_mem hmark
            rw [divide_mark hp]
            simp [text]
          · rw [divide_literal hmark, textOf_cons, List.append_assoc, ih, textOf_cons]

theorem isLiteral_split {k : Codec} {p q : Text} (h : IsLiteral k (p ++ '?' :: q)) :
    IsLiteral k p ∧ IsLiteral k ('?' :: q) := by
  obtain ⟨hbrace, hstray, hencodes⟩ := h
  obtain ⟨hp, hq⟩ := Percent.hasStray_split (by decide) hstray
  obtain ⟨hep, heq⟩ := Codec.encodes_append.mp hencodes
  simp only [List.mem_append, not_or] at hbrace
  exact ⟨⟨hbrace.1, hp, hep⟩, ⟨hbrace.2, hq, heq⟩⟩

theorem isSound_divide {k : Codec} {ss : List Segment} (h : ∀ s ∈ ss, s.IsSound k) :
    (∀ s ∈ (divide ss).1, s.IsSound k) ∧ ∀ s ∈ (divide ss).2, s.IsSound k := by
  induction ss with
  | nil => exact ⟨h, h⟩
  | cons s ss ih =>
      obtain ⟨hs, hss⟩ := List.forall_mem_cons.mp h
      obtain ⟨hpath, hquery⟩ := ih hss
      cases s with
      | span s e => exact ⟨List.forall_mem_cons.mpr ⟨hs, hpath⟩, hquery⟩
      | literal t =>
          by_cases hmark : '?' ∈ t
          · obtain ⟨p, q, rfl, hp⟩ := List.eq_append_cons_of_mem hmark
            obtain ⟨hleft, hright⟩ := isLiteral_split hs
            rw [divide_mark hp]
            exact ⟨List.forall_mem_singleton.mpr hleft, List.forall_mem_cons.mpr ⟨hright, hss⟩⟩
          · rw [divide_literal hmark]
            exact ⟨List.forall_mem_cons.mpr ⟨hs, hpath⟩, hquery⟩

end Segment

/-! ### Finding the division -/

namespace UriTemplate

open Segment (IsLiteral textOf divide assemble)
open Token (scan flush)

variable {k : Codec}

/-- Literal text without a question mark is passed over. -/
theorem findDelimiter_flush {read : Text} (hread : IsLiteral k read) (hmark : '?' ∉ read)
    (offset : Nat) (ts : List Text) :
    findDelimiter offset (flush read.reverse ++ ts) = findDelimiter (offset + read.length) ts := by
  by_cases hr : read = []
  · rw [hr]
    rfl
  · rw [flush, if_neg (by simpa using hr), List.reverse_reverse, List.singleton_append,
      findDelimiter, hread.parse_eq, bind_ok, if_pos (by simp [hmark])]

/-- The division is at the first question mark of literal text that holds one. -/
theorem findDelimiter_flush_mark {read : Text} (hread : IsLiteral k read) (hmark : '?' ∈ read)
    (offset : Nat) (ts : List Text) :
    findDelimiter offset (flush read.reverse ++ ts) = .ok (some (offset + read.idxOf '?')) := by
  have hr : read ≠ [] := List.ne_nil_of_mem hmark
  rw [flush, if_neg (by simpa using hr), List.reverse_reverse, List.singleton_append,
    findDelimiter, hread.parse_eq, bind_ok, if_neg (by simp [hmark])]

/-- What follows a question mark does not matter. -/
theorem findDelimiter_scan_mark {ss : List Segment} (hss : ∀ s ∈ ss, s.IsSound k) {read : Text}
    (hread : IsLiteral k read) (hmark : '?' ∈ read) (offset : Nat) :
    findDelimiter offset (scan .outside read.reverse (textOf ss))
      = .ok (some (offset + read.idxOf '?')) := by
  induction ss generalizing read with
  | nil =>
      have := findDelimiter_flush_mark hread hmark offset []
      rwa [List.append_nil] at this
  | cons s ss ih =>
      obtain ⟨hs, hrest⟩ := List.forall_mem_cons.mp hss
      cases s with
      | literal t =>
          have hboth := ih hrest (hread.append hs) (List.mem_append_left t hmark)
          rw [List.idxOf_append, if_pos hmark] at hboth
          rw [Segment.textOf_cons, Segment.text, Token.scan_literal hs.no_brace,
            ← List.reverse_append, hboth]
      | span s e =>
          rw [Segment.textOf_cons, Segment.text, Token.scan_span hs.1]
          exact findDelimiter_flush_mark hread hmark offset _

/-- The division lies in front of the first question mark outside spans. -/
theorem findDelimiter_scan {ss : List Segment} (hss : ∀ s ∈ ss, s.IsSound k) {read : Text}
    (hread : IsLiteral k read) (hmark : '?' ∉ read) (offset : Nat) :
    findDelimiter offset (scan .outside read.reverse (textOf ss))
      = .ok (if (divide ss).2 = [] then none
          else some (offset + read.length + (textOf (divide ss).1).length)) := by
  induction ss generalizing read offset with
  | nil =>
      have := findDelimiter_flush hread hmark offset []
      rw [List.append_nil] at this
      exact this
  | cons s ss ih =>
      obtain ⟨hs, hrest⟩ := List.forall_mem_cons.mp hss
      cases s with
      | span s e =>
          -- The literal text ends here, and so does its share of the offset.
          obtain ⟨hspan, hparse, -⟩ := hs
          have htail := ih hrest (Segment.isLiteral_nil k) (by simp)
            (offset + read.length + s.length)
          rw [Segment.textOf_cons, Segment.text, Token.scan_span hspan,
            findDelimiter_flush hread hmark, findDelimiter, hparse, bind_ok,
            if_pos (by simp)]
          simp only [List.reverse_nil, List.length_nil, Nat.add_zero] at htail
          rw [htail, divide, Segment.textOf_cons, Segment.text, List.length_append]
          simp only [Nat.add_assoc]
      | literal t =>
          rw [Segment.textOf_cons, Segment.text, Token.scan_literal hs.no_brace,
            ← List.reverse_append]
          by_cases ht : '?' ∈ t
          · -- The token may go on behind `t`, but it is divided within it.
            obtain ⟨p, q, rfl, hp⟩ := List.eq_append_cons_of_mem ht
            have hnot : '?' ∉ read ++ p := by simp [hmark, hp]
            have hindex : (read ++ (p ++ '?' :: q)).idxOf '?' = read.length + p.length := by
              rw [← List.append_assoc, List.idxOf_append, if_neg hnot, List.idxOf_cons_self,
                List.length_append, Nat.zero_add]
            rw [findDelimiter_scan_mark hrest (hread.append hs) (by simp), hindex,
              Segment.divide_mark hp, if_neg (by simp)]
            simp [Segment.text, Nat.add_assoc]
          · rw [ih hrest (hread.append hs) (by simp [hmark, ht]), Segment.divide_literal ht,
              Segment.textOf_cons, Segment.text, List.length_append, List.length_append]
            simp only [Nat.add_assoc]

/-- **A list of segments is divided in front of the first question mark in a literal.** -/
theorem queryDelimiter?_textOf {ss : List Segment} (hss : ∀ s ∈ ss, s.IsSound k) :
    queryDelimiter? (textOf ss)
      = .ok (if (divide ss).2 = [] then none else some (textOf (divide ss).1).length) := by
  have hfind := findDelimiter_scan hss (Segment.isLiteral_nil k) (by simp) 0
  rwa [List.reverse_nil, List.length_nil, Nat.zero_add] at hfind

/-! ### Parsing divided segments -/

open Percent (escaped isPathSafe isQuerySafe)

/-- The chunks of a list of segments, encoded as a path and as a query string. -/
def chunksOf (k : Codec) (ss : List Segment) : List Chunk :=
  assemble (escaped isPathSafe k) [] (divide ss).1
    ++ assemble (escaped isQuerySafe k) [] (divide ss).2

theorem assemble_nil (enc : Text → Text) (h : enc [] = []) : assemble enc [] [] = [] := by
  rw [assemble, h]
  rfl

section AsciiCompatible

variable {c : Charset} (hc : c.codec = .ok k) (hk : k.IsAsciiCompatible)

include hc hk

/-- A literal is encoded, whether it looks encoded or not. -/
theorem encodeUnlessEncoded_literal (safe : Char → Bool) {t : Text} (ht : IsLiteral k t) :
    Percent.encodeUnlessEncoded safe c t = .ok (escaped safe k t) :=
  Percent.encodeUnlessEncoded_eq_ok hc hk ht.encodes (Or.inl ht.no_stray)

theorem parseChunks_textOf {ss : List Segment} (hss : ∀ s ∈ ss, s.IsSound k) :
    parseChunks c (textOf ss) = .ok (chunksOf k ss) := by
  have hpath : ∀ {us : List Segment}, (∀ s ∈ us, s.IsSound k) →
      Template.parseFragment (Percent.pathEncode c) (textOf us)
        = .ok (assemble (escaped isPathSafe k) [] us) :=
    Segment.parseFragment_textOf (fun t ht => encodeUnlessEncoded_literal hc hk isPathSafe ht) rfl
  have hquery : ∀ {us : List Segment}, (∀ s ∈ us, s.IsSound k) →
      Template.parseFragment (Percent.queryEncode c) (textOf us)
        = .ok (assemble (escaped isQuerySafe k) [] us) :=
    Segment.parseFragment_textOf (fun t ht => encodeUnlessEncoded_literal hc hk isQuerySafe ht) rfl
  have hfind := queryDelimiter?_textOf hss
  obtain ⟨hleft, hright⟩ := Segment.isSound_divide hss
  have htext := Segment.textOf_divide ss
  rw [parseChunks, chunksOf]
  rcases Segment.divide_cases ss with ⟨-, hdivide⟩ | ⟨p, t, us, hdivide, -⟩
  · rw [hdivide, if_pos rfl] at hfind
    rw [hfind, hdivide, assemble_nil _ rfl, List.append_nil]
    exact hpath hss
  · rw [hdivide] at hleft hright htext hfind
    have htake : (textOf ss).take (textOf p).length = textOf p := by
      rw [← htext]
      exact List.take_left
    have hdrop : (textOf ss).drop (textOf p).length = textOf (.literal ('?' :: t) :: us) := by
      rw [← htext]
      exact List.drop_left
    rw [if_neg (by simp)] at hfind
    rw [hfind, hdivide, bind_ok]
    simp only [htake, hdrop, hpath hleft, hquery hright, bind_ok]

/-- **Parsing a list of segments encodes what stands in front of the first question mark as a path
and the rest as a query string.** -/
theorem create_textOf {ss : List Segment} (hss : ∀ s ∈ ss, s.IsSound k) (encodeSlash : Bool) :
    create (textOf ss) c encodeSlash
      = .ok ⟨⟨textOf ss, ⟨true, true, encodeSlash, c⟩, chunksOf k ss⟩⟩ := by
  have hsettings : settings c encodeSlash = ⟨true, true, encodeSlash, c⟩ := by
    rw [settings, Template.Settings.normalize, Charset.orUtf8_eq_self hc]
  simp only [create, hsettings, parseChunks_textOf hc hk hss, bind_ok]

end AsciiCompatible

end UriTemplate

end HttpTemplates
