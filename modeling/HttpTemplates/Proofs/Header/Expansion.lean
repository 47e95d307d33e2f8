import HttpTemplates.Proofs.Template.Body
import HttpTemplates.Proofs.Template.Rejection
import HttpTemplates.Template.Header
import Mathlib.Data.List.DropRight
import Mathlib.Data.List.Induction

/-!
# Headers with their values filled in

A header is expanded as one text: its tokens one after the other, with the bound texts in the place of
the expressions and nothing where there is none. Then the commas at the end are dropped, and every
other comma gets a space (`HeaderTemplate.expand_eq`).

The text of the tokens is put together as the header is: at a place outside spans
(`BodyTemplate.tokensText_append`), and in front of text without braces even inside one
(`BodyTemplate.exists_tokensText_append`).
-/

namespace HttpTemplates

open BodyTemplate (Binds boundText tokenText tokensText)
open Template (decodeSlashes IsChunkOf Contributions expandChunk assembled)
open Token (openBrace closeBrace)
open Expression (IsPlainName placeholder named)

variable {vars : Variables} {render : Text → Text}

/-! ### Texts of tokens -/

namespace BodyTemplate

theorem tokenText_literal {token : Text} (h : Expression.parse token = .ok none) :
    tokenText render vars token = token := by
  rw [tokenText, h]

theorem flatMap_flush {lit : Text} (h : openBrace ∉ lit) :
    (Token.flush lit).flatMap (tokenText render vars) = lit.reverse := by
  rw [Token.flush]
  split
  · next hnil => simp [hnil]
  · have hnone : Expression.parse lit.reverse = .ok none :=
      Expression.parse_of_head fun hhead => h (List.mem_reverse.mp (List.mem_of_head? hhead))
    simp [tokenText_literal hnone]

theorem tokensText_literal {t : Text} (h : openBrace ∉ t) : tokensText render vars t = t := by
  rw [tokensText, Token.tokenize_literal h, flatMap_flush (by simpa using h), List.reverse_reverse]

theorem tokensText_placeholder {x : Text} (h : IsPlainName x) :
    tokensText render vars (placeholder x) = render (boundText vars x) := by
  rw [tokensText, Token.tokenize_span (Expression.isSpan_placeholder h)]
  simp [tokenText, Expression.parse_placeholder h, named]

/-- **Behind a text that ends outside spans there stands what becomes of the rest.** -/
theorem tokensText_append {s : Text} (h : Token.level 0 s = 0) (t : Text) :
    tokensText render vars (s ++ t) = tokensText render vars s ++ tokensText render vars t := by
  obtain ⟨front, left, right, back, hleft, hright, hs, ht, hst⟩ := Token.exists_seam h t
  have hboth : openBrace ∉ right ++ left := by simp [hleft, hright]
  simp only [tokensText, hs, ht, hst, List.flatMap_append, flatMap_flush hleft,
    flatMap_flush hright, flatMap_flush hboth, List.reverse_append, List.append_assoc]

theorem tokensText_cons {c : Char} (hc : c ≠ openBrace) (t : Text) :
    tokensText render vars (c :: t) = c :: tokensText render vars t := by
  have hbrace : openBrace ∉ [c] := by simpa using Ne.symm hc
  rw [← List.singleton_append, tokensText_append (Token.level_literal hbrace),
    tokensText_literal hbrace, List.singleton_append]

/-- A joined list of texts that end outside spans becomes the joined list of what becomes of them. -/
theorem tokensText_intercalate {c : Char} (hc : c ≠ openBrace) {ts : List Text}
    (h : ∀ t ∈ ts, Token.level 0 t = 0) : tokensText render vars ([c].intercalate ts)
      = [c].intercalate (ts.map (tokensText render vars)) := by
  induction ts with
  | nil => rfl
  | cons t ts ih =>
      obtain ⟨ht, hts⟩ := List.forall_mem_cons.mp h
      cases ts with
      | nil => simp
      | cons u us =>
          have hrest := ih hts
          rw [List.map_cons] at hrest
          rw [List.intercalate_cons_cons, List.append_assoc, tokensText_append ht,
            List.singleton_append, tokensText_cons hc, hrest, List.map_cons, List.map_cons,
            List.intercalate_cons_cons, List.append_assoc, List.singleton_append]

/-- **Text without braces stands behind what becomes of the text in front of it**, also if that ends
in the middle of a span, which then is no expression. -/
theorem exists_tokensText_append (s : Text) : ∃ u, ∀ t, t ≠ [] →
    openBrace ∉ t ∧ closeBrace ∉ t → tokensText render vars (s ++ t) = u ++ t := by
  obtain ⟨front, last, -, hlast⟩ := Token.exists_scan_append_plain .outside [] s
  refine ⟨front.flatMap (tokenText render vars) ++ last.reverse, fun t hne hplain => ?_⟩
  have hnone : Expression.parse (last.reverse ++ t) = .ok none := by
    refine Expression.parse_of_getLast fun hend => ?_
    rw [List.getLast?_append_of_ne_nil _ hne] at hend
    exact hplain.2 (List.mem_of_getLast? hend)
  rw [tokensText, Token.tokenize, hlast t hne hplain]
  simp [tokenText_literal hnone]

end BodyTemplate

/-! ### Joined texts and the separators at their end -/

namespace Text

theorem intercalate_concat (sep : Char) {ps : List Text} (hne : ps ≠ []) (p : Text) :
    [sep].intercalate (ps ++ [p]) = [sep].intercalate ps ++ sep :: p := by
  rw [intercalate_append sep hne (by simp), List.intercalate_singleton]

/-- Dropping the separators at the end of a joined text drops the empty texts at its end. -/
theorem dropEnd_intercalate {sep : Char} {ps : List Text} (h : ∀ p ∈ ps, sep ∉ p) :
    dropEnd (· = sep) ([sep].intercalate ps) = [sep].intercalate (ps.rdropWhile (· = [])) := by
  induction ps using List.reverseRecOn with
  | nil => rfl
  | append_singleton ps p ih =>
      rw [List.forall_mem_append, List.forall_mem_singleton] at h
      by_cases hp : p = []
      · subst hp
        rw [List.rdropWhile_concat_pos _ _ _ (by simp), ← ih h.1]
        by_cases hps : ps = []
        · rw [hps]
          rfl
        · rw [intercalate_concat sep hps]
          exact List.rdropWhile_concat_pos _ _ _ (by simp)
      · -- The last character is one of the last text, and no separator.
        obtain ⟨init, x, hlast⟩ := (List.eq_nil_or_concat p).resolve_left hp
        rw [List.concat_eq_append] at hlast
        subst hlast
        have hx : x ≠ sep := by
          rintro rfl
          exact h.2 (by simp)
        rw [List.rdropWhile_concat_neg _ _ _ (by simp)]
        have hend : ∃ front, [sep].intercalate (ps ++ [init ++ [x]]) = front ++ [x] := by
          by_cases hps : ps = []
          · exact ⟨init, by simp [hps]⟩
          · exact ⟨[sep].intercalate ps ++ sep :: init, by simp [intercalate_concat sep hps]⟩
        obtain ⟨front, hfront⟩ := hend
        rw [hfront]
        exact List.rdropWhile_concat_neg _ _ _ (by simpa using hx)

end Text

/-! ### Expansion -/

namespace HeaderTemplate

/-- The variable of an expression is nothing, or a text that the expression accepts. -/
def Fills (vars : Variables) (e : Expression) : Prop :=
  vars.get e.name = .null ∨ Binds vars e

section Raw

variable {s : Template.Settings}
variable (hkeep : s.keepUnresolved = false) (hencode : s.encode = false)
variable (hslash : s.encodeSlash = false)

include hkeep hencode hslash

/-- An expression contributes its bound text with decoded slashes, or is dropped. -/
theorem exists_expandChunk {e : Expression} (he : Fills vars e) :
    ∃ p, expandChunk s vars (.expression e) = .ok p ∧
      p.toList.flatten = decodeSlashes (boundText vars e.name) := by
  rcases he with hnull | hbinds
  · refine ⟨none, ?_, ?_⟩
    · rw [expandChunk, Template.expandExpression_null (by rw [hnull]; rfl), hkeep]
      rfl
    · simp [boundText, hnull, decodeSlashes]
  · exact ⟨_, BodyTemplate.expandChunk_of_binds hencode hslash hbinds, by simp⟩

/-- The chunks of tokens contribute what the tokens stand for. -/
theorem exists_contributions {tokens : List Text} {cs : List Chunk}
    (hchunks : List.Forall₂ IsChunkOf tokens cs)
    (hfills : ∀ e ∈ cs.filterMap Chunk.expression?, Fills vars e) :
    ∃ ps, Contributions s vars cs ps ∧
      (ps.flatMap Option.toList).flatten = tokens.flatMap (tokenText decodeSlashes vars) := by
  induction hchunks with
  | nil => exact ⟨[], .nil, rfl⟩
  | @cons token c tokens cs hchunk _ ih =>
      cases hchunk with
      | expression hparse =>
          rw [List.filterMap_cons_some (by rfl), List.forall_mem_cons] at hfills
          obtain ⟨p, hp, htext⟩ := exists_expandChunk hkeep hencode hslash hfills.1
          obtain ⟨ps, hps, hflatten⟩ := ih hfills.2
          refine ⟨p :: ps, .cons hp hps, ?_⟩
          rw [List.flatMap_cons, List.flatten_append, htext, hflatten, List.flatMap_cons, tokenText,
            hparse]
      | literal hparse hne =>
          rw [List.filterMap_cons_none (by rfl)] at hfills
          obtain ⟨ps, hps, hflatten⟩ := ih hfills
          refine ⟨some token :: ps, .cons rfl hps, ?_⟩
          simp [hflatten, BodyTemplate.tokenText_literal hparse]

end Raw

/-- The text that a header is a template of. -/
def source (name : Text) (values : List (Option Text)) : Text :=
  name ++ ' ' :: [','].intercalate (given values)

/-- A header is created if its text is parsed. -/
theorem create_eq_ok_iff {name : Text} {values : List (Option Text)} {c : Charset}
    {h : HeaderTemplate} : create name values c = .ok h ↔ name ≠ [] ∧ h.name = name ∧
      h.values = given values ∧ Template.parse (source name values) (settings c) = .ok h.base := by
  rw [create]
  split
  · next hname => simp [hname]
  · next hname =>
      simp only [bind_eq_ok_iff, Except.ok.injEq]
      constructor
      · rintro ⟨base, hbase, rfl⟩
        exact ⟨hname, rfl, rfl, hbase⟩
      · rintro ⟨-, rfl, hvalues, hbase⟩
        exact ⟨h.base, hbase, by rw [← hvalues]⟩

/-- **The expansion of a header** whose variables are nothing or texts: the text of its tokens without
the commas at its end, and with a space behind the others. -/
theorem expand_eq {name : Text} {values : List (Option Text)} {c : Charset} {h : HeaderTemplate}
    (hh : create name values c = .ok h) (hfills : ∀ e ∈ h.base.expressions, Fills vars e)
    (hne : tokensText decodeSlashes vars (source name values) ≠ []) :
    h.expand vars = .ok (some (spaceCommas
      (Text.dropEnd (· = ',') (tokensText decodeSlashes vars (source name values))))) := by
  obtain ⟨-, -, -, hparse⟩ := create_eq_ok_iff.mp hh
  obtain ⟨-, hsettings⟩ := Template.parse_fields hparse
  obtain ⟨ps, hps, hflatten⟩ := exists_contributions (s := h.base.settings) (by rw [hsettings]; rfl)
    (by rw [hsettings]; rfl) (by rw [hsettings]; rfl) (Template.isChunkOf_of_parse hparse) hfills
  have htext : (ps.flatMap Option.toList).flatten
      = tokensText decodeSlashes vars (source name values) := hflatten
  have hparts : ps.flatMap Option.toList ≠ [] := by
    intro hnil
    rw [hnil] at htext
    exact hne htext.symm
  have hbase : h.base.expand vars
      = .ok (some (tokensText decodeSlashes vars (source name values))) :=
    Template.expand_eq_ok_iff.mpr ⟨ps, hps, by simp [assembled, hparts, htext]⟩
  rw [expand, hbase]
  rfl

/-! ### Commas -/

@[simp] theorem spaceCommas_append (s t : Text) :
    spaceCommas (s ++ t) = spaceCommas s ++ spaceCommas t :=
  List.flatMap_append

theorem length_spaceCommas (t : Text) : (spaceCommas t).length = t.length + t.count ',' := by
  induction t with
  | nil => rfl
  | cons c t ih =>
      rw [spaceCommas, List.flatMap_cons, List.length_append, ← spaceCommas, ih]
      by_cases hc : c = ','
      · simp [hc]
        omega
      · simp [hc, List.count_cons_of_ne hc]
        omega

theorem spaceCommas_of_notMem {t : Text} (h : ',' ∉ t) : spaceCommas t = t := by
  induction t with
  | nil => rfl
  | cons c t ih =>
      simp only [List.mem_cons, not_or] at h
      rw [spaceCommas, List.flatMap_cons, if_neg (Ne.symm h.1)]
      exact congrArg (c :: ·) (ih h.2)

/-- The values of a list are separated by commas and spaces. -/
theorem spaceCommas_intercalate {ts : List Text} (h : ∀ t ∈ ts, ',' ∉ t) :
    spaceCommas ([','].intercalate ts) = [',', ' '].intercalate ts := by
  induction ts with
  | nil => rfl
  | cons t ts ih =>
      obtain ⟨ht, hts⟩ := List.forall_mem_cons.mp h
      cases ts with
      | nil => simpa using spaceCommas_of_notMem ht
      | cons u us =>
          rw [List.intercalate_cons_cons, List.intercalate_cons_cons, spaceCommas_append,
            spaceCommas_append, spaceCommas_of_notMem ht, ih hts]
          rfl

/-- A name, a space and texts that hold no comma: the empty texts at the end go, and there is a space
behind each comma between the others. -/
theorem spaceCommas_dropEnd {ps : List Text} (h : ∀ p ∈ ps, ',' ∉ p) (front : Text) :
    spaceCommas (Text.dropEnd (· = ',') (front ++ ' ' :: [','].intercalate ps))
      = spaceCommas front ++ ' ' :: [',', ' '].intercalate (ps.rdropWhile (· = [])) := by
  have hkept : ∀ p ∈ ps.rdropWhile (· = []), ',' ∉ p := fun p hp =>
    h p ((List.rdropWhile_prefix _ _).subset hp)
  have hspace : spaceCommas [' '] = [' '] := rfl
  rw [List.append_cons, Text.dropEnd_append (c := ' ') (by simp) (by decide),
    Text.dropEnd_intercalate h, spaceCommas_append, spaceCommas_append, hspace,
    spaceCommas_intercalate hkept, List.append_assoc, List.singleton_append]

end HeaderTemplate

end HttpTemplates
