import HttpTemplates.Proofs.Success
import HttpTemplates.Proofs.Template.ExpressionText

/-!
# Normal forms of expressions

Reading a token skips the blanks around the name, those at the end and a colon with nothing behind
it; `Expression.text` writes what is left. The text of an expression is therefore its token with some
characters left out (`text_sublist`), and it is the token itself exactly if there was nothing to skip
(`text_eq_token_iff`).

**Reading the text gives the expression again, with one exception.** A blank between the brace and an
operator keeps the two apart, so that the operator begins the name (`hidesOperator`). The text does
without the blank, and the operator is taken for one when it is read (`parse_text_iff`). This happens
at most once: what is read from a text can be written and read for good.
-/

namespace HttpTemplates

namespace Expression

/-! ### Tokens in normal form -/

/-- What stands between the braces of a token, behind an operator if there is one. -/
def nameAndPattern (token : Text) : Text :=
  (takeModifier token.tail.dropLast).2

/-- Reading the token skips nothing. -/
structure IsTight (token : Text) : Prop where
  /-- There are no blanks in front of the name or at the end. -/
  ends : Text.trim (nameAndPattern token) = nameAndPattern token
  /-- There are no blanks behind the name. -/
  name : Text.trim (Text.cut ':' (nameAndPattern token)).1
    = (Text.cut ':' (nameAndPattern token)).1
  /-- A colon has something behind it. -/
  colon : (Text.cut ':' (nameAndPattern token)).2 ≠ some []

theorem takeModifier_append (t : Text) : (takeModifier t).1 ++ (takeModifier t).2 = t := by
  cases t with
  | nil => rfl
  | cons c rest =>
      rw [takeModifier]
      split <;> rfl

theorem nameAndPattern_braces (body : Text) :
    nameAndPattern (Token.openBrace :: body ++ [Token.closeBrace]) = (takeModifier body).2 := by
  rw [nameAndPattern, List.cons_append, List.tail_cons, List.dropLast_concat]

/-- The token and the text differ in the name and the pattern at most. -/
theorem token_eq {token : Text} {e : Expression} (h : parse token = .ok (some e)) :
    token = Token.openBrace :: (e.modifier ++ nameAndPattern token) ++ [Token.closeBrace] := by
  obtain ⟨body, rfl, hbody⟩ := parse_eq_ok_some h
  obtain ⟨hmodifier, -, -, -⟩ := parseBody_eq_ok_some hbody
  rw [nameAndPattern_braces, hmodifier, takeModifier_append]

/-- The name is what is left of the text in front of the colon, and the pattern stands behind it. -/
theorem name_and_pattern {token : Text} {e : Expression} (h : parse token = .ok (some e)) :
    e.name = Text.trim (Text.cut ':' (Text.trim (nameAndPattern token))).1 ∧
      e.pattern.map (·.text) = (Text.cut ':' (Text.trim (nameAndPattern token))).2.bind
        fun p => if p = [] then none else some p := by
  obtain ⟨body, rfl, hbody⟩ := parse_eq_ok_some h
  obtain ⟨-, hname, -, hpattern⟩ := parseBody_eq_ok_some hbody
  rw [nameAndPattern_braces]
  exact ⟨hname, hpattern⟩

theorem patternText_eq {e : Expression} {p : Option Text}
    (h : e.pattern.map (·.text) = p.bind fun p => if p = [] then none else some p) :
    e.patternText = p.getD [] := by
  rw [patternText, h]
  cases p with
  | none => rfl
  | some p => by_cases hp : p = [] <;> simp [hp]

theorem inner_sublist {token : Text} {e : Expression} (h : parse token = .ok (some e)) :
    e.inner.Sublist (nameAndPattern token) := by
  obtain ⟨hname, hpattern⟩ := name_and_pattern h
  refine List.Sublist.trans ?_ (Text.trim_sublist _)
  conv => rhs; rw [Text.cut_eq ':' (Text.trim _)]
  rw [inner, hname, patternText_eq hpattern]
  refine (Text.trim_sublist _).append ?_
  cases (Text.cut ':' (Text.trim (nameAndPattern token))).2 with
  | none => simp
  | some p => by_cases hp : p = [] <;> simp [hp]

/-- **The text of an expression is its token with some characters left out.** -/
theorem text_sublist {token : Text} {e : Expression} (h : parse token = .ok (some e)) :
    e.text.Sublist token := by
  rw [token_eq h, text_eq]
  exact (((List.Sublist.refl _).append (inner_sublist h)).cons_cons _).append (List.Sublist.refl _)

theorem text_eq_token_iff_inner {token : Text} {e : Expression} (h : parse token = .ok (some e)) :
    e.text = token ↔ e.inner = nameAndPattern token := by
  conv => lhs; rhs; rw [token_eq h]
  rw [text_eq]
  simp

/-- **The text of an expression is its token exactly if reading the token skips nothing.** -/
theorem text_eq_token_iff {token : Text} {e : Expression} (h : parse token = .ok (some e)) :
    e.text = token ↔ IsTight token := by
  rw [text_eq_token_iff_inner h]
  have hdelimited := isDelimited_of_parse h
  constructor
  · intro hinner
    refine ⟨?_, ?_, ?_⟩
    · rw [← hinner, trim_inner hdelimited]
    · rw [← hinner, cut_inner hdelimited, hdelimited.name_trim]
    · rw [← hinner, cut_inner hdelimited]
      by_cases hp : e.patternText = []
      · simp [hp]
      · simp [hp]
  · rintro ⟨hends, hblank, hcolon⟩
    obtain ⟨hname, hpattern⟩ := name_and_pattern h
    rw [hends] at hname hpattern
    rw [hblank] at hname
    rw [Text.cut_eq ':' (nameAndPattern token), inner, hname, patternText_eq hpattern]
    congr 1
    cases hcut : (Text.cut ':' (nameAndPattern token)).2 with
    | none => rfl
    | some p =>
        have hp : p ≠ [] := fun hp => hcolon (by rw [hcut, hp])
        simp [hp]

/-! ### Operators in names -/

/-- Blanks stand between the opening brace of the token and an operator. -/
def hidesOperator (token : Text) : Bool :=
  token.tail.head?.any Text.isBlank && (token.tail.dropWhile Text.isBlank).head?.any isModifier

theorem isBlank_of_isModifier {c : Char} (h : isModifier c = true) : Text.isBlank c = false := by
  simp only [isModifier, Bool.or_eq_true, decide_eq_true_eq] at h
  rcases h with (((((rfl | rfl) | rfl) | rfl) | rfl) | rfl) | rfl <;> decide

/-- The name of the expression begins with an operator, and none stands in front of it. -/
theorem hidesOperator_eq {token : Text} {e : Expression} (h : parse token = .ok (some e)) :
    hidesOperator token = (e.modifier.isEmpty && e.name.head?.any isModifier) := by
  obtain ⟨body, rfl, hbody⟩ := parse_eq_ok_some h
  have hhead := head?_name hbody
  obtain ⟨d, name, hname⟩ := List.exists_cons_of_ne_nil e.name_ne_nil
  rw [hidesOperator, List.cons_append, List.tail_cons, hname, List.head?_cons]
  rw [hname, List.head?_cons] at hhead
  rcases modifier_of_parseBody hbody with ⟨hnil, htake⟩ | ⟨m, hm, hop, hfirst⟩
  · rw [htake] at hhead
    obtain ⟨c, rest, rfl⟩ := List.exists_cons_of_ne_nil (l := body) (by rintro rfl; simp at hhead)
    rw [hnil, List.isEmpty_nil, Bool.true_and, List.cons_append, List.head?_cons, Option.any_some,
      Option.any_some]
    by_cases hblank : Text.isBlank c = true
    · -- Behind the blanks the name begins.
      obtain ⟨more, hdrop⟩ := List.head?_eq_some_iff.mp hhead.symm
      rw [hblank, Bool.true_and, ← List.cons_append, List.dropWhile_append, hdrop]
      rfl
    · rw [List.dropWhile_cons_of_neg hblank, List.head?_cons] at hhead
      obtain rfl : d = c := Option.some.inj hhead
      have hop : isModifier d = false := by
        rw [takeModifier] at htake
        by_contra hop
        rw [if_pos (by simpa using hop)] at htake
        exact absurd (Prod.mk.inj htake).1 (by simp)
      rw [hop, Bool.eq_false_iff.mpr hblank, Bool.false_and]
  · obtain ⟨rest, rfl⟩ := List.head?_eq_some_iff.mp hfirst
    rw [hm, List.cons_append, List.head?_cons, Option.any_some, isBlank_of_isModifier hop]
    rfl

theorem isReadable_iff_hidesOperator {token : Text} {e : Expression}
    (h : parse token = .ok (some e)) : e.IsReadable ↔ hidesOperator token = false := by
  obtain ⟨d, name, hname⟩ := List.exists_cons_of_ne_nil e.name_ne_nil
  rw [isReadable_iff_of_parse h, hidesOperator_eq h, hname]
  cases e.modifier <;> simp

/-- The text of an expression has no blank behind its brace. -/
theorem hidesOperator_text {token : Text} {e : Expression} (h : parse token = .ok (some e)) :
    hidesOperator e.text = false := by
  obtain ⟨d, name, hname⟩ := List.exists_cons_of_ne_nil e.name_ne_nil
  have hd : Text.isBlank d = false :=
    (Text.trim_eq_self_iff.mp (isDelimited_of_parse h).name_trim).1 d (by rw [hname]; rfl)
  obtain ⟨body, -, hbody⟩ := parse_eq_ok_some h
  rw [hidesOperator, text]
  rcases modifier_of_parseBody hbody with ⟨hm, -⟩ | ⟨m, hm, hop, -⟩
  · simp [hm, hname, hd]
  · simp [hm, isBlank_of_isModifier hop]

/-! ### Reading a text again -/

/-- **Reading the text of an expression gives the expression again, unless its token hides an
operator.** If reading the text gives an expression at all, reading the text of that one gives it
again. -/
theorem parse_text_iff {token : Text} {e : Expression} (h : parse token = .ok (some e)) :
    (parse e.text = .ok (some e) ↔ hidesOperator token = false) ∧
      ∀ e', parse e.text = .ok (some e') → parse e'.text = .ok (some e') := by
  refine ⟨⟨fun hself => ?_, fun hplain => parse_text ((isReadable_iff_hidesOperator h).mpr hplain)⟩,
    fun e' he' => parse_text ((isReadable_iff_hidesOperator he').mpr (hidesOperator_text h))⟩
  -- Its own text hides nothing, so that the expression is readable.
  exact (isReadable_iff_hidesOperator h).mp
    ((isReadable_iff_hidesOperator hself).mpr (hidesOperator_text h))

/-- A span with an operator, blanks around the name and braces in its pattern. -/
def yearSpan : Text :=
  "\x7b+ year :[0-9]\x7b4\x7d \x7d"

/-- The text of its expression does without the blanks and gives the expression again. -/
theorem parse_text_year : ∃ e, parse yearSpan = .ok (some e) ∧ hidesOperator yearSpan = false ∧
    e.text = "\x7b+year:[0-9]\x7b4\x7d\x7d" ∧ parse e.text = .ok (some e) := by
  have hrun : (parse yearSpan).toOption.any (fun parsed => parsed.any fun e =>
      e.text = "\x7b+year:[0-9]\x7b4\x7d\x7d".toList) = true := by
    decide +kernel
  obtain ⟨parsed, hparsed, hcheck⟩ := exists_ok_of_any hrun
  obtain ⟨e, rfl, htext⟩ := (Option.any_eq_true _ _).mp hcheck
  have hplain : hidesOperator yearSpan = false := by decide
  exact ⟨e, hparsed, hplain, of_decide_eq_true htext, (parse_text_iff hparsed).1.mpr hplain⟩

/-- A span with a blank between its brace and an operator. -/
def operatorSpan : Text :=
  "\x7b +a\x7d"

/-- In `{ +a}` the operator begins the name. The text of the expression is `{+a}`, where it does
not. -/
theorem not_parse_text_operator : ∃ e e', Token.tokenize operatorSpan = [operatorSpan] ∧
    parse operatorSpan = .ok (some e) ∧ e.name = "+a" ∧ e.modifier = [] ∧
    parse e.text = .ok (some e') ∧ e'.name = "a" ∧ e'.modifier = "+" ∧ e' ≠ e := by
  have hfirst : (parse operatorSpan).toOption = some (some ⟨"+a", none, [], by decide⟩) := by
    decide +kernel
  have hagain : (parse (⟨"+a", none, [], by decide⟩ : Expression).text).toOption
      = some (some ⟨"a", none, "+", by decide⟩) := by
    decide +kernel
  exact ⟨_, _, by decide, toOption_eq_some_iff.mp hfirst, rfl, rfl, toOption_eq_some_iff.mp hagain,
    rfl, rfl, by decide⟩

end Expression

end HttpTemplates
