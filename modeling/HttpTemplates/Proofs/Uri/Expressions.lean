import HttpTemplates.Proofs.Template.Recognition
import HttpTemplates.Template.Uri

/-!
# Expressions of a URI template

A URI template is cut in front of its dividing question mark, and its two parts are parsed one by
one. Where the question mark stands outside brace spans, this finds the expressions that parsing the
whole text finds. **A brace span that is no expression can be cut, too, and then expressions may come
to light in its two halves**: `expressions_create_iff`. None is lost.
-/

namespace HttpTemplates.UriTemplate

open Token (tokenize expressionsIn level openBrace)

/-! ### The token that is divided -/

/-- Whether a token is divided: it holds a question mark and is no expression. -/
def isDivided (token : Text) : Bool :=
  token.contains '?' && (Expression.ofToken? token).isNone

/-- The token that holds the dividing question mark. -/
def dividedToken? (t : Text) : Option Text :=
  (tokenize t).find? isDivided

/-- The expressions that come to light in the two halves of the divided token. -/
def strayExpressions (t : Text) : List Expression :=
  match dividedToken? t with
  | none => []
  | some s => expressionsIn (Text.cut '?' s).1 ++ expressionsIn ('?' :: (Text.cut '?' s).2.getD [])

theorem findDelimiter_cons {offset : Nat} {token : Text} {tokens : List Text} {i : Option Nat}
    (h : findDelimiter offset (token :: tokens) = .ok i) :
    if isDivided token then i = some (offset + token.idxOf '?')
    else findDelimiter (offset + token.length) tokens = .ok i := by
  obtain ⟨parsed, hparsed, h⟩ := bind_eq_ok_iff.mp h
  rw [isDivided, Expression.ofToken?_of_parse hparsed]
  cases parsed with
  | some e => simpa using h
  | none =>
      by_cases hmark : '?' ∈ token
      · simpa [hmark, eq_comm] using h
      · simpa [hmark] using h

/-- Without a division no token is divided. -/
theorem find?_of_findDelimiter_none {offset : Nat} {tokens : List Text}
    (h : findDelimiter offset tokens = .ok none) : tokens.find? isDivided = none := by
  induction tokens generalizing offset with
  | nil => rfl
  | cons token tokens ih =>
      have hcons := findDelimiter_cons h
      split at hcons
      · exact absurd hcons (by simp)
      · next hdivided => rw [List.find?_cons_of_neg hdivided, ih hcons]

/-- The division lies in front of the first question mark of the divided token. -/
theorem exists_of_findDelimiter {offset i : Nat} {tokens : List Text}
    (h : findDelimiter offset tokens = .ok (some i)) : ∃ before p q after, '?' ∉ p ∧
      tokens = before ++ (p ++ '?' :: q) :: after ∧
      tokens.find? isDivided = some (p ++ '?' :: q) ∧
      i = offset + (before.flatten ++ p).length := by
  induction tokens generalizing offset with
  | nil => exact absurd h (by simp [findDelimiter])
  | cons token tokens ih =>
      have hcons := findDelimiter_cons h
      split at hcons
      · next hdivided =>
          have hmark : '?' ∈ token := by
            simp only [isDivided, Bool.and_eq_true, List.contains_iff_mem] at hdivided
            exact hdivided.1
          obtain ⟨p, q, rfl, hp⟩ := List.eq_append_cons_of_mem hmark
          refine ⟨[], p, q, tokens, hp, rfl, List.find?_cons_of_pos hdivided, ?_⟩
          rw [Option.some.inj hcons, List.idxOf_append, if_neg hp, List.idxOf_cons_self]
          simp
      · next hdivided =>
          obtain ⟨before, p, q, after, hp, rfl, hfind, rfl⟩ := ih hcons
          refine ⟨token :: before, p, q, after, hp, rfl, ?_, ?_⟩
          · rw [List.find?_cons_of_neg hdivided, hfind]
          · simp [Nat.add_assoc]

/-- A URI template is cut inside its divided token. -/
theorem exists_of_queryDelimiter {t : Text} {i : Nat} (h : queryDelimiter? t = .ok (some i)) :
    ∃ before p q after, '?' ∉ p ∧ tokenize t = before ++ (p ++ '?' :: q) :: after ∧
      dividedToken? t = some (p ++ '?' :: q) ∧
      t.take i = before.flatten ++ p ∧ t.drop i = '?' :: q ++ after.flatten := by
  obtain ⟨before, p, q, after, hp, htokens, hfind, rfl⟩ := exists_of_findDelimiter h
  have htext : t = (before.flatten ++ p) ++ ('?' :: q ++ after.flatten) := by
    rw [← Token.flatten_tokenize t, htokens]
    simp
  refine ⟨before, p, q, after, hp, htokens, hfind, ?_, ?_⟩
  · rw [Nat.zero_add, htext, List.take_left]
  · rw [Nat.zero_add, htext, List.drop_left]

theorem ofToken?_of_divided {t token : Text} (h : dividedToken? t = some token) :
    Expression.ofToken? token = none := by
  have hdivided := List.find?_some h
  simp only [isDivided, Bool.and_eq_true, Option.isNone_iff_eq_none] at hdivided
  exact hdivided.2

/-- What comes to light if the divided token is cut in front of its first question mark. -/
theorem strayExpressions_of_divided {t p q : Text} (hp : '?' ∉ p)
    (h : dividedToken? t = some (p ++ '?' :: q)) :
    strayExpressions t = expressionsIn p ++ expressionsIn ('?' :: q) := by
  rw [strayExpressions, h]
  simp only [Text.cut_append hp, Option.getD_some]

/-- Nothing comes to light in a token without an opening brace. -/
theorem strayExpressions_eq_nil {t : Text}
    (h : ∀ token, dividedToken? t = some token → openBrace ∉ token) : strayExpressions t = [] := by
  cases hdivided : dividedToken? t with
  | none => rw [strayExpressions, hdivided]
  | some token =>
      have hmark := List.find?_some hdivided
      simp only [isDivided, Bool.and_eq_true, List.contains_iff_mem] at hmark
      obtain ⟨p, q, rfl, hp⟩ := List.eq_append_cons_of_mem hmark.1
      have hbrace := h _ hdivided
      rw [strayExpressions_of_divided hp hdivided,
        Token.expressionsIn_literal fun hmem => hbrace (List.mem_append_left _ hmem),
        Token.expressionsIn_literal fun hmem => hbrace (List.mem_append_right _ hmem),
        List.append_nil]

/-! ### The two parts -/

variable {source : Text} {c : Charset} {encodeSlash : Bool} {u : UriTemplate}

/-- A URI template that is created holds the expressions of its two parts. -/
theorem expressions_create (h : create source c encodeSlash = .ok u) :
    (queryDelimiter? source = .ok none ∧ u.base.expressions = expressionsIn source) ∨
      ∃ i, queryDelimiter? source = .ok (some i) ∧
        u.base.expressions = expressionsIn (source.take i) ++ expressionsIn (source.drop i) := by
  obtain ⟨chunks, hchunks, h⟩ := bind_eq_ok_iff.mp h
  obtain ⟨delimiter, hdelimiter, hchunks⟩ := bind_eq_ok_iff.mp hchunks
  have hexpressions : u.base.expressions = chunks.filterMap Chunk.expression? := by
    rw [← Except.ok.inj h]
    rfl
  cases delimiter with
  | none =>
      exact Or.inl ⟨hdelimiter, hexpressions.trans (Template.expressions_parseFragment hchunks)⟩
  | some i =>
      obtain ⟨path, hpath, hchunks⟩ := bind_eq_ok_iff.mp hchunks
      obtain ⟨query, hquery, hchunks⟩ := bind_eq_ok_iff.mp hchunks
      refine Or.inr ⟨i, hdelimiter, ?_⟩
      rw [hexpressions, ← Except.ok.inj hchunks, List.filterMap_append,
        Template.expressions_parseFragment hpath, Template.expressions_parseFragment hquery]

/-- The expressions in a text, and those in its two parts if it is cut inside a token. -/
theorem expressionsIn_cut {t s s' : Text} {before after : List Text}
    (h : tokenize t = before ++ (s ++ s') :: after) :
    expressionsIn t = expressionsIn before.flatten ++ expressionsIn (s ++ s')
        ++ expressionsIn after.flatten ∧
      expressionsIn (before.flatten ++ s) = expressionsIn before.flatten ++ expressionsIn s ∧
      expressionsIn (s' ++ after.flatten) = expressionsIn s' ++ expressionsIn after.flatten := by
  have htext : t = before.flatten ++ ((s ++ s') ++ after.flatten) := by
    rw [← Token.flatten_tokenize t, h]
    simp
  have hbefore : level 0 before.flatten = 0 :=
    Token.level_flatten (Token.level_of_not_last h (List.cons_ne_nil _ _))
  -- The token itself may end inside a span, but then nothing follows it.
  have htoken : after = [] ∨ level 0 (s ++ s') = 0 := by
    by_cases hafter : after = []
    · exact Or.inl hafter
    · have hsplit : tokenize t = (before ++ [s ++ s']) ++ after := by simp [h]
      exact Or.inr (Token.level_of_not_last hsplit hafter _ (by simp))
  have hpart : ∀ {x : Text}, (level 0 (s ++ s') = 0 → level 0 x = 0) →
      expressionsIn (x ++ after.flatten) = expressionsIn x ++ expressionsIn after.flatten := by
    intro x hx
    obtain rfl | hlevel := htoken
    · simp
    · exact Token.expressionsIn_append (hx hlevel) _
  refine ⟨?_, Token.expressionsIn_append hbefore s, hpart Token.level_suffix⟩
  rw [htext, Token.expressionsIn_append hbefore, hpart id, List.append_assoc]

/-- The expressions of a URI template are those in its text, and among them the stray ones. -/
theorem exists_expressions_eq (hu : create source c encodeSlash = .ok u) :
    ∃ front back, expressionsIn source = front ++ back ∧
      u.base.expressions = front ++ strayExpressions source ++ back := by
  rcases expressions_create hu with ⟨hnone, hexpressions⟩ | ⟨i, hsome, hexpressions⟩
  · have hstray : strayExpressions source = [] := by
      rw [strayExpressions, dividedToken?, find?_of_findDelimiter_none hnone]
    exact ⟨expressionsIn source, [], by simp, by simp [hexpressions, hstray]⟩
  · obtain ⟨before, p, q, after, hp, htokens, hdivided, htake, hdrop⟩ :=
      exists_of_queryDelimiter hsome
    obtain ⟨hall, hpath, hquery⟩ := expressionsIn_cut htokens
    have hnot : expressionsIn (p ++ '?' :: q) = [] := by
      have hmem : p ++ '?' :: q ∈ tokenize source := by simp [htokens]
      rw [Token.expressionsIn_token hmem, ofToken?_of_divided hdivided]
      rfl
    refine ⟨expressionsIn before.flatten, expressionsIn after.flatten, ?_, ?_⟩
    · rw [hall, hnot, List.append_nil]
    · rw [hexpressions, htake, hdrop, hpath, hquery, strayExpressions_of_divided hp hdivided]
      simp only [List.append_assoc]

/-- **The expressions of a URI template.** They are those of the base template parsed from the same
text, and among them those that come to light in the divided token. So they are the same exactly if
there are no such expressions; and there are none if the divided token, if any, is not a brace
span. -/
theorem expressions_create_iff {s : Template.Settings} {b : Template}
    (hu : create source c encodeSlash = .ok u) (hb : Template.parse source s = .ok b) :
    (∃ front back, b.expressions = front ++ back ∧
      u.base.expressions = front ++ strayExpressions source ++ back) ∧
    (u.base.expressions = b.expressions ↔ strayExpressions source = []) ∧
    ((∀ token, dividedToken? source = some token → openBrace ∉ token) →
      u.base.expressions = b.expressions) := by
  obtain ⟨front, back, hbase, huri⟩ := exists_expressions_eq hu
  have hbase : b.expressions = front ++ back := (Template.expressions_parse hb).trans hbase
  have hiff : u.base.expressions = b.expressions ↔ strayExpressions source = [] := by
    rw [hbase, huri, List.append_assoc, List.append_right_inj, List.append_left_eq_self]
  exact ⟨⟨front, back, hbase, huri⟩, hiff, fun h => hiff.mpr (strayExpressions_eq_nil h)⟩

/-- A URI whose dividing question mark stands in a brace span that is no expression; behind it there
is a question mark in a pattern. -/
def spanUri : Text :=
  "/\x7ba\x7d/\x7bfoo?\x7bbar\x7d\x7d?\x7bb:x?y\x7d"

/-- A URI with a question mark in a pattern and one that divides it. -/
def searchUri : Text :=
  "/items/\x7bid:a?b\x7d?q=\x7bq\x7d&\x7b?\x7d"

/-- The variable `bar` comes to light in the first URI, and none in the second. -/
theorem expressions_create_spanUri :
    (∃ u b front back, create spanUri = .ok u ∧ Template.parse spanUri {} = .ok b ∧
      b.expressions = front ++ back ∧
      u.base.expressions = front ++ strayExpressions spanUri ++ back ∧
      b.expressions.map (·.name) = ["a".toList, "b".toList] ∧
      u.base.expressions.map (·.name) = ["a".toList, "bar".toList, "b".toList]) ∧
    ∃ u b, create searchUri = .ok u ∧ Template.parse searchUri {} = .ok b ∧
      u.base.expressions = b.expressions ∧
      b.expressions.map (·.name) = ["id".toList, "q".toList] := by
  constructor
  · have hu : (create spanUri).toOption.any (fun u =>
        u.base.expressions.map (·.name) = ["a".toList, "bar".toList, "b".toList]) = true := by
      decide +kernel
    have hb : (Template.parse spanUri {}).toOption.any (fun b =>
        b.expressions.map (·.name) = ["a".toList, "b".toList]) = true := by
      decide +kernel
    obtain ⟨u, hu, hnames⟩ := exists_ok_of_any hu
    obtain ⟨b, hb, hnames'⟩ := exists_ok_of_any hb
    obtain ⟨⟨front, back, hparts, hstray⟩, -⟩ := expressions_create_iff hu hb
    exact ⟨u, b, front, back, hu, hb, hparts, hstray, of_decide_eq_true hnames',
      of_decide_eq_true hnames⟩
  · have hu : (create searchUri).toOption.any (fun _ => true) = true := by decide +kernel
    have hb : (Template.parse searchUri {}).toOption.any (fun b =>
        b.expressions.map (·.name) = ["id".toList, "q".toList]) = true := by
      decide +kernel
    have hdivided : (dividedToken? searchUri).all (openBrace ∉ ·) = true := by decide +kernel
    obtain ⟨u, hu, -⟩ := exists_ok_of_any hu
    obtain ⟨b, hb, hnames⟩ := exists_ok_of_any hb
    refine ⟨u, b, hu, hb, (expressions_create_iff hu hb).2.2 fun token htoken => ?_,
      of_decide_eq_true hnames⟩
    rw [htoken] at hdivided
    exact of_decide_eq_true hdivided

/-- A URI template that is a brace span holding a question mark. -/
def nestedUri : Text :=
  "/\x7bfoo?\x7bbar\x7d\x7d"

/-- A URI template need not have the expressions of the base template. -/
theorem not_expressions_create : ¬ ∀ (source : Text) (c : Charset) (u : UriTemplate) (b : Template),
    create source c = .ok u → Template.parse source ⟨false, true, true, c⟩ = .ok b →
      u.base.expressions = b.expressions := by
  intro h
  have hu : (create nestedUri .utf8).toOption.any (fun u =>
      u.base.expressions.map (·.name) = ["bar".toList]) = true := by decide +kernel
  have hb : (Template.parse nestedUri ⟨false, true, true, .utf8⟩).toOption.any
      (·.expressions.isEmpty) = true := by decide +kernel
  obtain ⟨u, hu, hnames⟩ := exists_ok_of_any hu
  obtain ⟨b, hb, hempty⟩ := exists_ok_of_any hb
  rw [h _ _ _ _ hu hb, List.isEmpty_iff.mp hempty] at hnames
  exact absurd hnames (by decide)

end HttpTemplates.UriTemplate
