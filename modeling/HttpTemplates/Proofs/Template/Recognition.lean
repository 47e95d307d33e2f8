import HttpTemplates.Proofs.Success
import HttpTemplates.Proofs.Template.Seam
import HttpTemplates.Proofs.Template.ExpressionText
import HttpTemplates.Template.Basic

/-!
# Tokens that are expressions

A token is tried as an expression: what stands behind the colon in it is compiled as a pattern
(`Expression.patternSource?`), and `Expression.reading_parse` says what the outcome of this makes of
the token.

`Token.expressionsIn` are the expressions that a text is read as holding, whatever becomes of its
literals (`Template.expressions_parse`). They are put together as texts are (`expressionsIn_append`).
-/

namespace HttpTemplates

/-! ### Patterns of tokens -/

namespace Expression

/-- The text that is compiled to tell whether the text between two braces is an expression. There is
none if it cannot be one whatever the pattern, or can be one without a pattern. -/
def bodyPattern? (body : Text) : Option Text :=
  let (name, pattern) := Text.cut ':' (Text.trim (takeModifier body).2)
  if Text.trim name = [] || (Text.trim name).contains Token.openBrace then none
  else pattern.filter (· ≠ [])

/-- The text that is compiled to tell whether a token is an expression. -/
def patternSource? (token : Text) : Option Text :=
  (stripBraces? token).bind bodyPattern?

/-- What compiling a pattern, if there is one, makes of reading a token. -/
inductive Reading : Option Text → Except Error (Option Expression) → Prop
  /-- Nothing is compiled, and nothing fails. -/
  | unpatterned {parsed : Option Expression} : Reading none (.ok parsed)
  /-- The token is an expression. -/
  | accepted {p : Text} {r : Regex} {e : Expression} (h : Regex.compile p = .ok r) :
      Reading (some p) (.ok (some e))
  /-- The pattern breaks the rules, and the token is literal text. -/
  | invalid {p : Text} (h : Regex.compile p = .error .invalid) : Reading (some p) (.ok none)
  /-- The pattern is refused for another reason, and reading the token fails. -/
  | refused {p : Text} {e : PatternError} (h : Regex.compile p = .error e) (hne : e ≠ .invalid) :
      Reading (some p) (.error (.pattern e))

/-- The pattern of the token is refused, and not because it breaks the rules. -/
def IsRefused (token : Text) (e : PatternError) : Prop :=
  ∃ p, patternSource? token = some p ∧ Regex.compile p = .error e ∧ e ≠ .invalid

/-- Compiling the text of a constraint is compiling it as a regular expression. -/
theorem regex_ofText {p : Text} (hp : p ≠ []) :
    (Pattern.ofText p).map (·.regex) = (Regex.compile p).map some := by
  rw [Pattern.ofText]
  split
  · next r hr =>
      rw [if_neg hp] at hr
      exact hr.symm
  · next e he =>
      rw [if_neg hp] at he
      rw [he]
      rfl

/-- Creating an expression fails only in its pattern. -/
theorem create_pattern {name p : Text} (modifier : Text) (hname : name ≠ []) (hp : p ≠ []) :
    (∃ r e, Regex.compile p = .ok r ∧ create name (some p) modifier = .ok e) ∨
      ∃ e, Regex.compile p = .error e ∧ create name (some p) modifier = .error (.pattern e) := by
  have hregex := regex_ofText hp
  rw [create, dif_neg hname]
  cases hcompile : Regex.compile p with
  | ok r =>
      rw [hcompile] at hregex
      obtain ⟨q, hq, -⟩ := map_eq_ok_iff.mp hregex
      exact Or.inl ⟨r, ⟨name, some q, modifier, hname⟩, rfl, by simp only [hq]⟩
  | error e =>
      rw [hcompile] at hregex
      refine Or.inr ⟨e, rfl, ?_⟩
      cases hq : Pattern.ofText p with
      | ok q => rw [hq] at hregex; exact absurd hregex (by simp [Except.map])
      | error e' =>
          rw [hq] at hregex
          obtain rfl : e' = e := by simpa [Except.map] using hregex
          simp only [hq]

theorem reading_parseBody (body : Text) : Reading (bodyPattern? body) (parseBody body) := by
  rw [parseBody, bodyPattern?]
  simp only
  generalize Text.trim (Text.cut ':' (Text.trim (takeModifier body).2)).1 = name
  generalize (Text.cut ':' (Text.trim (takeModifier body).2)).2 = pattern
  generalize (takeModifier body).1 = modifier
  by_cases hname : name = [] || name.contains Token.openBrace
  · rw [if_pos hname, if_pos hname]
    exact .unpatterned
  · rw [if_neg hname, if_neg hname]
    have hne : name ≠ [] := by
      rintro rfl
      simp at hname
    -- An empty pattern is none.
    have hpattern : (pattern.bind fun p => if p = [] then none else some p)
        = pattern.filter (· ≠ []) := by
      cases pattern with
      | none => rfl
      | some p => by_cases hp : p = [] <;> simp [hp, Option.filter]
    rw [hpattern]
    cases hfilter : pattern.filter (· ≠ []) with
    | none =>
        rw [create, dif_neg hne]
        exact .unpatterned
    | some p =>
        have hp : p ≠ [] := by simpa using (Option.filter_eq_some_iff.mp hfilter).2
        obtain ⟨r, e, hcompile, hcreate⟩ | ⟨e, hcompile, hcreate⟩ :=
          create_pattern modifier hne hp
        · rw [hcreate]
          exact .accepted hcompile
        · rw [hcreate]
          by_cases he : e = .invalid
          · subst he
            exact .invalid hcompile
          · cases e with
            | invalid => exact absurd rfl he
            | _ => exact .refused hcompile he

/-- **What becomes of a token.** If a pattern is compiled, the token is an expression exactly if that
succeeds; a pattern that is refused makes the token literal text or reading it fail. -/
theorem reading_parse (token : Text) : Reading (patternSource? token) (parse token) := by
  rw [patternSource?, parse]
  cases stripBraces? token with
  | none => exact .unpatterned
  | some body =>
      rw [Option.bind_some]
      cases body with
      | nil => exact .unpatterned
      | cons c rest => exact reading_parseBody (c :: rest)

/-- Reading a token fails in its pattern and nowhere else. -/
theorem parse_eq_error_iff {token : Text} {e : Error} :
    parse token = .error e ↔ ∃ err, IsRefused token err ∧ e = .pattern err := by
  have hreading := reading_parse token
  constructor
  · intro h
    rw [h] at hreading
    cases hsource : patternSource? token with
    | none => rw [hsource] at hreading; cases hreading
    | some p =>
        rw [hsource] at hreading
        cases hreading with
        | refused hcompile hne => exact ⟨_, ⟨p, hsource, hcompile, hne⟩, rfl⟩
  · rintro ⟨err, ⟨p, hsource, hcompile, hne⟩, rfl⟩
    rw [hsource] at hreading
    generalize parse token = parsed at hreading ⊢
    cases hreading with
    | accepted h => rw [hcompile] at h; exact absurd h (by simp)
    | invalid h => rw [hcompile] at h; exact absurd (Except.error.inj h) hne
    | refused h _ => rw [hcompile] at h; rw [Except.error.inj h]

/-- The expression that a token is, if it is one. -/
def ofToken? (token : Text) : Option Expression :=
  (parse token).toOption.join

theorem ofToken?_of_parse {token : Text} {parsed : Option Expression}
    (h : parse token = .ok parsed) : ofToken? token = parsed := by
  rw [ofToken?, h]
  rfl

theorem ofToken?_eq_some_iff {token : Text} {e : Expression} :
    ofToken? token = some e ↔ parse token = .ok (some e) := by
  rw [ofToken?]
  cases parse token with
  | error err => simp [Except.toOption]
  | ok parsed => cases parsed <;> simp [Except.toOption]

/-- A text without an opening brace is no expression. -/
theorem ofToken?_literal {t : Text} (h : Token.openBrace ∉ t) : ofToken? t = none := by
  rw [ofToken?, parse_of_head fun hhead => h (List.mem_of_head? hhead)]
  rfl

end Expression

/-! ### Expressions in a text -/

namespace Token

/-- The expressions that a text is read as holding. -/
def expressionsIn (t : Text) : List Expression :=
  (tokenize t).filterMap Expression.ofToken?

@[simp] theorem expressionsIn_nil : expressionsIn [] = [] := rfl

/-- Behind a text that ends outside spans there are the expressions of what follows. -/
theorem expressionsIn_append {s : Text} (h : level 0 s = 0) (t : Text) :
    expressionsIn (s ++ t) = expressionsIn s ++ expressionsIn t :=
  filterMap_tokenize_append (fun _ => Expression.ofToken?_literal) h t

theorem expressionsIn_literal {t : Text} (h : openBrace ∉ t) : expressionsIn t = [] := by
  rw [expressionsIn, tokenize_literal h]
  exact filterMap_flush (fun _ => Expression.ofToken?_literal) (by simpa using h)

/-- A token holds the expression that it is, and no other. -/
theorem expressionsIn_token {t token : Text} (h : token ∈ tokenize t) :
    expressionsIn token = (Expression.ofToken? token).toList := by
  rw [expressionsIn, tokenize_token h, List.filterMap_cons]
  cases Expression.ofToken? token <;> rfl

end Token

namespace Template

variable {encodeLiteral : Text → Except Error Text} {tokens : List Text} {cs : List Chunk}

/-- The expressions among the chunks are those of the tokens, however literals are encoded. -/
theorem expressions_chunksOfTokens (h : chunksOfTokens encodeLiteral tokens = .ok cs) :
    cs.filterMap Chunk.expression? = tokens.filterMap Expression.ofToken? := by
  induction tokens generalizing cs with
  | nil =>
      rw [← Except.ok.inj h]
      rfl
  | cons token tokens ih =>
      obtain ⟨head, hhead, h⟩ := bind_eq_ok_iff.mp h
      obtain ⟨tail, htail, h⟩ := bind_eq_ok_iff.mp h
      obtain ⟨parsed, hparsed, hhead⟩ := bind_eq_ok_iff.mp hhead
      have hfirst : head.filterMap Chunk.expression? = parsed.toList := by
        cases parsed with
        | some e =>
            rw [← Except.ok.inj hhead]
            rfl
        | none =>
            obtain ⟨w, -, hhead⟩ := bind_eq_ok_iff.mp hhead
            rw [← Except.ok.inj hhead, Chunk.literal?]
            split <;> rfl
      rw [← Except.ok.inj h, List.filterMap_append, hfirst, ih htail, List.filterMap_cons,
        Expression.ofToken?_of_parse hparsed]
      cases parsed <;> rfl

theorem expressions_parseFragment {source : Text} (h : parseFragment encodeLiteral source = .ok cs) :
    cs.filterMap Chunk.expression? = Token.expressionsIn source :=
  expressions_chunksOfTokens h

/-- The expressions of a template are those in its text. -/
theorem expressions_parse {source : Text} {s : Settings} {t : Template}
    (h : parse source s = .ok t) : t.expressions = Token.expressionsIn source := by
  obtain ⟨chunks, hchunks, h⟩ := bind_eq_ok_iff.mp h
  rw [← Except.ok.inj h]
  exact expressions_parseFragment hchunks

end Template

end HttpTemplates
