import HttpTemplates.Proofs.Percent.Escape
import HttpTemplates.Proofs.Template.Span
import HttpTemplates.Proofs.Text.Splitting
import HttpTemplates.Template.Expression

/-!
# The text of an expression

**Parsing and writing an expression.** `Expression.text` writes an expression in a normal form: the
blanks around its name are gone, and so is a colon without a pattern behind it. Read back, the text
gives the same expression (`parse_text`), unless the name could be taken for something else
(`IsReadable`). In an expression that was parsed, name and pattern are always told apart again
(`isDelimited_of_parse`), and it is readable if no blank stood right behind the opening brace
(`isReadable_of_parse`): in `{ +a}` the plus sign belongs to the name, while in `{+a}` it is an
operator.
-/

namespace HttpTemplates

theorem Pattern.ofText_text (p : Pattern) : Pattern.ofText p.text = .ok p := by
  rw [Pattern.ofText]
  split
  · next r hr =>
      refine congrArg Except.ok (Pattern.ext ?_)
      rfl
  · next e he => rw [p.compiled] at he; exact absurd he (by simp)

theorem Pattern.text_of_ofText {t : Text} {p : Pattern} (h : Pattern.ofText t = .ok p) :
    p.text = t := by
  rw [Pattern.ofText] at h
  split at h
  · rw [← Except.ok.inj h]
  · exact absurd h (by simp)

namespace Expression

/-! ### Writing and reading back -/

/-- Name and pattern are told apart again when they are read behind the modifier. -/
structure IsDelimited (e : Expression) : Prop where
  /-- There are no blanks around the name. -/
  name_trim : Text.trim e.name = e.name
  /-- The name does not open a brace. -/
  name_no_brace : Token.openBrace ∉ e.name
  /-- The name ends before the first colon. -/
  name_no_colon : ':' ∉ e.name
  /-- A pattern is not empty and does not end with a blank. -/
  pattern : ∀ p, e.pattern = some p → p.text ≠ [] ∧
    ∀ c, p.text.getLast? = some c → Text.isBlank c = false

/-- Nothing in the expression could be taken for something else when its text is read. -/
structure IsReadable (e : Expression) : Prop extends IsDelimited e where
  /-- The modifier is one operator; if there is none, the name does not begin with one. -/
  modifier : (e.modifier = [] ∧ ∀ c, e.name.head? = some c → isModifier c = false) ∨
    ∃ m, e.modifier = [m] ∧ isModifier m = true

/-- The name and, behind a colon, the pattern. -/
def inner (e : Expression) : Text :=
  e.name ++ if e.patternText = [] then [] else ':' :: e.patternText

theorem text_eq (e : Expression) :
    e.text = Token.openBrace :: (e.modifier ++ e.inner) ++ [Token.closeBrace] := by
  simp [text, inner]

theorem stripBraces?_braces (body : Text) :
    stripBraces? (Token.openBrace :: body ++ [Token.closeBrace]) = some body := by
  rw [List.cons_append, stripBraces?, if_pos (by simp), List.dropLast_concat]

theorem parse_braces {body : Text} (h : body ≠ []) :
    parse (Token.openBrace :: body ++ [Token.closeBrace]) = parseBody body := by
  rw [parse, stripBraces?_braces]
  cases body with
  | nil => exact absurd rfl h
  | cons c rest => rfl

/-- A text that does not begin with an opening brace is no expression. -/
theorem parse_of_head {t : Text} (h : t.head? ≠ some Token.openBrace) : parse t = .ok none := by
  have hstrip : stripBraces? t = none := by
    cases t with
    | nil => rfl
    | cons c rest =>
        have hc : c ≠ Token.openBrace := fun hc => h (congrArg some hc)
        rw [stripBraces?, if_neg (by simp [hc])]
  rw [parse, hstrip]

/-- A text that does not end with a closing brace is no expression. -/
theorem parse_of_getLast {t : Text} (h : t.getLast? ≠ some Token.closeBrace) :
    parse t = .ok none := by
  have hstrip : stripBraces? t = none := by
    cases t with
    | nil => rfl
    | cons c rest =>
        have hrest : rest.getLast? ≠ some Token.closeBrace := by
          intro hrest
          rw [List.getLast?_cons, hrest] at h
          exact h rfl
        simp [stripBraces?, hrest]
  rw [parse, hstrip]

theorem create_self (e : Expression) (h : ∀ p, e.pattern = some p → p.text ≠ []) :
    create e.name (if e.patternText = [] then none else some e.patternText) e.modifier = .ok e := by
  obtain ⟨name, pattern, modifier, hname⟩ := e
  rw [create, dif_neg hname]
  cases pattern with
  | none => rfl
  | some p =>
      have hne := h p rfl
      simp [patternText, hne, Pattern.ofText_text]

section Delimited

variable {e : Expression} (h : e.IsDelimited)

include h

theorem trim_inner : Text.trim e.inner = e.inner := by
  obtain ⟨hhead, hlast⟩ := Text.trim_eq_self_iff.mp h.name_trim
  refine Text.trim_eq_self_iff.mpr ⟨fun c hc => hhead c ?_, fun c hc => ?_⟩
  · obtain ⟨d, rest, hname⟩ := List.exists_cons_of_ne_nil e.name_ne_nil
    rw [inner, hname] at hc
    rw [hname]
    exact hc
  · by_cases hp : e.patternText = []
    · rw [inner, if_pos hp, List.append_nil] at hc
      exact hlast c hc
    · rw [inner, if_neg hp, List.getLast?_append, List.getLast?_cons] at hc
      cases hpattern : e.pattern with
      | none => exact absurd (by simp [patternText, hpattern]) hp
      | some p =>
          have htext : e.patternText = p.text := by simp [patternText, hpattern]
          obtain ⟨hne, hblank⟩ := h.pattern p hpattern
          rw [htext, List.getLast?_eq_some_getLast hne] at hc
          exact hblank c (by rw [List.getLast?_eq_some_getLast hne]; simpa using hc)

theorem cut_inner : Text.cut ':' e.inner
    = (e.name, if e.patternText = [] then none else some e.patternText) := by
  rw [inner]
  split
  · rw [List.append_nil, Text.cut_of_not_mem h.name_no_colon]
  · exact Text.cut_append h.name_no_colon _

end Delimited

section Readable

variable {e : Expression} (h : e.IsReadable)

include h

/-- The operator is taken off again. -/
theorem takeModifier_of_isReadable : takeModifier (e.modifier ++ e.inner) = (e.modifier, e.inner) := by
  rcases h.modifier with ⟨hm, hhead⟩ | ⟨m, hm, hop⟩
  · obtain ⟨c, rest, hname⟩ := List.exists_cons_of_ne_nil e.name_ne_nil
    have hc : isModifier c = false := hhead c (by rw [hname, List.head?_cons])
    rw [hm, inner, hname, List.nil_append, List.cons_append, takeModifier, if_neg (by simp [hc])]
  · rw [hm, List.singleton_append, takeModifier, if_pos hop]

/-- **The text of a readable expression gives the expression back.** -/
theorem parse_text : parse e.text = .ok (some e) := by
  have hne : e.modifier ++ e.inner ≠ [] := by
    rw [inner]
    simp [e.name_ne_nil]
  have hpattern : ((if e.patternText = [] then none else some e.patternText).bind fun p : Text =>
      if p = [] then none else some p) = if e.patternText = [] then none else some e.patternText := by
    split
    · rfl
    · next hp => simp [hp]
  rw [text_eq, parse_braces hne, parseBody, takeModifier_of_isReadable h]
  simp only [trim_inner h.toIsDelimited, cut_inner h.toIsDelimited, h.name_trim, hpattern]
  rw [if_neg (by simp [e.name_ne_nil, h.name_no_brace]),
    create_self e fun p hp => (h.pattern p hp).1]

end Readable

/-! ### Expressions that were parsed -/

theorem create_eq_ok {name modifier : Text} {pattern : Option Text} {e : Expression}
    (h : create name pattern modifier = .ok e) :
    e.name = name ∧ e.modifier = modifier ∧ e.pattern.map (·.text) = pattern := by
  rw [create] at h
  split at h
  · exact absurd h (by simp)
  · cases pattern with
    | none => rw [← Except.ok.inj h]; exact ⟨rfl, rfl, rfl⟩
    | some t =>
        cases hp : Pattern.ofText t with
        | error err => simp [hp] at h
        | ok p =>
            simp only [hp, Except.ok.injEq] at h
            rw [← h]
            exact ⟨rfl, rfl, congrArg some (Pattern.text_of_ofText hp)⟩

/-- An expression takes its parts from the text between the braces. -/
theorem parseBody_eq_ok_some {body : Text} {e : Expression} (h : parseBody body = .ok (some e)) :
    e.modifier = (takeModifier body).1 ∧
      e.name = Text.trim (Text.cut ':' (Text.trim (takeModifier body).2)).1 ∧
      Token.openBrace ∉ e.name ∧
      e.pattern.map (·.text) = (Text.cut ':' (Text.trim (takeModifier body).2)).2.bind
        fun p => if p = [] then none else some p := by
  rw [parseBody] at h
  simp only at h
  split at h
  · exact absurd h (by simp)
  · next hname =>
      split at h
      · next e' he =>
          obtain rfl : e' = e := by simpa using h
          obtain ⟨hn, hm, hp⟩ := create_eq_ok he
          refine ⟨hm, hn, ?_, hp⟩
          rw [hn]
          simp only [Bool.or_eq_true, decide_eq_true_eq, List.contains_iff_mem, not_or] at hname
          exact hname.2
      · exact absurd h (by simp)
      · exact absurd h (by simp)

/-- A token that is an expression is the text between its braces. -/
theorem parse_eq_ok_some {token : Text} {e : Expression} (h : parse token = .ok (some e)) :
    ∃ body, token = Token.openBrace :: body ++ [Token.closeBrace] ∧
      parseBody body = .ok (some e) := by
  rw [parse] at h
  split at h
  · exact absurd h (by simp)
  · exact absurd h (by simp)
  · next body _ hstrip =>
      refine ⟨body, ?_, h⟩
      cases token with
      | nil => simp [stripBraces?] at hstrip
      | cons c rest =>
          rw [stripBraces?] at hstrip
          split at hstrip
          · next hc =>
              simp only [Bool.and_eq_true, decide_eq_true_eq, beq_iff_eq] at hc
              obtain ⟨rfl, hlast⟩ := hc
              obtain ⟨init, rfl⟩ := List.getLast?_eq_some_iff.mp hlast
              rw [List.dropLast_concat, Option.some.injEq] at hstrip
              rw [hstrip, List.cons_append]
          · exact absurd hstrip (by simp)

/-- A name begins with the first character behind the operator that is no blank. -/
theorem head?_name {body : Text} {e : Expression} (h : parseBody body = .ok (some e)) :
    e.name.head? = ((takeModifier body).2.dropWhile Text.isBlank).head? := by
  obtain ⟨-, hname, -, -⟩ := parseBody_eq_ok_some h
  generalize (takeModifier body).2 = rest at hname ⊢
  obtain ⟨c, _, hcut⟩ : ∃ c r, (Text.cut ':' (Text.trim rest)).1 = c :: r := by
    refine List.exists_cons_of_ne_nil fun hnil => e.name_ne_nil ?_
    rw [hname, hnil]
    rfl
  have hfirst : (Text.trim rest).head? = some c := Text.head_cut (by rw [hcut, List.head?_cons])
  obtain ⟨s, hs, -⟩ := Text.exists_dropEnd Text.isBlank (rest.dropWhile Text.isBlank)
  obtain ⟨d, hd⟩ : ∃ d, e.name.head? = some d := by
    obtain ⟨d, r, hr⟩ := List.exists_cons_of_ne_nil e.name_ne_nil
    exact ⟨d, by rw [hr, List.head?_cons]⟩
  -- The name is trimmed once more, but its first character is no blank.
  obtain rfl : d = c := Text.head_trim (by rw [hcut, List.head?_cons])
    (Text.isBlank_head_trim hfirst) (hname ▸ hd)
  rw [hd, hs, List.head?_append]
  exact (congrArg (Option.or · _) hfirst).symm

/-- The modifier of an expression that was parsed is one operator or none. -/
theorem modifier_of_parseBody {body : Text} {e : Expression} (h : parseBody body = .ok (some e)) :
    (e.modifier = [] ∧ takeModifier body = ([], body)) ∨
      ∃ m, e.modifier = [m] ∧ isModifier m = true ∧ body.head? = some m := by
  obtain ⟨hmodifier, -, -, -⟩ := parseBody_eq_ok_some h
  cases body with
  | nil => exact Or.inl ⟨hmodifier, rfl⟩
  | cons c rest =>
      rw [takeModifier] at hmodifier ⊢
      by_cases hop : isModifier c = true
      · rw [if_pos hop] at hmodifier
        exact Or.inr ⟨c, hmodifier, hop, rfl⟩
      · rw [if_neg hop] at hmodifier ⊢
        exact Or.inl ⟨hmodifier, rfl⟩

/-- **In an expression that was parsed, name and pattern are told apart again.** -/
theorem isDelimited_of_parse {token : Text} {e : Expression} (h : parse token = .ok (some e)) :
    e.IsDelimited := by
  obtain ⟨body, -, hbody⟩ := parse_eq_ok_some h
  obtain ⟨-, hname, hbrace, hpattern⟩ := parseBody_eq_ok_some hbody
  refine ⟨?_, hbrace, ?_, ?_⟩
  · rw [hname, Text.trim_trim]
  · -- The name is trimmed after it was cut off, which brings no colon back.
    intro hcolon
    generalize Text.trim (takeModifier body).2 = t at hname
    obtain ⟨a, b, hn, -, -⟩ := Text.exists_trim (Text.cut ':' t).1
    refine Text.not_mem_cut ':' t ?_
    rw [hn, ← hname]
    simp [hcolon]
  · intro p hp
    rw [hp, Option.map_some, eq_comm, Option.bind_eq_some_iff] at hpattern
    obtain ⟨t, ht, hif⟩ := hpattern
    split at hif
    · exact absurd hif (by simp)
    · next hne =>
        obtain rfl : t = p.text := Option.some.inj hif
        refine ⟨hne, fun c hc => Text.isBlank_getLast_trim (t := (takeModifier body).2) ?_⟩
        rw [Text.cut_eq ':' (Text.trim _), ht, Option.map_some, Option.getD_some,
          List.getLast?_append, List.getLast?_cons, hc]
        rfl

/-- It is readable unless its name begins with an operator and has none in front of it. -/
theorem isReadable_iff_of_parse {token : Text} {e : Expression} (h : parse token = .ok (some e)) :
    e.IsReadable ↔ (e.modifier = [] → ∀ c, e.name.head? = some c → isModifier c = false) := by
  obtain ⟨body, -, hbody⟩ := parse_eq_ok_some h
  have hdelimited := isDelimited_of_parse h
  constructor
  · intro hreadable hnil c hc
    rcases hreadable.modifier with ⟨-, hhead⟩ | ⟨m, hm, -⟩
    · exact hhead c hc
    · rw [hnil] at hm
      exact absurd hm (by simp)
  · intro hhead
    refine ⟨hdelimited, ?_⟩
    rcases modifier_of_parseBody hbody with ⟨hnil, -⟩ | ⟨m, hm, hop, -⟩
    · exact Or.inl ⟨hnil, hhead hnil⟩
    · exact Or.inr ⟨m, hm, hop⟩

/-- **An expression that was parsed is readable**, if no blank stood behind its brace. -/
theorem isReadable_of_parse {token : Text} {e : Expression} (h : parse token = .ok (some e))
    (hblank : ∀ c, token.tail.head? = some c → Text.isBlank c = false) : e.IsReadable := by
  rw [isReadable_iff_of_parse h]
  intro hnil d hd
  obtain ⟨body, rfl, hbody⟩ := parse_eq_ok_some h
  rw [head?_name hbody] at hd
  rcases modifier_of_parseBody hbody with ⟨-, htake⟩ | ⟨m, hm, -, -⟩
  · rw [htake] at hd
    cases body with
    | nil => exact absurd hd (by simp)
    | cons c rest =>
        -- Trimming must not bring an operator to the front, so no blank may be there.
        rw [List.dropWhile_cons_of_neg (by simp [hblank c rfl])] at hd
        obtain rfl : c = d := Option.some.inj hd
        rw [takeModifier] at htake
        by_contra hop
        rw [if_pos (by simpa using hop)] at htake
        exact absurd (Prod.mk.inj htake).1 (by simp)
  · rw [hnil] at hm
    exact absurd hm (by simp)

/-! ### Spans -/

section Depth

open Token (descend)

theorem descend_blanks {t : Text} (h : ∀ c ∈ t, Text.isBlank c = true) (depth : Nat) :
    descend depth t = some depth := by
  refine Token.descend_of_no_brace depth fun c hc => ⟨?_, ?_⟩
  · rintro rfl
    exact absurd (h _ hc) (by decide)
  · rintro rfl
    exact absurd (h _ hc) (by decide)

theorem descend_trim (depth : Nat) (t : Text) : descend depth (Text.trim t) = descend depth t := by
  obtain ⟨a, b, ht, ha, hb⟩ := Text.exists_trim t
  conv => rhs; rw [ht]
  rw [Token.descend_append, Token.descend_append, descend_blanks ha, Option.bind_some]
  cases descend depth (Text.trim t) with
  | none => rfl
  | some d => rw [Option.bind_some, descend_blanks hb]

theorem descend_modifier {m : Char} (h : isModifier m = true) (depth : Nat) (t : Text) :
    descend depth (m :: t) = descend depth t := by
  refine Token.descend_char ?_ ?_ depth t
  · rintro rfl
    exact absurd h (by decide)
  · rintro rfl
    exact absurd h (by decide)

theorem descend_takeModifier (depth : Nat) (t : Text) :
    descend depth (takeModifier t).2 = descend depth t := by
  cases t with
  | nil => rfl
  | cons c rest =>
      rw [takeModifier]
      split
      · next hop => exact (descend_modifier hop depth rest).symm
      · rfl

theorem descend_takeModifier_append (depth : Nat) (t u : Text) :
    descend depth ((takeModifier t).1 ++ u) = descend depth u := by
  cases t with
  | nil => rfl
  | cons c rest =>
      rw [takeModifier]
      split
      · next hop => exact descend_modifier hop depth u
      · rfl

theorem descend_colon (depth : Nat) (t : Text) : descend depth (':' :: t) = descend depth t :=
  Token.descend_char (by decide) (by decide) depth t

theorem descend_inner (depth : Nat) (e : Expression) : descend depth e.inner
    = (descend depth e.name).bind fun d => descend d e.patternText := by
  rw [inner, Token.descend_append]
  split
  · next hp => rw [hp]
  · simp only [descend_colon]

/-- A colon without a pattern behind it makes no difference. -/
theorem descend_patternText {e : Expression} {p : Option Text}
    (h : e.pattern.map (·.text) = p.bind fun p => if p = [] then none else some p) (depth : Nat) :
    descend depth ((p.map (':' :: ·)).getD []) = descend depth e.patternText := by
  cases p with
  | none =>
      have hnone : e.patternText = [] := by
        rw [patternText, h]
        rfl
      rw [hnone]
      rfl
  | some p =>
      have hsome : e.patternText = p := by
        rw [patternText, h, Option.bind_some]
        split
        · next hp =>
            rw [hp]
            rfl
        · rfl
      rw [hsome, Option.map_some, Option.getD_some, descend_colon]

/-- The text of an expression has the braces of the span that it was parsed from. -/
theorem isSpan_text {token : Text} {e : Expression} (hspan : Token.IsSpan token)
    (h : parse token = .ok (some e)) : Token.IsSpan e.text := by
  obtain ⟨body, hbody, hdepth⟩ := hspan
  obtain ⟨body', hbody', hparse⟩ := parse_eq_ok_some h
  obtain rfl : body = body' := by
    rw [hbody'] at hbody
    simpa using hbody.symm
  obtain ⟨hmodifier, hname, -, hpattern⟩ := parseBody_eq_ok_some hparse
  refine ⟨e.modifier ++ e.inner, text_eq e, ?_⟩
  -- Operator, blanks and colon are no braces, so that on either side the name and the pattern count.
  rw [hmodifier, descend_takeModifier_append, descend_inner, hname, descend_trim]
  rw [← descend_takeModifier, ← descend_trim, Text.cut_eq ':' (Text.trim _),
    Token.descend_append] at hdepth
  rw [← hdepth]
  exact congrArg (Option.bind _) (funext fun d => (descend_patternText hpattern d).symm)

end Depth

/-! ### Plain names -/

/-- A name that could not be taken for anything else. Identifiers are plain
(`isPlainName_of_identifier`). -/
structure IsPlainName (name : Text) : Prop where
  ne_nil : name ≠ []
  chars : ∀ c ∈ name, Text.isBlank c = false ∧ c ≠ Token.openBrace ∧ c ≠ Token.closeBrace ∧ c ≠ ':'
  head : ∀ c, name.head? = some c → isModifier c = false

/-- The name between two braces. -/
def placeholder (name : Text) : Text :=
  Token.openBrace :: name ++ [Token.closeBrace]

/-- The expression with a name and nothing else. -/
def named (name : Text) (h : name ≠ []) : Expression :=
  ⟨name, none, [], h⟩

theorem text_named {name : Text} (h : name ≠ []) : (named name h).text = placeholder name := by
  simp [text, named, patternText, placeholder]

theorem isPlainName_of_identifier {name : Text} (hne : name ≠ [])
    (hall : name.all (fun c => c.isAlphanum || c == '_') = true) : IsPlainName name := by
  have h : ∀ c ∈ name, c.isAlphanum = true ∨ c = '_' := fun c hc => by
    simpa using List.all_eq_true.mp hall c hc
  have hascii : ∀ n < 0x80, (Char.ofNat n).isAlphanum = true ∨ Char.ofNat n = '_' →
      Text.isBlank (Char.ofNat n) = false ∧ Char.ofNat n ≠ Token.openBrace ∧
        Char.ofNat n ≠ Token.closeBrace ∧ Char.ofNat n ≠ ':' ∧
          isModifier (Char.ofNat n) = false := by
    decide +kernel
  have hchar : ∀ c ∈ name, Text.isBlank c = false ∧ c ≠ Token.openBrace ∧ c ≠ Token.closeBrace ∧
      c ≠ ':' ∧ isModifier c = false := by
    intro c hc
    have hlt : c.toNat < 0x80 := by
      rcases h c hc with h | rfl
      · exact Percent.ascii_of_isUnreserved (by simp [Percent.isUnreserved, h])
      · decide
    have := hascii c.toNat hlt
    rw [Char.ofNat_toNat] at this
    exact this (h c hc)
  refine ⟨hne, fun c hc => ?_, fun c hc => ?_⟩
  · obtain ⟨hblank, hopen, hclose, hcolon, -⟩ := hchar c hc
    exact ⟨hblank, hopen, hclose, hcolon⟩
  · exact (hchar c (List.mem_of_head? hc)).2.2.2.2

section Plain

variable {name : Text} (h : IsPlainName name)

include h

theorem isReadable_named : (named name h.ne_nil).IsReadable where
  modifier := Or.inl ⟨rfl, h.head⟩
  name_trim := Text.trim_eq_self_iff.mpr ⟨fun c hc => (h.chars c (List.mem_of_head? hc)).1,
    fun c hc => (h.chars c (List.mem_of_getLast? hc)).1⟩
  name_no_brace := fun hmem => (h.chars _ hmem).2.1 rfl
  name_no_colon := fun hmem => (h.chars _ hmem).2.2.2 rfl
  pattern := nofun

theorem isSpan_placeholder : Token.IsSpan (placeholder name) :=
  ⟨name, rfl, Token.descend_of_no_brace 0 fun c hc => ⟨(h.chars c hc).2.1, (h.chars c hc).2.2.1⟩⟩

theorem parse_placeholder : parse (placeholder name) = .ok (some (named name h.ne_nil)) := by
  rw [← text_named h.ne_nil]
  exact parse_text (isReadable_named h)

end Plain

end Expression

end HttpTemplates
