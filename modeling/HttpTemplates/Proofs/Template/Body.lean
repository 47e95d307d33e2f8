import HttpTemplates.Proofs.Template.Expansion
import HttpTemplates.Proofs.Template.ExpressionText
import HttpTemplates.Template.Body

/-!
# Bodies without encoding

A body template copies its literal tokens as they are and puts the bound texts between them. Nothing
is percent-encoded, but **every `%2F` of a bound text becomes a slash**: slashes are decoded in the
value of an expression whether or not the template has encoded it before. A body outside the envelope
form is therefore the text of its tokens, literal and bound, if and only if no bound text holds a
`%2F` (`BodyTemplate.expand_verbatim_iff`); `not_verbatim_encodedSlash` is a body that is not.
-/

namespace HttpTemplates

/-! ### Decoded slashes -/

namespace Template

/-- An encoded slash. -/
def slashEscape : Text :=
  "%2F"

/-- Decoding slashes leaves a text as it is or makes it shorter. -/
theorem decodeSlashes_eq_or_lt (t : Text) :
    decodeSlashes t = t ∨ (decodeSlashes t).length < t.length := by
  fun_induction decodeSlashes t with
  | case1 => exact Or.inl rfl
  | case2 rest ih =>
      right
      rcases ih with ih | ih
      · simp [ih]
      · simp only [List.length_cons]
        omega
  | case3 c rest _ ih =>
      rcases ih with ih | ih
      · exact Or.inl (by rw [ih])
      · right
        simp only [List.length_cons]
        omega

/-- Decoding slashes changes the texts that hold an encoded one. -/
theorem decodeSlashes_eq_self_iff {t : Text} : decodeSlashes t = t ↔ ¬ slashEscape <:+: t := by
  fun_induction decodeSlashes t with
  | case1 => simp [slashEscape]
  | case2 rest ih =>
      have hholds : slashEscape <:+: '%' :: '2' :: 'F' :: rest := ⟨[], rest, rfl⟩
      simp [hholds]
  | case3 c rest hc ih =>
      -- No encoded slash begins at `c`.
      have hhead : ¬ slashEscape <+: c :: rest := by
        rintro ⟨s, hs⟩
        obtain ⟨rfl, hrest⟩ := List.cons.inj hs
        exact hc s rfl hrest.symm
      rw [List.cons.injEq, List.infix_cons_iff, ih]
      simp [hhead]

end Template

/-! ### Tokens -/

namespace BodyTemplate

/-- The text that a variable is bound to. -/
def boundText (vars : Variables) (name : Text) : Text :=
  match vars.get name with
  | .text t => t
  | _ => []

/-- The variable of an expression is bound to a text that the expression accepts. An expression
without a pattern accepts every text. -/
def Binds (vars : Variables) (e : Expression) : Prop :=
  ∃ t, vars.get e.name = .text t ∧ e.accepts t = .ok true

/-- A token with its bound text in place of an expression, rendered by `render`; a literal token is
copied. -/
def tokenText (render : Text → Text) (vars : Variables) (token : Text) : Text :=
  match Expression.parse token with
  | .ok (some e) => render (boundText vars e.name)
  | _ => token

/-- The tokens of a body one after the other, with rendered bound texts. -/
def tokensText (render : Text → Text) (vars : Variables) (source : Text) : Text :=
  (Token.tokenize source).flatMap (tokenText render vars)

theorem boundText_eq {vars : Variables} {name t : Text} (h : vars.get name = .text t) :
    boundText vars name = t := by
  rw [boundText, h]

open Template (Contributions expandChunk decodeSlashes)

variable {s : Template.Settings} {vars : Variables}

section Raw

variable (hencode : s.encode = false) (hslash : s.encodeSlash = false)

include hencode hslash

/-- An expression contributes its bound text with decoded slashes. -/
theorem expandChunk_of_binds {e : Expression} (he : Binds vars e) :
    expandChunk s vars (.expression e) = .ok (some (decodeSlashes (boundText vars e.name))) := by
  obtain ⟨t, ht, haccepts⟩ := he
  refine (Template.expandExpression_eq_ok_iff (by rw [ht]; rfl)).mpr ⟨t, ?_, ?_⟩
  · rw [hencode, ht]
    exact Expression.expand_eq_ok_iff.mpr ⟨rfl, haccepts⟩
  · rw [boundText_eq ht, hslash]
    rfl

/-- The chunks of unencoded tokens contribute what the tokens stand for. -/
theorem contributions_of_tokens {tokens : List Text} {cs : List Chunk}
    (h : Template.chunksOfTokens s.encodeLiteral tokens = .ok cs)
    (hbinds : ∀ e, .expression e ∈ cs → Binds vars e) : ∃ ws : List Text,
      Contributions s vars cs (ws.map some) ∧
        ws.flatten = tokens.flatMap (tokenText decodeSlashes vars) := by
  induction tokens generalizing cs with
  | nil =>
      obtain rfl : [] = cs := Except.ok.inj h
      exact ⟨[], .nil, rfl⟩
  | cons token tokens ih =>
      obtain ⟨head, hhead, h⟩ := bind_eq_ok_iff.mp h
      obtain ⟨tail, htail, h⟩ := bind_eq_ok_iff.mp h
      obtain rfl : head ++ tail = cs := Except.ok.inj h
      obtain ⟨ws, hws, hflatten⟩ := ih htail fun e he => hbinds e (List.mem_append_right _ he)
      obtain ⟨parsed, hparsed, hhead⟩ := bind_eq_ok_iff.mp hhead
      cases parsed with
      | some e =>
          obtain rfl : [Chunk.expression e] = head := Except.ok.inj hhead
          have he := expandChunk_of_binds hencode hslash (hbinds e (by simp))
          refine ⟨decodeSlashes (boundText vars e.name) :: ws, .cons he hws, ?_⟩
          rw [List.flatten_cons, List.flatMap_cons, hflatten, tokenText, hparsed]
      | none =>
          have hliteral : tokenText decodeSlashes vars token = token := by rw [tokenText, hparsed]
          obtain ⟨w, hw, hhead⟩ := bind_eq_ok_iff.mp hhead
          obtain rfl : token = w := by
            rw [Template.Settings.encodeLiteral, hencode] at hw
            exact Except.ok.inj hw
          obtain rfl : (Chunk.literal? token).toList = head := Except.ok.inj hhead
          rw [List.flatMap_cons, hliteral, ← hflatten]
          by_cases hempty : token = []
          · subst hempty
            exact ⟨ws, hws, rfl⟩
          · refine ⟨token :: ws, ?_, rfl⟩
            rw [Chunk.literal?, dif_neg hempty]
            exact .cons rfl hws

end Raw

/-- The expressions among the chunks are those of the tokens. -/
theorem expression_mem_iff {encodeLiteral : Text → Except Error Text} {tokens : List Text}
    {cs : List Chunk} (h : Template.chunksOfTokens encodeLiteral tokens = .ok cs) {e : Expression} :
    .expression e ∈ cs ↔ ∃ token ∈ tokens, Expression.parse token = .ok (some e) := by
  induction tokens generalizing cs with
  | nil =>
      obtain rfl : [] = cs := Except.ok.inj h
      simp
  | cons token tokens ih =>
      obtain ⟨head, hhead, h⟩ := bind_eq_ok_iff.mp h
      obtain ⟨tail, htail, h⟩ := bind_eq_ok_iff.mp h
      obtain rfl : head ++ tail = cs := Except.ok.inj h
      obtain ⟨parsed, hparsed, hhead⟩ := bind_eq_ok_iff.mp hhead
      have hfirst : .expression e ∈ head ↔ parsed = some e := by
        cases parsed with
        | some e' =>
            obtain rfl : [Chunk.expression e'] = head := Except.ok.inj hhead
            simp [eq_comm]
        | none =>
            obtain ⟨w, -, hhead⟩ := bind_eq_ok_iff.mp hhead
            obtain rfl : (Chunk.literal? w).toList = head := Except.ok.inj hhead
            rw [Chunk.literal?]
            split <;> simp
      rw [List.mem_append, hfirst, ih htail, List.exists_mem_cons_iff, hparsed, Except.ok.injEq]

/-! ### Verbatim bodies -/

/-- A token is at most as long as it would be with its bound text as it is. -/
theorem tokenText_eq_or_lt (vars : Variables) (token : Text) :
    tokenText decodeSlashes vars token = tokenText id vars token ∨
      (tokenText decodeSlashes vars token).length < (tokenText id vars token).length := by
  unfold tokenText
  split
  · exact Template.decodeSlashes_eq_or_lt _
  · exact Or.inl rfl

/-- Decoding slashes changes the expressions whose bound texts hold an encoded one. -/
theorem tokenText_eq_iff {vars : Variables} {token : Text} :
    tokenText decodeSlashes vars token = tokenText id vars token ↔
      ∀ e, Expression.parse token = .ok (some e) →
        ¬ Template.slashEscape <:+: boundText vars e.name := by
  unfold tokenText
  split
  · next e he =>
      rw [he]
      simp [Template.decodeSlashes_eq_self_iff]
  · next hnone => exact iff_of_true rfl fun e he => absurd he (hnone e)

/-- Texts that are put together are the same as longer ones only if each is the same. -/
theorem flatMap_eq_iff {f g : Text → Text} {ts : List Text}
    (h : ∀ t ∈ ts, f t = g t ∨ (f t).length < (g t).length) :
    ts.flatMap f = ts.flatMap g ↔ ∀ t ∈ ts, f t = g t := by
  have hle : ∀ {us : List Text}, (∀ t ∈ us, f t = g t ∨ (f t).length < (g t).length) →
      (us.flatMap f).length ≤ (us.flatMap g).length := by
    intro us hus
    induction us with
    | nil => simp
    | cons t us ih =>
        obtain ⟨ht, hus⟩ := List.forall_mem_cons.mp hus
        have := ih hus
        simp only [List.flatMap_cons, List.length_append]
        rcases ht with ht | ht
        · rw [ht]
          omega
        · omega
  refine ⟨fun heq => ?_, fun hall => by rw [List.flatMap_congr hall]⟩
  induction ts with
  | nil => simp
  | cons t ts ih =>
      obtain ⟨ht, hts⟩ := List.forall_mem_cons.mp h
      have hlength := congrArg List.length heq
      simp only [List.flatMap_cons, List.length_append] at hlength heq
      have htail := hle hts
      rcases ht with ht | ht
      · rw [ht] at heq
        exact List.forall_mem_cons.mpr ⟨ht, ih hts (List.append_cancel_left heq)⟩
      · omega

/-- The body of a text that has been parsed. -/
theorem create_eq_ok {source : Text} {c : Charset} {b : BodyTemplate}
    (h : create source c = .ok b) : ∃ chunks,
      Template.parseFragment (settings c).normalize.encodeLiteral source = .ok chunks ∧
        b = ⟨⟨source, (settings c).normalize, chunks⟩⟩ := by
  obtain ⟨base, hparse, h⟩ := bind_eq_ok_iff.mp h
  obtain ⟨chunks, hchunks, hbase⟩ := bind_eq_ok_iff.mp hparse
  rw [← Except.ok.inj h, ← Except.ok.inj hbase]
  exact ⟨chunks, hchunks, rfl⟩

/-- **A body sends its tokens verbatim unless a bound text holds an encoded slash.** In any case it
sends its literal tokens verbatim and its bound texts with decoded slashes. -/
theorem expand_verbatim_iff {source : Text} {c : Charset} {b : BodyTemplate}
    (h : create source c = .ok b) (henvelope : b.isEnvelope = false) {vars : Variables}
    (hbinds : ∀ e, .expression e ∈ b.base.chunks → Binds vars e) :
    b.expand vars = .ok (some (tokensText decodeSlashes vars source)) ∧
      (b.expand vars = .ok (some (tokensText id vars source)) ↔
        ∀ e, .expression e ∈ b.base.chunks →
          ¬ Template.slashEscape <:+: boundText vars e.name) := by
  obtain ⟨chunks, hchunks, rfl⟩ := create_eq_ok h
  obtain ⟨ws, hws, hflatten⟩ := contributions_of_tokens rfl rfl hchunks hbinds
  have hbase : Template.expand ⟨source, (settings c).normalize, chunks⟩ vars
      = .ok (some (tokensText decodeSlashes vars source)) :=
    Template.expand_eq_ok_iff.mpr
      ⟨ws.map some, hws, by rw [Template.assembled_map_some, hflatten, tokensText]⟩
  have hexpand : expand ⟨⟨source, (settings c).normalize, chunks⟩⟩ vars
      = .ok (some (tokensText decodeSlashes vars source)) := by
    rw [expand, hbase, bind_ok, henvelope]
    rfl
  refine ⟨hexpand, ?_⟩
  -- The two texts are the same if they are so token by token.
  rw [hexpand, Except.ok.injEq, Option.some.injEq, tokensText, tokensText,
    flatMap_eq_iff fun token _ => tokenText_eq_or_lt vars token]
  simp only [tokenText_eq_iff, expression_mem_iff hchunks]
  constructor
  · rintro hall e ⟨token, htoken, he⟩
    exact hall token htoken e he
  · intro hall token htoken e he
    exact hall e ⟨token, htoken, he⟩

/-! ### A note and a path -/

/-- A body with percent signs and an encoded slash of its own. -/
def note : Text :=
  "100% of a%2Fb: \x7bn\x7d"

/-- A text with delimiters and an escape, but without an encoded slash, for the note. -/
def noteVariables : Variables :=
  ⟨[("n", .text "50% + é/%41")]⟩

/-- A text with an encoded slash. -/
def pathVariables : Variables :=
  ⟨[("p", .text "a%2Fb")]⟩

theorem create_note : ∃ b, create note .utf8 = .ok b ∧ b.isEnvelope = false ∧
    ∀ e, .expression e ∈ b.base.chunks → e.name = "n".toList ∧ Binds noteVariables e := by
  have hrun : (create note .utf8).toOption.any (fun b => !b.isEnvelope &&
      b.base.chunks.all fun c => c.expression?.all fun e => e.name = "n".toList && e.pattern = none)
        = true := by
    decide +kernel
  obtain ⟨b, hb, hcheck⟩ := exists_ok_of_any hrun
  simp only [Bool.and_eq_true, Bool.not_eq_true', List.all_eq_true] at hcheck
  refine ⟨b, hb, hcheck.1, fun e he => ?_⟩
  have hexpression := hcheck.2 _ he
  simp only [Chunk.expression?, Option.all_some, Bool.and_eq_true, decide_eq_true_eq] at hexpression
  obtain ⟨hname, hpattern⟩ := hexpression
  refine ⟨hname, "50% + é/%41", by rw [hname]; rfl, ?_⟩
  rw [Expression.accepts, hpattern]

/-- The note is sent verbatim. -/
theorem expand_verbatim_note : ∃ b, create note .utf8 = .ok b ∧ b.isEnvelope = false ∧
    (∀ e, .expression e ∈ b.base.chunks → Binds noteVariables e) ∧
    b.expand noteVariables = .ok (some "100% of a%2Fb: 50% + é/%41") := by
  obtain ⟨b, hb, henvelope, hbinds⟩ := create_note
  refine ⟨b, hb, henvelope, fun e he => (hbinds e he).2, ?_⟩
  have hverbatim := (expand_verbatim_iff hb henvelope fun e he => (hbinds e he).2).2
  have htext : tokensText id noteVariables note = "100% of a%2Fb: 50% + é/%41" := by
    decide +kernel
  rw [← htext, hverbatim]
  intro e he
  rw [(hbinds e he).1, ← Template.decodeSlashes_eq_self_iff]
  decide

/-- A body that is only an expression without a pattern sends `a/b` for `a%2Fb`. -/
theorem not_verbatim_encodedSlash : ∃ b, create "\x7bp\x7d" .utf8 = .ok b ∧ b.isEnvelope = false ∧
    b.base.expressions = [Expression.named "p" (by decide)] ∧
    b.expand pathVariables = .ok (some "a/b") ∧
    tokensText id pathVariables "\x7bp\x7d" = "a%2Fb" := by
  have hrun : (create "\x7bp\x7d" .utf8).toOption.any (fun b => !b.isEnvelope &&
      b.base.expressions = [Expression.named "p" (by decide)] &&
      (b.expand pathVariables).toOption = some (some "a/b".toList)) = true := by
    decide +kernel
  obtain ⟨b, hb, hcheck⟩ := exists_ok_of_any hrun
  simp only [Bool.and_eq_true, Bool.not_eq_true', decide_eq_true_eq, toOption_eq_some_iff] at hcheck
  exact ⟨b, hb, hcheck.1.1, hcheck.1.2, hcheck.2, by decide +kernel⟩

end BodyTemplate

end HttpTemplates
