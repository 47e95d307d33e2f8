import HttpTemplates.Proofs.Template.Body
import HttpTemplates.Proofs.Template.NormalForm
import HttpTemplates.Proofs.Template.Rejection

/-!
# Bodies with nothing bound

Where nothing is bound, a body outside the envelope form keeps all of its tokens, and each expression
among them is written in its normal form (`BodyTemplate.written`). This leaves out characters of the
token and adds none, so **the body is sent as it stands exactly if no expression in it has anything
to leave out** (`BodyTemplate.expand_unbound_iff`): no blanks around its name or at its end, and no
colon without a pattern behind it. Spans that are no expressions are copied with all their blanks.
-/

namespace HttpTemplates.BodyTemplate

open Expression (IsTight)
open Template (Contributions IsChunkOf expandChunk)
open Token (tokenize)

variable {c : Charset} {vars : Variables}

/-- A token with its expression in normal form; a literal token is copied. -/
def writtenToken (token : Text) : Text :=
  match Expression.parse token with
  | .ok (some e) => e.text
  | _ => token

/-- The tokens of a body one after the other, with their expressions in normal form. -/
def written (source : Text) : Text :=
  (tokenize source).flatMap writtenToken

/-- Writing a token leaves it as it is or makes it shorter. -/
theorem writtenToken_eq_or_lt (token : Text) :
    writtenToken token = token ∨ (writtenToken token).length < token.length := by
  unfold writtenToken
  split
  · next e he =>
      have hsublist := Expression.text_sublist he
      rcases hsublist.length_le.eq_or_lt with hlength | hlength
      · exact Or.inl (hsublist.eq_of_length hlength)
      · exact Or.inr hlength
  · exact Or.inl rfl

theorem writtenToken_eq_self_iff {token : Text} : writtenToken token = token ↔
    ∀ e, Expression.parse token = .ok (some e) → IsTight token := by
  unfold writtenToken
  split
  · next e he =>
      rw [Expression.text_eq_token_iff he]
      exact ⟨fun htight _ _ => htight, fun h => h e he⟩
  · next hnone => exact iff_of_true rfl fun e he => absurd he (hnone e)

/-- A body is written as it stands if each of its tokens is. -/
theorem written_eq_self_iff {source : Text} : written source = source ↔
    ∀ token ∈ tokenize source, ∀ e, Expression.parse token = .ok (some e) → IsTight token := by
  have hself : (tokenize source).flatMap id = source := by
    rw [List.flatMap_id, Token.flatten_tokenize]
  conv => lhs; rhs; rw [← hself]
  rw [written, flatMap_eq_iff (g := id) fun token _ => writtenToken_eq_or_lt token]
  exact forall₂_congr fun token _ => writtenToken_eq_self_iff

/-- A chunk without a value contributes its token as it is written. -/
theorem expandChunk_unbound {token : Text} {chunk : Chunk} (h : IsChunkOf token chunk)
    (hunbound : ∀ e, chunk = .expression e → (vars.get e.name).isNull = true) :
    expandChunk (settings c).normalize vars chunk = .ok (some (writtenToken token)) := by
  cases h with
  | @expression e he =>
      rw [expandChunk, Template.expandExpression_null (hunbound e rfl), writtenToken, he]
      rfl
  | literal hnone _ =>
      rw [expandChunk, writtenToken, hnone]

theorem contributions_unbound {tokens : List Text} {cs : List Chunk}
    (h : List.Forall₂ IsChunkOf tokens cs)
    (hunbound : ∀ e, .expression e ∈ cs → (vars.get e.name).isNull = true) :
    Contributions (settings c).normalize vars cs ((tokens.map writtenToken).map some) := by
  induction h with
  | nil => exact .nil
  | cons hchunk _ ih =>
      refine .cons (expandChunk_unbound hchunk fun e he => hunbound e (by simp [he])) (ih ?_)
      exact fun e he => hunbound e (List.mem_cons_of_mem _ he)

/-- **A body in which nothing is bound is sent with its expressions in normal form.** It is sent as
it stands exactly if its expressions are in normal form already. -/
theorem expand_unbound_iff {source : Text} {b : BodyTemplate} (h : create source c = .ok b)
    (henvelope : b.isEnvelope = false)
    (hunbound : ∀ e, .expression e ∈ b.base.chunks → (vars.get e.name).isNull = true) :
    b.expand vars = .ok (some (written source)) ∧
      (b.expand vars = .ok (some source) ↔
        ∀ token ∈ tokenize source, ∀ e, Expression.parse token = .ok (some e) → IsTight token) := by
  have hparse := create_eq_ok_iff.mp h
  have hbase : b.base.expand vars = .ok (some (written source)) := by
    refine Template.expand_eq_ok_iff.mpr ⟨((tokenize source).map writtenToken).map some, ?_, ?_⟩
    · rw [(Template.parse_fields hparse).2]
      exact contributions_unbound (Template.isChunkOf_of_parse hparse) hunbound
    · rw [Template.assembled_map_some, written, List.flatMap_def]
  have hexpand : b.expand vars = .ok (some (written source)) := by
    rw [expand, hbase, bind_ok, henvelope]
    rfl
  refine ⟨hexpand, ?_⟩
  rw [hexpand, Except.ok.injEq, Option.some.injEq, written_eq_self_iff]

/-! ### Two bodies -/

/-- A body with two expressions that have nothing to leave out, with spans that are none and with a
brace that is never closed. -/
def tightBody : Text :=
  "a \x7b\x7d b \x7b \x7d c \x7bcolor: red\x7d d \x7b+n\x7d e \x7b"

/-- The body is sent as it stands. -/
theorem expand_unbound_tight : ∃ b, create tightBody .utf8 = .ok b ∧ b.isEnvelope = false ∧
    b.base.expressions.length = 2 ∧
    (∀ e, .expression e ∈ b.base.chunks → (Variables.empty.get e.name).isNull = true) ∧
    b.expand .empty = .ok (some tightBody) := by
  have hrun : (create tightBody .utf8).toOption.any (fun b =>
      !b.isEnvelope && b.base.expressions.length = 2) = true := by
    decide +kernel
  obtain ⟨b, hb, hcheck⟩ := exists_ok_of_any hrun
  simp only [Bool.and_eq_true, Bool.not_eq_true', decide_eq_true_eq] at hcheck
  have hunbound : ∀ e, .expression e ∈ b.base.chunks →
      (Variables.empty.get e.name).isNull = true := fun _ _ => rfl
  have htight : written tightBody = tightBody := by decide +kernel
  exact ⟨b, hb, hcheck.1, hcheck.2, hunbound,
    (expand_unbound_iff hb hcheck.1 hunbound).2.mpr (written_eq_self_iff.mp htight)⟩

/-- A body with an expression that has blanks around its name. -/
def looseBody : Text :=
  "\x7b a \x7d"

/-- The blanks are left out. -/
theorem not_expand_unbound : ∃ b, create looseBody .utf8 = .ok b ∧ b.isEnvelope = false ∧
    b.expand .empty = .ok (some "\x7ba\x7d") ∧ looseBody ≠ "\x7ba\x7d" := by
  have hrun : (create looseBody .utf8).toOption.any (fun b => !b.isEnvelope &&
      (b.expand .empty).toOption = some (some "\x7ba\x7d".toList)) = true := by
    decide +kernel
  obtain ⟨b, hb, hcheck⟩ := exists_ok_of_any hrun
  simp only [Bool.and_eq_true, Bool.not_eq_true', decide_eq_true_eq, toOption_eq_some_iff] at hcheck
  exact ⟨b, hb, hcheck.1, hcheck.2, by decide⟩

end HttpTemplates.BodyTemplate
