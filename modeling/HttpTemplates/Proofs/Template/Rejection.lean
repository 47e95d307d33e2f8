import HttpTemplates.Proofs.Template.Recognition
import HttpTemplates.Template.Body
import Mathlib.Data.List.Forall2

/-!
# Tokens that are rejected

Where nothing is encoded, parsing a template turns each token into one chunk: an expression, or else
the token itself as literal text (`Template.IsChunkOf`). A token whose pattern breaks the rules of
regular expressions is literal text. **A pattern that is refused for any other reason makes the whole
template fail**, and nothing else does: `BodyTemplate.exists_create_iff`. A repetition count out of
range is such a reason (`not_exists_create`).
-/

namespace HttpTemplates

namespace Template

open Expression (IsRefused)

/-- The chunk that a token is if nothing is encoded: the expression, or else the token itself. -/
inductive IsChunkOf (token : Text) : Chunk → Prop
  /-- The token is an expression. -/
  | expression {e : Expression} (h : Expression.parse token = .ok (some e)) :
      IsChunkOf token (.expression e)
  /-- The token is literal text. -/
  | literal (h : Expression.parse token = .ok none) (token_ne_nil : token ≠ []) :
      IsChunkOf token (.literal token token_ne_nil)

/-- A token that is a chunk is not refused. -/
theorem IsChunkOf.not_isRefused {token : Text} {c : Chunk} (h : IsChunkOf token c)
    (e : PatternError) : ¬ IsRefused token e := by
  intro he
  have herror := Expression.parse_eq_error_iff.mpr ⟨e, he, rfl⟩
  cases h with
  | expression h => rw [herror] at h; exact absurd h (by simp)
  | literal h _ => rw [herror] at h; exact absurd h (by simp)

theorem not_isRefused_of_chunks {tokens : List Text} {cs : List Chunk}
    (h : List.Forall₂ IsChunkOf tokens cs) : ∀ token ∈ tokens, ∀ e, ¬ IsRefused token e := by
  induction h with
  | nil => simp
  | cons hchunk _ ih => exact List.forall_mem_cons.mpr ⟨hchunk.not_isRefused, ih⟩

/-- Each token is a chunk, or the pattern of one of them is refused. -/
theorem chunksOfTokens_cases {tokens : List Text} (hne : ∀ token ∈ tokens, token ≠ []) :
    (∃ cs, chunksOfTokens .ok tokens = .ok cs ∧ List.Forall₂ IsChunkOf tokens cs) ∨
      ∃ token ∈ tokens, ∃ e, IsRefused token e ∧
        chunksOfTokens .ok tokens = .error (.pattern e) := by
  induction tokens with
  | nil => exact Or.inl ⟨[], rfl, .nil⟩
  | cons token tokens ih =>
      obtain ⟨htoken, htokens⟩ := List.forall_mem_cons.mp hne
      cases hparse : Expression.parse token with
      | error err =>
          obtain ⟨e, he, rfl⟩ := Expression.parse_eq_error_iff.mp hparse
          refine Or.inr ⟨token, List.mem_cons_self .., e, he, ?_⟩
          rw [chunksOfTokens, chunksOfToken, hparse]
          rfl
      | ok parsed =>
          obtain ⟨c, hc, hchunk⟩ : ∃ c, chunksOfToken .ok token = .ok [c] ∧ IsChunkOf token c := by
            cases parsed with
            | some e => exact ⟨.expression e, by rw [chunksOfToken, hparse]; rfl, .expression hparse⟩
            | none =>
                refine ⟨.literal token htoken, ?_, .literal hparse htoken⟩
                simp only [chunksOfToken, hparse, bind_ok, Chunk.literal?, dif_neg htoken,
                  Option.toList_some]
          rcases ih htokens with ⟨cs, hcs, hchunks⟩ | ⟨other, hother, e, he, herror⟩
          · refine Or.inl ⟨c :: cs, ?_, .cons hchunk hchunks⟩
            simp only [chunksOfTokens, hc, hcs, bind_ok, List.singleton_append]
          · refine Or.inr ⟨other, List.mem_cons_of_mem _ hother, e, he, ?_⟩
            rw [chunksOfTokens, hc, herror]
            rfl

/-- A template that encodes nothing has a chunk for each token, unless a pattern is refused. -/
theorem parse_cases (source : Text) (keep slash : Bool) (c : Charset) :
    (∃ t, parse source ⟨keep, false, slash, c⟩ = .ok t ∧
        List.Forall₂ IsChunkOf (Token.tokenize source) t.chunks) ∨
      ∃ token ∈ Token.tokenize source, ∃ e, IsRefused token e ∧
        parse source ⟨keep, false, slash, c⟩ = .error (.pattern e) := by
  have hencode : (⟨keep, false, slash, c⟩ : Settings).normalize.encodeLiteral = Except.ok := rfl
  rw [parse, parseFragment, hencode]
  rcases chunksOfTokens_cases fun token => Token.ne_nil_of_mem_tokenize (t := source) with
    ⟨cs, hcs, hchunks⟩ | ⟨token, htoken, e, he, herror⟩
  · exact Or.inl ⟨⟨source, _, cs⟩, by rw [hcs]; rfl, hchunks⟩
  · exact Or.inr ⟨token, htoken, e, he, by rw [herror]; rfl⟩

/-- Once a template that encodes nothing is parsed, it has a chunk for each token. -/
theorem isChunkOf_of_parse {source : Text} {keep slash : Bool} {c : Charset} {t : Template}
    (h : parse source ⟨keep, false, slash, c⟩ = .ok t) :
    List.Forall₂ IsChunkOf (Token.tokenize source) t.chunks := by
  rcases parse_cases source keep slash c with ⟨u, hu, hchunks⟩ | ⟨_, _, _, _, herror⟩
  · obtain rfl : u = t := Except.ok.inj (hu.symm.trans h)
    exact hchunks
  · rw [herror] at h
    cases h

theorem exists_parse_iff (source : Text) (keep slash : Bool) (c : Charset) :
    (∃ t, parse source ⟨keep, false, slash, c⟩ = .ok t ∧
        List.Forall₂ IsChunkOf (Token.tokenize source) t.chunks) ↔
      ∀ token ∈ Token.tokenize source, ∀ e, ¬ IsRefused token e := by
  constructor
  · rintro ⟨t, -, hchunks⟩
    exact not_isRefused_of_chunks hchunks
  · intro h
    exact (parse_cases source keep slash c).resolve_right fun ⟨token, htoken, e, he, _⟩ =>
      h token htoken e he

end Template

namespace BodyTemplate

open Expression (IsRefused)
open Template (IsChunkOf)

/-- A body is created if its template is parsed. -/
theorem create_eq_ok_iff {source : Text} {c : Charset} {b : BodyTemplate} :
    create source c = .ok b ↔ Template.parse source (settings c) = .ok b.base := by
  rw [create]
  simp only [bind_eq_ok_iff, Except.ok.injEq]
  constructor
  · rintro ⟨base, hbase, rfl⟩
    exact hbase
  · intro h
    exact ⟨b.base, h, rfl⟩

/-- **A body, and every template that encodes nothing, has a chunk for each of its tokens, unless a
pattern is refused other than for breaking the rules of regular expressions.** A token whose pattern
breaks the rules is literal text, as is every other token that is no expression. If creating a body
fails, then in the pattern of one of its tokens. -/
theorem exists_create_iff (source : Text) (c : Charset) (keep slash : Bool) :
    ((∃ b, create source c = .ok b ∧
        List.Forall₂ IsChunkOf (Token.tokenize source) b.base.chunks) ↔
      ∀ token ∈ Token.tokenize source, ∀ e, ¬ IsRefused token e) ∧
    ((∃ t, Template.parse source ⟨keep, false, slash, c⟩ = .ok t ∧
        List.Forall₂ IsChunkOf (Token.tokenize source) t.chunks) ↔
      ∀ token ∈ Token.tokenize source, ∀ e, ¬ IsRefused token e) ∧
    ∀ err, create source c = .error err →
      ∃ token ∈ Token.tokenize source, ∃ e, IsRefused token e ∧ err = .pattern e := by
  refine ⟨?_, Template.exists_parse_iff source keep slash c, fun err herr => ?_⟩
  · rw [← Template.exists_parse_iff source true false c]
    constructor
    · rintro ⟨b, hb, hchunks⟩
      exact ⟨b.base, create_eq_ok_iff.mp hb, hchunks⟩
    · rintro ⟨t, ht, hchunks⟩
      exact ⟨⟨t⟩, create_eq_ok_iff.mpr ht, hchunks⟩
  · rcases Template.parse_cases source true false c with
      ⟨t, ht, -⟩ | ⟨token, htoken, e, he, herror⟩
    · have hb : create source c = .ok ⟨t⟩ := create_eq_ok_iff.mpr ht
      rw [hb] at herr
      exact absurd herr (by simp)
    · refine ⟨token, htoken, e, he, ?_⟩
      rw [create, settings, herror] at herr
      exact (Except.error.inj herr).symm

/-! ### Broken patterns and counts -/

/-- A body with a broken pattern, a nested span, an expression and a span that is never closed. -/
def brokenBody : Text :=
  "\x7ba:(\x7d\x7bb\x7bc\x7d\x7d\x7bd:[0-9]+\x7d\x7be"

/-- The body has four chunks, of which one is an expression. -/
theorem exists_create_broken : ∃ b, create brokenBody .utf8 = .ok b ∧
    List.Forall₂ IsChunkOf (Token.tokenize brokenBody) b.base.chunks ∧
    b.base.chunks.map (fun c => (c.text, c.expression?.isSome)) =
      [("\x7ba:(\x7d".toList, false), ("\x7bb\x7bc\x7d\x7d".toList, false),
        ("\x7bd:[0-9]+\x7d".toList, true), ("\x7be".toList, false)] := by
  have hread : ∀ token ∈ Token.tokenize brokenBody, (Expression.parse token).isOk = true := by
    decide +kernel
  obtain ⟨b, hb, hchunks⟩ := (exists_create_iff brokenBody .utf8 true false).1.mpr fun token htoken
      e he => by
    have hok := hread token htoken
    rw [Expression.parse_eq_error_iff.mpr ⟨e, he, rfl⟩] at hok
    exact absurd hok Bool.false_ne_true
  have hrun : (create brokenBody .utf8).toOption.any (fun b =>
      b.base.chunks.map (fun c => (c.text, c.expression?.isSome)) =
        [("\x7ba:(\x7d".toList, false), ("\x7bb\x7bc\x7d\x7d".toList, false),
          ("\x7bd:[0-9]+\x7d".toList, true), ("\x7be".toList, false)]) = true := by
    decide +kernel
  obtain ⟨b', hb', hcheck⟩ := exists_ok_of_any hrun
  obtain rfl : b' = b := Except.ok.inj (hb'.symm.trans hb)
  exact ⟨b', hb, hchunks, of_decide_eq_true hcheck⟩

/-- A body with a repetition count that is out of range. -/
def countBody : Text :=
  "\x7ba:x\x7b4294967295\x7d\x7d"

/-- Not every text can be a body. -/
theorem not_exists_create : ¬ ∀ (source : Text) (c : Charset), ∃ b, create source c = .ok b := by
  intro h
  obtain ⟨b, hb⟩ := h countBody .utf8
  have herror : (create countBody .utf8).isOk = false := by decide +kernel
  rw [hb] at herror
  exact absurd herror.symm Bool.false_ne_true

end BodyTemplate

end HttpTemplates
