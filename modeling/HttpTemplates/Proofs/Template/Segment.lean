import HttpTemplates.Proofs.Percent.Decoding
import HttpTemplates.Proofs.Template.ExpressionText
import HttpTemplates.Template.Basic

/-!
# Segments

A well-formed text is a list of **segments**, which are literals and brace spans. Literals that
stand side by side are not told apart: parsing sees only their concatenation. `Segment.assemble` is
what parsing does with a list of segments (`parseFragment_textOf`), as a function that never fails.
Its law is `assemble_reparse`: the chunks of a list may be written out again, and what follows them
is then parsed as if it followed the list itself.
-/

namespace HttpTemplates

/-- A part of a text. -/
inductive Segment where
  /-- Text outside expressions. -/
  | literal (t : Text)
  /-- A brace span, and the expression that it stands for. -/
  | span (s : Text) (e : Expression)

namespace Segment

/-! ### Texts of segments -/

/-- The text of a segment. -/
def text : Segment → Text
  | .literal t => t
  | .span s _ => s

/-- The texts of segments, one after the other. -/
def textOf (ss : List Segment) : Text :=
  ss.flatMap text

/-- The text opens no brace, all of its percent signs begin escapes, and it has bytes. -/
structure IsLiteral (k : Codec) (t : Text) : Prop where
  no_brace : Token.openBrace ∉ t
  no_stray : Percent.hasStray t = false
  encodes : k.Encodes t

/-- A literal is one, and a span stands for its expression, whose text does so too. -/
def IsSound (k : Codec) : Segment → Prop
  | .literal t => IsLiteral k t
  | .span s e => Token.IsSpan s ∧ Expression.parse s = .ok (some e) ∧ e.IsReadable

@[simp] theorem textOf_nil : textOf [] = [] := rfl

@[simp] theorem textOf_cons (s : Segment) (ss : List Segment) :
    textOf (s :: ss) = s.text ++ textOf ss := rfl

@[simp] theorem textOf_append (ss ts : List Segment) :
    textOf (ss ++ ts) = textOf ss ++ textOf ts :=
  List.flatMap_append

theorem isLiteral_nil (k : Codec) : IsLiteral k [] :=
  ⟨by simp, rfl, Codec.encodes_nil k⟩

theorem IsLiteral.append {k : Codec} {s t : Text} (hs : IsLiteral k s) (ht : IsLiteral k t) :
    IsLiteral k (s ++ t) where
  no_brace := by simp [hs.no_brace, ht.no_brace]
  no_stray := Percent.hasStray_append hs.no_stray ht.no_stray
  encodes := Codec.encodes_append.mpr ⟨hs.encodes, ht.encodes⟩

theorem IsLiteral.parse_eq {k : Codec} {t : Text} (h : IsLiteral k t) :
    Expression.parse t = .ok none :=
  Expression.parse_of_head fun hhead => h.no_brace (List.mem_of_head? hhead)

/-! ### Chunks of segments -/

/-- The chunks of a list of segments, behind the literal text `read`. A literal ends at the next span;
it is encoded as a whole, and left out if nothing is left of it. -/
def assemble (enc : Text → Text) : Text → List Segment → List Chunk
  | read, [] => (Chunk.literal? (enc read)).toList
  | read, .literal t :: ss => assemble enc (read ++ t) ss
  | read, .span _ e :: ss =>
    (Chunk.literal? (enc read)).toList ++ .expression e :: assemble enc [] ss

section Parse

open Template (chunksOfTokens parseFragment)

variable {encodeLiteral : Text → Except Error Text} {enc : Text → Text} {k : Codec}

/-- The literal text read so far is a chunk, unless nothing is left of it. -/
theorem chunksOfTokens_flush {read w : Text} (hread : IsLiteral k read)
    (hw : encodeLiteral read = .ok w) (hnil : read = [] → w = []) {ts : List Text}
    {cs : List Chunk} (hts : chunksOfTokens encodeLiteral ts = .ok cs) :
    chunksOfTokens encodeLiteral (Token.flush read.reverse ++ ts)
      = .ok ((Chunk.literal? w).toList ++ cs) := by
  by_cases hr : read = []
  · obtain rfl := hnil hr
    rw [hr]
    exact hts
  · rw [Token.flush, if_neg (by simpa using hr), List.reverse_reverse, List.singleton_append]
    simp only [chunksOfTokens, Template.chunksOfToken, hread.parse_eq, bind_ok, hw, hts]

variable (henc : ∀ t, IsLiteral k t → encodeLiteral t = .ok (enc t)) (hnil : enc [] = [])

include henc hnil

/-- Scanning a list of segments behind literal text gives the tokens of its chunks. -/
theorem chunksOfTokens_scan {ss : List Segment} (hss : ∀ s ∈ ss, s.IsSound k) {read : Text}
    (hread : IsLiteral k read) :
    chunksOfTokens encodeLiteral (Token.scan .outside read.reverse (textOf ss))
      = .ok (assemble enc read ss) := by
  have hempty : ∀ {r}, r = [] → enc r = [] := fun hr => hr ▸ hnil
  induction ss generalizing read with
  | nil =>
      have hend : chunksOfTokens encodeLiteral [] = .ok [] := rfl
      have := chunksOfTokens_flush hread (henc read hread) hempty hend
      rwa [List.append_nil, List.append_nil] at this
  | cons s ss ih =>
      obtain ⟨hs, hrest⟩ := List.forall_mem_cons.mp hss
      cases s with
      | literal t =>
          have hboth := hread.append hs
          rw [textOf_cons, text, Token.scan_literal hs.no_brace, ← List.reverse_append]
          exact ih hrest hboth
      | span s e =>
          obtain ⟨hspan, hparse, -⟩ := hs
          have htail : chunksOfTokens encodeLiteral (s :: Token.scan .outside [] (textOf ss))
              = .ok (.expression e :: assemble enc [] ss) := by
            have := ih hrest (isLiteral_nil k)
            simp only [List.reverse_nil] at this
            simp only [chunksOfTokens, Template.chunksOfToken, hparse, bind_ok, this,
              List.singleton_append]
          rw [textOf_cons, text, Token.scan_span hspan]
          exact chunksOfTokens_flush hread (henc read hread) hempty htail

/-- **Parsing a list of segments gives its chunks.** -/
theorem parseFragment_textOf {ss : List Segment} (hss : ∀ s ∈ ss, s.IsSound k) :
    parseFragment encodeLiteral (textOf ss) = .ok (assemble enc [] ss) :=
  chunksOfTokens_scan henc hnil hss (isLiteral_nil k)

end Parse

/-! ### Writing chunks out again -/

/-- A chunk as a segment of the text that it is written as. -/
def ofChunk : Chunk → Segment
  | .literal t _ => .literal t
  | .expression e => .span e.text e

theorem textOf_map_ofChunk (cs : List Chunk) :
    textOf (cs.map ofChunk) = Template.textOfChunks cs := by
  induction cs with
  | nil => rfl
  | cons c cs ih =>
      rw [List.map_cons, textOf_cons, ih]
      cases c <;> rfl

theorem map_ofChunk_literal? (t : Text) :
    (Chunk.literal? t).toList.map ofChunk = if t = [] then [] else [.literal t] := by
  by_cases ht : t = [] <;> simp [Chunk.literal?, ht, ofChunk]

/-- Texts that are encoded alike, whatever follows them, may be exchanged in front of segments. -/
theorem assemble_congr {enc : Text → Text} {a b : Text}
    (h : ∀ t, enc (a ++ t) = enc (b ++ t)) (ss : List Segment) :
    assemble enc a ss = assemble enc b ss := by
  have hself : enc a = enc b := by simpa using h []
  induction ss generalizing a b with
  | nil => rw [assemble, assemble, hself]
  | cons s ss ih =>
      cases s with
      | literal t =>
          have hnext : ∀ u, enc (a ++ t ++ u) = enc (b ++ t ++ u) := fun u => by
            rw [List.append_assoc, h, List.append_assoc]
          exact ih hnext (by simpa using hnext [])
      | span s e => rw [assemble, assemble, hself]

section Reparse

open Percent (escaped)

variable {k : Codec} (hk : k.IsAsciiCompatible) {safe : Char → Bool}
variable (hpercent : safe '%' = false)

include hk hpercent

/-- Literal text may be encoded before something is appended to it. -/
theorem escaped_escaped_append {s : Text} (hs : IsLiteral k s) (t : Text) :
    escaped safe k (escaped safe k s ++ t) = escaped safe k (s ++ t) := by
  rw [Percent.escaped_append safe k (Percent.apart_of_not_hasStray hs.no_stray t),
    Percent.escaped_append safe k
      (Percent.apart_of_not_hasStray (Percent.hasStray_escaped hk safe hpercent s) t),
    Percent.escaped_idem hk safe hs.encodes]

/-- **Chunks may be written out and parsed again**, and so may what follows them. -/
theorem assemble_reparse {ss : List Segment} (hss : ∀ s ∈ ss, s.IsSound k) {read : Text}
    (hread : IsLiteral k read) (ts : List Segment) :
    assemble (escaped safe k) [] ((assemble (escaped safe k) read ss).map ofChunk ++ ts)
      = assemble (escaped safe k) read (ss ++ ts) := by
  -- Behind the literal text in front, written out as a chunk, the rest is parsed as behind the text.
  have hfront : ∀ {read} (us : List Segment), IsLiteral k read →
      assemble (escaped safe k) []
          ((Chunk.literal? (escaped safe k read)).toList.map ofChunk ++ us)
        = assemble (escaped safe k) read us := by
    intro read us hread
    rw [← assemble_congr (escaped_escaped_append hk hpercent hread) us, map_ofChunk_literal?]
    split
    · next hnil => rw [hnil, List.nil_append]
    · rw [List.singleton_append, assemble, List.nil_append]
  induction ss generalizing read with
  | nil => exact hfront ts hread
  | cons s ss ih =>
      obtain ⟨hs, hrest⟩ := List.forall_mem_cons.mp hss
      cases s with
      | literal t => exact ih hrest (hread.append hs)
      | span s e =>
          rw [assemble, List.map_append, List.append_assoc, hfront _ hread, List.map_cons, ofChunk,
            List.cons_append, assemble, ih hrest (isLiteral_nil k), List.cons_append, assemble]

/-- The chunks of sound segments are written as sound segments. -/
theorem isSound_ofChunk (hbrace : safe Token.openBrace = false) {ss : List Segment}
    (hss : ∀ s ∈ ss, s.IsSound k) {read : Text} (hread : IsLiteral k read) :
    ∀ s ∈ (assemble (escaped safe k) read ss).map ofChunk, s.IsSound k := by
  have hliteral : ∀ {read}, IsLiteral k read →
      ∀ s ∈ (Chunk.literal? (escaped safe k read)).toList.map ofChunk, s.IsSound k := by
    intro read hread s hs
    rw [map_ofChunk_literal?] at hs
    split at hs
    · exact absurd hs (by simp)
    · -- No brace is unreserved, so that encoding leaves none unless it is safe.
      obtain rfl := List.mem_singleton.mp hs
      refine ⟨fun hmem => ?_, Percent.hasStray_escaped hk safe hpercent read,
        Percent.encodes_escaped hk safe read⟩
      rcases Percent.mem_escaped safe k hmem with h | h | h
      · exact absurd h (by decide)
      · exact absurd h (by decide)
      · rw [hbrace] at h; exact absurd h (by simp)
  induction ss generalizing read with
  | nil => exact hliteral hread
  | cons s ss ih =>
      obtain ⟨hs, hrest⟩ := List.forall_mem_cons.mp hss
      cases s with
      | literal t => exact ih hrest (hread.append hs)
      | span s e =>
          obtain ⟨hspan, hparse, hreadable⟩ := hs
          rw [assemble, List.map_append, List.map_cons]
          intro u hu
          rcases List.mem_append.mp hu with hu | hu
          · exact hliteral hread u hu
          rcases List.mem_cons.mp hu with rfl | hu
          · exact ⟨Expression.isSpan_text hspan hparse, Expression.parse_text hreadable, hreadable⟩
          · exact ih hrest (isLiteral_nil k) u hu

end Reparse

end Segment

/-! ### Well-formed texts -/

/-- The tokens of the text that begin with a brace are closed spans which stand for expressions and
have no blank behind their first brace, and every percent sign of the other tokens begins an
escape. -/
structure Token.WellFormed (t : Text) : Prop where
  span : ∀ token ∈ Token.tokenize t, token.head? = some Token.openBrace → Token.IsSpan token ∧
    (∃ e, Expression.parse token = .ok (some e)) ∧
      ∀ c, token.tail.head? = some c → Text.isBlank c = false
  literal : ∀ token ∈ Token.tokenize t, token.head? ≠ some Token.openBrace →
    Percent.hasStray token = false

/-- Whether a text is well-formed, as a test of its tokens. -/
def Token.isWellFormed (t : Text) : Bool :=
  (Token.tokenize t).all fun token =>
    if token.head? == some Token.openBrace then
      Token.isSpan token && (Expression.parse token).toOption.any Option.isSome
        && token.tail.head?.all (!Text.isBlank ·)
    else !Percent.hasStray token

theorem Token.isWellFormed_iff {t : Text} : Token.isWellFormed t = true ↔ Token.WellFormed t := by
  have hparse : ∀ token, (Expression.parse token).toOption.any Option.isSome = true ↔
      ∃ e, Expression.parse token = .ok (some e) := by
    intro token
    cases Expression.parse token with
    | error e => simp [Except.toOption]
    | ok parsed => cases parsed <;> simp [Except.toOption]
  have hblank : ∀ token : Text, token.tail.head?.all (!Text.isBlank ·) = true ↔
      ∀ c, token.tail.head? = some c → Text.isBlank c = false := by
    intro token
    cases token.tail.head? <;> simp
  rw [Token.isWellFormed, List.all_eq_true]
  constructor
  · intro h
    refine ⟨fun token hmem hhead => ?_, fun token hmem hhead => ?_⟩
    · have htoken := h token hmem
      rw [if_pos (beq_iff_eq.mpr hhead)] at htoken
      simp only [Bool.and_eq_true, Token.isSpan_iff, hparse, hblank] at htoken
      exact ⟨htoken.1.1, htoken.1.2, htoken.2⟩
    · have htoken := h token hmem
      rw [if_neg (by simpa using hhead)] at htoken
      simpa using htoken
  · intro h token hmem
    by_cases hhead : token.head? = some Token.openBrace
    · obtain ⟨hspan, hexpression, hsecond⟩ := h.span token hmem hhead
      rw [if_pos (beq_iff_eq.mpr hhead)]
      simp only [Bool.and_eq_true, Token.isSpan_iff, hparse, hblank]
      exact ⟨⟨hspan, hexpression⟩, hsecond⟩
    · rw [if_neg (by simpa using hhead), h.literal token hmem hhead]
      rfl

instance (t : Text) : Decidable (Token.WellFormed t) :=
  decidable_of_iff _ Token.isWellFormed_iff

/-- A well-formed text is made of sound segments. -/
theorem Segment.exists_of_wellFormed {k : Codec} {t : Text} (h : Token.WellFormed t)
    (ht : k.Encodes t) : ∃ ss, Segment.textOf ss = t ∧ ∀ s ∈ ss, s.IsSound k := by
  have htoken : ∀ token ∈ Token.tokenize t, ∃ s : Segment, s.text = token ∧ s.IsSound k := by
    intro token hmem
    have hencodes : k.Encodes token := fun c hc => ht c <| by
      rw [← Token.flatten_tokenize t]
      exact List.mem_flatten.mpr ⟨token, hmem, hc⟩
    by_cases hhead : token.head? = some Token.openBrace
    · obtain ⟨hspan, ⟨e, he⟩, hblank⟩ := h.span token hmem hhead
      exact ⟨.span token e, rfl, hspan, he, Expression.isReadable_of_parse he hblank⟩
    · exact ⟨.literal token, rfl, (Token.mem_tokenize hmem).resolve_left hhead,
        h.literal token hmem hhead, hencodes⟩
  have hlist : ∀ tokens : List Text,
      (∀ token ∈ tokens, ∃ s : Segment, s.text = token ∧ s.IsSound k) →
        ∃ ss, Segment.textOf ss = tokens.flatten ∧ ∀ s ∈ ss, s.IsSound k := by
    intro tokens
    induction tokens with
    | nil => exact fun _ => ⟨[], rfl, by simp⟩
    | cons token tokens ih =>
        intro hall
        obtain ⟨⟨s, hs, hsound⟩, htokens⟩ := List.forall_mem_cons.mp hall
        obtain ⟨ss, hss, hsounds⟩ := ih htokens
        refine ⟨s :: ss, ?_, List.forall_mem_cons.mpr ⟨hsound, hsounds⟩⟩
        rw [Segment.textOf_cons, hs, hss, List.flatten_cons]
  obtain ⟨ss, hss, hsounds⟩ := hlist _ htoken
  exact ⟨ss, hss.trans (Token.flatten_tokenize t), hsounds⟩

end HttpTemplates
