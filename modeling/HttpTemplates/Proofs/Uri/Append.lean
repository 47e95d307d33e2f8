import HttpTemplates.Proofs.Uri.Division

/-!
# Appending to a URI template

**Appending text to a URI template is parsing it behind the text of the template**
(`UriTemplate.append_chunks_eq`). A template that is appended to is written out with its literals
encoded and its expressions in their normal form, and the whole is parsed anew. Its segments are
divided and encoded as they were before, as long as the two texts are well-formed.
-/

namespace HttpTemplates

namespace UriTemplate

open Percent (escaped isPathSafe isQuerySafe)
open Segment (IsLiteral IsPath textOf divide assemble ofChunk)

variable {k : Codec} (hk : k.IsAsciiCompatible)

/-! ### Writing divided chunks out again -/

/-- A literal without text changes nothing at the end. -/
theorem assemble_append_empty (enc : Text → Text) (read : Text) (ss : List Segment) :
    assemble enc read (ss ++ [.literal []]) = assemble enc read ss := by
  induction ss generalizing read with
  | nil => simp [assemble]
  | cons s ss ih =>
      cases s with
      | literal t => exact ih (read ++ t)
      | span s e => rw [List.cons_append, assemble, assemble, ih]

section AsciiCompatible

include hk

/-- The chunks of a path hold no question mark. -/
theorem isPath_ofChunk {safe : Char → Bool} {ss : List Segment} (h : IsPath ss) {read : Text}
    (hread : '?' ∉ read) : IsPath ((assemble (escaped safe k) read ss).map ofChunk) := by
  have hliteral : ∀ {read : Text}, '?' ∉ read →
      IsPath ((Chunk.literal? (escaped safe k read)).toList.map ofChunk) := by
    intro read hread
    rw [Segment.map_ofChunk_literal?]
    split
    · exact Segment.isPath_nil
    · refine Segment.isPath_literal.mpr ⟨fun hmem => hread ?_, Segment.isPath_nil⟩
      exact Percent.mem_of_mem_escaped safe k hk (by decide) (by decide) hmem
  induction ss generalizing read with
  | nil => exact hliteral hread
  | cons s ss ih =>
      cases s with
      | literal t =>
          obtain ⟨ht, hss⟩ := Segment.isPath_literal.mp h
          exact ih hss (by simp [hread, ht])
      | span s e =>
          rw [assemble, List.map_append, List.map_cons, Segment.isPath_append]
          exact ⟨hliteral hread, Segment.isPath_span.mpr (ih (Segment.isPath_span.mp h) (by simp))⟩

/-- The first chunk of a query string begins with its question mark. -/
theorem assemble_mark (t : Text) (ss : List Segment) : ∃ w cs,
    (assemble (escaped isQuerySafe k) ('?' :: t) ss).map ofChunk = .literal ('?' :: w) :: cs := by
  have hliteral : ∀ t, (Chunk.literal? (escaped isQuerySafe k ('?' :: t))).toList.map ofChunk
      = [.literal ('?' :: escaped isQuerySafe k t)] := by
    intro t
    rw [Segment.map_ofChunk_literal?, Percent.escaped_cons_of_safe isQuerySafe k hk (by decide)
      (by decide) (by decide), if_neg (by simp)]
  induction ss generalizing t with
  | nil => exact ⟨_, [], hliteral t⟩
  | cons s ss ih =>
      cases s with
      | literal u => exact ih (t ++ u)
      | span s e =>
          rw [assemble, List.map_append, hliteral t]
          exact ⟨_, _, rfl⟩

/-- **Chunks may be written out and parsed again**, whatever follows them: they are divided where the
segments were. -/
theorem chunksOf_reparse {ss : List Segment} (hss : ∀ s ∈ ss, s.IsSound k) (ts : List Segment) :
    chunksOf k ((chunksOf k ss).map ofChunk ++ ts) = chunksOf k (ss ++ ts) := by
  obtain ⟨hleft, hright⟩ := Segment.isSound_divide hss
  have hpath : ∀ us, assemble (escaped isPathSafe k) []
      ((assemble (escaped isPathSafe k) [] (divide ss).1).map ofChunk ++ us)
        = assemble (escaped isPathSafe k) [] ((divide ss).1 ++ us) :=
    Segment.assemble_reparse hk (by decide) hleft (Segment.isLiteral_nil k)
  have hquery : ∀ us, assemble (escaped isQuerySafe k) []
      ((assemble (escaped isQuerySafe k) [] (divide ss).2).map ofChunk ++ us)
        = assemble (escaped isQuerySafe k) [] ((divide ss).2 ++ us) :=
    Segment.assemble_reparse hk (by decide) hright (Segment.isLiteral_nil k)
  have hwritten : ∀ {us}, IsPath us →
      IsPath ((assemble (escaped isPathSafe k) [] us).map ofChunk) := fun hus =>
    isPath_ofChunk hk hus (by simp)
  rcases Segment.divide_cases ss with ⟨hp, hdivide⟩ | ⟨p, t, us, hdivide, hp⟩
  · -- Without a question mark in front, `ts` is divided on its own.
    rw [hdivide] at hpath
    rw [chunksOf, chunksOf, chunksOf, hdivide, assemble_nil _ rfl, List.append_nil,
      Segment.divide_append_of_isPath (hwritten hp), hpath, Segment.divide_append_of_isPath hp]
  · -- Otherwise all of `ts` is behind the first question mark.
    obtain ⟨w, cs, hmark⟩ := assemble_mark hk t us
    have hdivided : divide (ss ++ ts) = ((divide ss).1, (divide ss).2 ++ ts) :=
      Segment.divide_append_of_mark (by rw [hdivide]; simp)
    rw [hdivide] at hpath hquery hdivided
    have hagain : ∀ vs, divide (.literal ('?' :: w) :: vs)
        = ([.literal []], .literal ('?' :: w) :: vs) :=
      Segment.divide_mark (p := []) (by simp) w
    have hrest := hquery ts
    rw [assemble, List.nil_append, hmark] at hrest
    rw [chunksOf, chunksOf, chunksOf, hdivided, hdivide, List.map_append, List.append_assoc,
      Segment.divide_append_of_isPath (hwritten hp), assemble, List.nil_append, hmark, List.cons_append,
      hagain, hpath, assemble_append_empty, ← List.cons_append, hrest]

/-- The chunks of sound segments are written as sound segments. -/
theorem isSound_chunksOf {ss : List Segment} (hss : ∀ s ∈ ss, s.IsSound k) :
    ∀ s ∈ (chunksOf k ss).map ofChunk, s.IsSound k := by
  obtain ⟨hleft, hright⟩ := Segment.isSound_divide hss
  intro s hs
  rw [chunksOf, List.map_append] at hs
  rcases List.mem_append.mp hs with hs | hs
  · exact Segment.isSound_ofChunk hk (by decide) (by decide) hleft (Segment.isLiteral_nil k) s hs
  · exact Segment.isSound_ofChunk hk (by decide) (by decide) hright (Segment.isLiteral_nil k) s hs

end AsciiCompatible

/-! ### Appending -/

/-- **Appending to a template gives the chunks of the two texts one after the other.** -/
theorem append_chunks_eq {c : Charset} (hc : c.IsAsciiCompatible) (encodeSlash : Bool)
    {u f : Text} (hu : Token.WellFormed u) (hf : Token.WellFormed f) (hencu : c.CanEncode u)
    (hencf : c.CanEncode f) : ∃ t t' t'', create u c encodeSlash = .ok t ∧ t.append f = .ok t' ∧
      create (u ++ f) c encodeSlash = .ok t'' ∧ t'.base.chunks = t''.base.chunks := by
  obtain ⟨k, hcodec, hk⟩ := hc
  obtain ⟨ss, rfl, hss⟩ := Segment.exists_of_wellFormed hu ((Charset.canEncode_iff hcodec hk).mp hencu)
  obtain ⟨ts, rfl, hts⟩ := Segment.exists_of_wellFormed hf ((Charset.canEncode_iff hcodec hk).mp hencf)
  have happend : ∀ s ∈ ss ++ ts, s.IsSound k := fun s hs =>
    (List.mem_append.mp hs).elim (hss s) (hts s)
  have hwritten : ∀ s ∈ (chunksOf k ss).map ofChunk ++ ts, s.IsSound k := fun s hs =>
    (List.mem_append.mp hs).elim (isSound_chunksOf hk hss s) (hts s)
  have hcreate := create_textOf hcodec hk hss encodeSlash
  have hboth := create_textOf hcodec hk happend encodeSlash
  have hagain : append ⟨⟨textOf ss, ⟨true, true, encodeSlash, c⟩, chunksOf k ss⟩⟩ (textOf ts)
      = create (textOf ((chunksOf k ss).map ofChunk ++ ts)) c encodeSlash := by
    rw [append, toText, Template.toText, ← Segment.textOf_map_ofChunk, ← Segment.textOf_append]
  rw [create_textOf hcodec hk hwritten encodeSlash] at hagain
  rw [Segment.textOf_append] at hboth
  exact ⟨_, _, _, hcreate, hagain, hboth, chunksOf_reparse hk hss ts⟩

/-- A path that is not encoded yet and a query string are put together. -/
theorem append_chunks_items : ∃ t t' t'',
    create "/all items/\x7bid\x7d" .utf8 true = .ok t ∧ t.append "?q=a b" = .ok t' ∧
      create ("/all items/\x7bid\x7d".toList ++ "?q=a b".toList) .utf8 true = .ok t'' ∧
        t'.base.chunks = t''.base.chunks := by
  have hid : Expression.IsPlainName "id" :=
    Expression.isPlainName_of_identifier (by decide) (by decide)
  have hu : Token.WellFormed "/all items/\x7bid\x7d" := by
    have htokens : Token.tokenize "/all items/\x7bid\x7d"
        = ["/all items/".toList, Expression.placeholder "id"] := by decide
    constructor
    · rw [htokens]
      intro token hmem hhead
      simp only [List.mem_cons, List.not_mem_nil, or_false] at hmem
      rcases hmem with rfl | rfl
      · exact absurd hhead (by decide)
      · refine ⟨Expression.isSpan_placeholder hid, ⟨_, Expression.parse_placeholder hid⟩, ?_⟩
        rintro c ⟨⟩
        decide
    · rw [htokens]
      intro token hmem hhead
      simp only [List.mem_cons, List.not_mem_nil, or_false] at hmem
      rcases hmem with rfl | rfl
      · decide
      · exact absurd rfl hhead
  have hf : Token.WellFormed "?q=a b" := by
    have htokens : Token.tokenize "?q=a b" = ["?q=a b".toList] := by decide
    constructor
    · rw [htokens]
      intro token hmem hhead
      rw [List.mem_singleton.mp hmem] at hhead
      exact absurd hhead (by decide)
    · rw [htokens]
      intro token hmem _
      rw [List.mem_singleton.mp hmem]
      decide
  exact append_chunks_eq Charset.isAsciiCompatible_utf8 true hu hf (Charset.canEncode_utf8 _)
    (Charset.canEncode_utf8 _)

end UriTemplate

end HttpTemplates
