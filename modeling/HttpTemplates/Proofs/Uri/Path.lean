import HttpTemplates.Proofs.Uri.Append
import HttpTemplates.Request.Template

/-!
# Paths that are parsed again

The path of a request template is written out and parsed again whenever something is appended to it
or its slash setting is changed. **A well-formed path survives this** (`create_toText`): its chunks
are those of sound segments without a question mark outside expressions (`IsParsedPath`), and so is
what they are written as (`IsParsedPath.exists_segments`).

Well-formedness is a condition on the text alone. That its literals have bytes in the charset is not
assumed but follows from the path having been parsed (`isSound_of_parseFragment`), so the lemmas
speak of segments that are sound in UTF-8, in which all literals have bytes.
-/

namespace HttpTemplates

theorem Percent.encodes_of_encodeUnlessEncoded {safe : Char → Bool} {c : Charset} {k : Codec}
    (hc : c.codec = .ok k) (hk : k.IsAsciiCompatible) {t w : Text}
    (h : encodeUnlessEncoded safe c t = .ok w) : k.Encodes t := by
  obtain ⟨test, htest, -⟩ := bind_eq_ok_iff.mp h
  obtain ⟨bytes, hbytes, -⟩ := bind_eq_ok_iff.mp htest
  exact ((Charset.encode_eq_ok_iff hc hk).mp hbytes).1

/-! ### Soundness in two charsets -/

namespace Segment

open Template (chunksOfTokens)
open Token (scan flush)

variable {j k : Codec}

theorem IsLiteral.of_encodes {t : Text} (h : IsLiteral j t) (ht : k.Encodes t) : IsLiteral k t :=
  ⟨h.no_brace, h.no_stray, ht⟩

/-- In UTF-8 all literals have bytes. -/
theorem IsSound.utf8 {s : Segment} (h : s.IsSound k) : s.IsSound Coding.utf8.codec := by
  cases s with
  | literal t => exact IsLiteral.of_encodes h (Codec.encodes_utf8 t)
  | span s e => exact h

section Parse

variable {encodeLiteral : Text → Except Error Text}
variable (henc : ∀ t w, encodeLiteral t = .ok w → k.Encodes t)

include henc

/-- Literal text in front of tokens is encoded when they are parsed. -/
theorem encodes_of_chunksOfTokens_flush {read : Text} (hread : IsLiteral j read) {ts : List Text}
    {cs : List Chunk} (h : chunksOfTokens encodeLiteral (flush read.reverse ++ ts) = .ok cs) :
    k.Encodes read ∧ ∃ ds, chunksOfTokens encodeLiteral ts = .ok ds := by
  by_cases hr : read = []
  · subst hr
    exact ⟨Codec.encodes_nil k, cs, h⟩
  · rw [flush, if_neg (by simpa using hr), List.reverse_reverse, List.singleton_append] at h
    obtain ⟨head, hhead, h⟩ := bind_eq_ok_iff.mp h
    obtain ⟨tail, htail, -⟩ := bind_eq_ok_iff.mp h
    rw [Template.chunksOfToken, hread.parse_eq, bind_ok] at hhead
    obtain ⟨w, hw, -⟩ := bind_eq_ok_iff.mp hhead
    exact ⟨henc read w hw, tail, htail⟩

/-- The literals of segments that were scanned and parsed have bytes. -/
theorem isSound_of_chunksOfTokens {ss : List Segment} (hss : ∀ s ∈ ss, s.IsSound j) {read : Text}
    (hread : IsLiteral j read) {cs : List Chunk}
    (h : chunksOfTokens encodeLiteral (scan .outside read.reverse (textOf ss)) = .ok cs) :
    k.Encodes read ∧ ∀ s ∈ ss, s.IsSound k := by
  induction ss generalizing read cs with
  | nil =>
      have hflush : chunksOfTokens encodeLiteral (flush read.reverse ++ []) = .ok cs := by
        rw [List.append_nil]
        exact h
      exact ⟨(encodes_of_chunksOfTokens_flush henc hread hflush).1, by simp⟩
  | cons s ss ih =>
      obtain ⟨hs, hrest⟩ := List.forall_mem_cons.mp hss
      cases s with
      | literal t =>
          rw [textOf_cons, text, Token.scan_literal hs.no_brace, ← List.reverse_append] at h
          obtain ⟨hboth, hsound⟩ := ih hrest (hread.append hs) h
          obtain ⟨hencodes, ht⟩ := Codec.encodes_append.mp hboth
          exact ⟨hencodes, List.forall_mem_cons.mpr ⟨hs.of_encodes ht, hsound⟩⟩
      | span s e =>
          obtain ⟨hspan, hparse, hreadable⟩ := hs
          rw [textOf_cons, text, Token.scan_span hspan] at h
          obtain ⟨hencodes, ds, hds⟩ := encodes_of_chunksOfTokens_flush henc hread h
          obtain ⟨head, -, hds⟩ := bind_eq_ok_iff.mp hds
          obtain ⟨tail, htail, -⟩ := bind_eq_ok_iff.mp hds
          obtain ⟨-, hsound⟩ := ih hrest (isLiteral_nil j) htail
          exact ⟨hencodes, List.forall_mem_cons.mpr ⟨⟨hspan, hparse, hreadable⟩, hsound⟩⟩

/-- **Segments that were parsed in a charset are sound in it.** -/
theorem isSound_of_parseFragment {ss : List Segment} (hss : ∀ s ∈ ss, s.IsSound j)
    {cs : List Chunk} (h : Template.parseFragment encodeLiteral (textOf ss) = .ok cs) :
    ∀ s ∈ ss, s.IsSound k :=
  (isSound_of_chunksOfTokens henc hss (isLiteral_nil j) h).2

end Parse

theorem divide_of_isPath {ss : List Segment} (h : IsPath ss) : divide ss = (ss, []) := by
  have hdivide := divide_append_of_isPath h []
  rwa [List.append_nil, divide, List.append_nil] at hdivide

end Segment

namespace UriTemplate

open Segment (IsPath textOf divide assemble ofChunk)
open Percent (escaped isPathSafe)

variable {k : Codec}

theorem chunksOf_of_isPath {ss : List Segment} (h : IsPath ss) :
    chunksOf k ss = assemble (escaped isPathSafe k) [] ss := by
  rw [chunksOf, Segment.divide_of_isPath h, assemble_nil _ rfl, List.append_nil]

/-! ### Parsed paths -/

/-- The chunks are those of sound segments without a question mark outside expressions. -/
def IsParsedPath (k : Codec) (cs : List Chunk) : Prop :=
  ∃ ss, IsPath ss ∧ (∀ s ∈ ss, s.IsSound k) ∧ cs = chunksOf k ss

theorem isParsedPath_nil (k : Codec) : IsParsedPath k [] :=
  ⟨[], Segment.isPath_nil, by simp, rfl⟩

/-- The path of a well-formed text is made of segments that are sound in UTF-8. -/
theorem exists_of_splitQuery {text path line : Text} (h : Token.WellFormed text)
    (hsplit : RequestTemplate.splitQuery text = .ok (path, line)) :
    ∃ ps, textOf ps = path ∧ IsPath ps ∧ ∀ s ∈ ps, s.IsSound Coding.utf8.codec := by
  obtain ⟨ss, rfl, hss⟩ := Segment.exists_of_wellFormed h (Codec.encodes_utf8 text)
  have hleft := (Segment.isSound_divide hss).1
  rw [RequestTemplate.splitQuery, queryDelimiter?_textOf hss, bind_ok] at hsplit
  rcases Segment.divide_cases ss with ⟨hpath, hdivide⟩ | ⟨p, t, us, hdivide, hpath⟩
  · rw [hdivide, if_pos rfl] at hsplit
    obtain ⟨rfl, -⟩ : textOf ss = path ∧ [] = line := by simpa using hsplit
    exact ⟨ss, rfl, hpath, hss⟩
  · rw [hdivide] at hleft
    rw [hdivide, if_neg (by simp)] at hsplit
    obtain ⟨rfl, -⟩ : (textOf ss).take (textOf p).length = path ∧ _ = line := by simpa using hsplit
    refine ⟨p, ?_, hpath, hleft⟩
    have htext := Segment.textOf_divide ss
    rw [hdivide] at htext
    rw [← htext]
    exact List.take_left.symm

section AsciiCompatible

variable {c : Charset} (hc : c.orUtf8.codec = .ok k) (hk : k.IsAsciiCompatible)

include hc hk

/-- The segments of a path that was parsed are sound. -/
theorem isSound_of_create {encodeSlash : Bool} {ss : List Segment} {u : UriTemplate}
    (hss : ∀ s ∈ ss, s.IsSound Coding.utf8.codec) (hpath : IsPath ss)
    (h : create (textOf ss) c encodeSlash = .ok u) : ∀ s ∈ ss, s.IsSound k := by
  obtain ⟨cs, hcs, -⟩ := bind_eq_ok_iff.mp h
  have hnone : queryDelimiter? (textOf ss) = .ok none := by
    rw [queryDelimiter?_textOf hss, Segment.divide_of_isPath hpath, if_pos rfl]
  have hcs : Template.parseFragment (Percent.pathEncode c.orUtf8) (textOf ss) = .ok cs := by
    rw [parseChunks, hnone] at hcs
    exact hcs
  exact Segment.isSound_of_parseFragment
    (fun t w hw => Percent.encodes_of_encodeUnlessEncoded hc hk hw) hss hcs

/-- Parsing a path gives the chunks of a path. -/
theorem isParsedPath_create {encodeSlash : Bool} {ss : List Segment} {u : UriTemplate}
    (hss : ∀ s ∈ ss, s.IsSound Coding.utf8.codec) (hpath : IsPath ss)
    (h : create (textOf ss) c encodeSlash = .ok u) : IsParsedPath k u.base.chunks := by
  have hsound := isSound_of_create hc hk hss hpath h
  obtain ⟨cs, hcs, h⟩ := bind_eq_ok_iff.mp h
  have hchunks : parseChunks c.orUtf8 (textOf ss) = .ok (chunksOf k ss) :=
    parseChunks_textOf hc hk hsound
  have hcs : parseChunks c.orUtf8 (textOf ss) = .ok cs := hcs
  obtain rfl : chunksOf k ss = cs := Except.ok.inj (hchunks.symm.trans hcs)
  rw [← Except.ok.inj h]
  exact ⟨ss, hpath, hsound, rfl⟩

omit hc in
/-- A parsed path is written as a path of sound segments. -/
theorem IsParsedPath.exists_segments {cs : List Chunk} (h : IsParsedPath k cs) :
    ∃ ws, textOf ws = Template.textOfChunks cs ∧ IsPath ws ∧ ∀ s ∈ ws, s.IsSound k := by
  obtain ⟨ss, hpath, hss, rfl⟩ := h
  refine ⟨(chunksOf k ss).map ofChunk, Segment.textOf_map_ofChunk _, ?_, isSound_chunksOf hk hss⟩
  rw [chunksOf_of_isPath hpath]
  exact isPath_ofChunk hk hpath (by simp)

omit hc in
/-- No literal of a parsed path holds a question mark. -/
theorem IsParsedPath.mark_notMem {cs : List Chunk} (h : IsParsedPath k cs) :
    ∀ l ∈ cs.filterMap Chunk.literalText?, '?' ∉ l := by
  obtain ⟨ss, hpath, -, rfl⟩ := h
  have hwritten : IsPath ((chunksOf k ss).map ofChunk) := by
    rw [chunksOf_of_isPath hpath]
    exact isPath_ofChunk hk hpath (by simp)
  intro l hl
  obtain ⟨chunk, hchunk, hl⟩ := List.mem_filterMap.mp hl
  refine hwritten l (List.mem_map.mpr ⟨chunk, hchunk, ?_⟩)
  cases chunk with
  | literal l' _ =>
      obtain rfl : l' = l := Option.some.inj hl
      rfl
  | expression e => exact absurd hl (by simp [Chunk.literalText?])

/-- **A parsed path may be written out and parsed again**, with whatever slash setting: it has the
same chunks. -/
theorem create_toText {u : UriTemplate} (h : IsParsedPath k u.base.chunks) (encodeSlash : Bool) :
    create u.toText c encodeSlash
      = .ok ⟨⟨u.toText, settings c encodeSlash, u.base.chunks⟩⟩ := by
  obtain ⟨ss, hpath, hss, hchunks⟩ := h
  have hwritten : u.toText = textOf ((chunksOf k ss).map ofChunk) := by
    rw [Segment.textOf_map_ofChunk, ← hchunks]
    rfl
  have hagain : chunksOf k ((chunksOf k ss).map ofChunk) = chunksOf k ss := by
    simpa using chunksOf_reparse hk hss []
  have hparse : parseChunks c.orUtf8 u.toText = .ok u.base.chunks := by
    rw [hwritten, parseChunks_textOf hc hk (isSound_chunksOf hk hss), hagain, hchunks]
  have hsettings : (settings c encodeSlash).charset = c.orUtf8 := rfl
  simp only [create, hsettings, hparse, bind_ok]

end AsciiCompatible

end UriTemplate

end HttpTemplates
