import HttpTemplates.Proofs.Template.Expansion
import HttpTemplates.Proofs.Template.Rendering
import HttpTemplates.Template.Uri

/-!
# Delimiters in an expansion

Where the delimiters of an expanded URI template come from. A rendered value of whatever kind holds
plain characters, commas and equals signs only, and decoding the slashes adds slashes. So every other
delimiter stands in a literal, **in an expression that has no value and is kept as text**, or in a text
in disguise (`Template.mem_expand_iff`).

Literals of a URI template hold the delimiters that a path or a query string keeps
(`UriTemplate.isDisguised_of_mem_literals`). The text of an expression is encoded by another rule,
which keeps all of them (`Template.keeps_iff`).
-/

namespace HttpTemplates

open Percent (isPlain IsDisguised Discerns DiscernsAscii)

/-! ### What an expansion shows -/

namespace Template

/-- Some expression without a value is kept as a text with this character. -/
def Keeps (t : Template) (vars : Variables) (x : Char) : Prop :=
  ∃ e ∈ t.expressions, (vars.get e.name).isNull = true ∧
    ∃ w, t.settings.encodeLiteral e.text = .ok w ∧ x ∈ w

/-- Some text that was encoded for the expansion was in disguise and holds this character: a
literal, an expression that is kept, or a part of a value. -/
inductive Leaks (t : Template) (vars : Variables) (x : Char) : Prop
  /-- In a literal. -/
  | literal {l : Text} (hl : l ∈ t.literals) (hd : IsDisguised t.settings.charset l) (hx : x ∈ l)
  /-- In an expression without a value. -/
  | kept {e : Expression} (he : e ∈ t.expressions) (hnull : (vars.get e.name).isNull = true)
      (hd : IsDisguised t.settings.charset e.text) (hx : x ∈ e.text)
  /-- In a value. -/
  | value {e : Expression} (he : e ∈ t.expressions) (hbound : (vars.get e.name).isNull = false)
      (hv : (vars.get e.name).Leaks t.settings.charset x)

theorem not_leaks_of_discerns {t : Template} {vars : Variables} {x : Char}
    (hc : Discerns t.settings.charset) : ¬ t.Leaks vars x := by
  rintro (⟨-, hd, -⟩ | ⟨-, -, hd, -⟩ | ⟨-, -, hv⟩)
  · exact hc _ hd
  · exact hc _ hd
  · exact Value.not_leaks_of_discerns hc _ hv

theorem Leaks.isPlain_of_ascii {t : Template} {vars : Variables} {x : Char}
    (h : t.Leaks vars x) (hc : DiscernsAscii t.settings.charset) (hx : x.toNat < 0x80) :
    isPlain x = true := by
  obtain ⟨-, hd, hmem⟩ | ⟨-, -, hd, hmem⟩ | ⟨-, -, hv⟩ := h
  · exact hc _ hd x hmem hx
  · exact hc _ hd x hmem hx
  · exact Value.isPlain_of_leaks hc hv hx

/-- What a chunk shows apart from what values are rendered to: a literal all of it, an expression
without a value what is kept of it, and one with a value what this leaks. -/
def ChunkShows (s : Settings) (vars : Variables) (x : Char) : Chunk → Prop
  | .literal t _ => x ∈ t
  | .expression e =>
    if (vars.get e.name).isNull then ∃ w, s.encodeLiteral e.text = .ok w ∧ x ∈ w
    else (vars.get e.name).Leaks s.charset x

variable {s : Settings} {vars : Variables} {x : Char}

section Expand

variable (hkeep : s.keepUnresolved = true) (hencode : s.encode = true)
variable (hrendered : Expression.isRendered x = false) (hslash : x ≠ '/')

include hkeep hencode hrendered hslash

theorem mem_expandChunk_iff {c : Chunk} {w : Text} (h : expandChunk s vars c = .ok (some w)) :
    x ∈ w ↔ ChunkShows s vars x c := by
  cases c with
  | literal t ht =>
      obtain rfl : t = w := Option.some.inj (Except.ok.inj h)
      exact Iff.rfl
  | expression e =>
      rw [expandChunk] at h
      cases hv : (vars.get e.name).isNull with
      | true =>
          rw [expandExpression_null hv, if_pos hkeep] at h
          obtain ⟨k, hk, hw⟩ := map_eq_ok_iff.mp h
          obtain rfl : k = w := Option.some.inj hw
          simp [ChunkShows, hv, hk]
      | false =>
          obtain ⟨k, hk, hw⟩ := (expandExpression_eq_ok_iff hv).mp h
          rw [hencode] at hk
          have hvalue := Expression.mem_render_iff hrendered (Expression.expand_eq_ok_iff.mp hk).1
          have hplain := (Expression.isRendered_eq_false_iff.mp hrendered).1
          rw [ChunkShows, hv, if_neg (by simp), ← hvalue, Option.some.inj hw]
          split
          · exact Iff.rfl
          · exact ⟨fun hx => (mem_decodeSlashes hx).resolve_right hslash,
              mem_decodeSlashes_of_mem hplain⟩

theorem mem_flatten_iff {cs : List Chunk} {ws : List Text}
    (h : List.Forall₂ (fun c w => expandChunk s vars c = .ok (some w)) cs ws) :
    x ∈ ws.flatten ↔ ∃ c ∈ cs, ChunkShows s vars x c := by
  induction h with
  | nil => simp
  | cons hc _ ih =>
      rw [List.flatten_cons, List.mem_append, ih,
        mem_expandChunk_iff hkeep hencode hrendered hslash hc, List.exists_mem_cons_iff]

end Expand

theorem mem_literals_iff {t : Template} {l : Text} :
    l ∈ t.literals ↔ ∃ hne, .literal l hne ∈ t.chunks := by
  constructor
  · intro h
    obtain ⟨c, hc, hl⟩ := List.mem_filterMap.mp h
    cases c with
    | literal l' hne =>
        obtain rfl : l' = l := Option.some.inj hl
        exact ⟨hne, hc⟩
    | expression e => exact absurd hl (by simp [Chunk.literalText?])
  · rintro ⟨hne, hc⟩
    exact List.mem_filterMap.mpr ⟨_, hc, rfl⟩

theorem mem_expressions_iff {t : Template} {e : Expression} :
    e ∈ t.expressions ↔ .expression e ∈ t.chunks := by
  constructor
  · intro h
    obtain ⟨c, hc, he⟩ := List.mem_filterMap.mp h
    cases c with
    | literal l _ => exact absurd he (by simp [Chunk.expression?])
    | expression e' =>
        obtain rfl : e' = e := Option.some.inj he
        exact hc
  · intro h
    exact List.mem_filterMap.mpr ⟨_, h, rfl⟩

theorem exists_chunkShows_iff {t : Template} (hencode : t.settings.encode = true) :
    (∃ c ∈ t.chunks, ChunkShows t.settings vars x c) ↔
      (∃ l ∈ t.literals, x ∈ l) ∨ t.Keeps vars x ∨ t.Leaks vars x := by
  constructor
  · rintro ⟨c, hc, hshows⟩
    cases c with
    | literal l hl => exact Or.inl ⟨l, mem_literals_iff.mpr ⟨hl, hc⟩, hshows⟩
    | expression e =>
        have he : e ∈ t.expressions := mem_expressions_iff.mpr hc
        cases hv : (vars.get e.name).isNull with
        | true => exact Or.inr (Or.inl ⟨e, he, hv, by simpa [ChunkShows, hv] using hshows⟩)
        | false =>
            exact Or.inr (Or.inr (.value he hv (by simpa [ChunkShows, hv] using hshows)))
  · have hexpression : ∀ {e}, e ∈ t.expressions → ChunkShows t.settings vars x (.expression e) →
        ∃ c ∈ t.chunks, ChunkShows t.settings vars x c := fun he hshows =>
      ⟨_, mem_expressions_iff.mp he, hshows⟩
    have hliteral : ∀ {l}, l ∈ t.literals → x ∈ l →
        ∃ c ∈ t.chunks, ChunkShows t.settings vars x c := fun hl hx => by
      obtain ⟨hne, hc⟩ := mem_literals_iff.mp hl
      exact ⟨_, hc, hx⟩
    rintro (⟨l, hl, hx⟩ | ⟨e, he, hv, hkept⟩ | hleaks)
    · exact hliteral hl hx
    · exact hexpression he (by simpa [ChunkShows, hv] using hkept)
    · cases hleaks with
      | literal hl _ hx => exact hliteral hl hx
      | @kept e he hnull hd hx =>
          -- A text in disguise is kept as it is.
          have hkept : t.settings.encodeLiteral e.text = .ok e.text := by
            rw [Settings.encodeLiteral, if_pos hencode, Percent.encode,
              Percent.encodeUnlessEncoded, hd.1]
            rfl
          exact hexpression he (by simpa [ChunkShows, hnull, hkept] using hx)
      | value he hbound hv => exact hexpression he (by simpa [ChunkShows, hbound] using hv)

/-- **A delimiter that no rendered value holds stands in an expansion if and only if it stands in a
literal, in an expression that is kept as text, or in a text in disguise.** -/
theorem mem_expand_iff {t : Template} {w : Text} (hkeep : t.settings.keepUnresolved = true)
    (hencode : t.settings.encode = true) (hrendered : Expression.isRendered x = false)
    (hslash : x ≠ '/') (h : t.expand vars = .ok (some w)) :
    x ∈ w ↔ (∃ l ∈ t.literals, x ∈ l) ∨ t.Keeps vars x ∨ t.Leaks vars x := by
  obtain ⟨ws, hws, hw⟩ := expand_eq_ok_of_keepUnresolved hkeep h
  rw [Option.some.inj hw, mem_flatten_iff hkeep hencode hrendered hslash hws,
    exists_chunkShows_iff hencode]

/-- The text of an expression is kept with all of its delimiters. -/
theorem mem_encodeLiteral_iff {k : Codec} (hc : s.charset.codec = .ok k)
    (hk : k.IsAsciiCompatible) (hencode : s.encode = true)
    (hkeeps : Percent.keeps Percent.isReserved x = true) (hplain : isPlain x = false)
    {t w : Text} (h : s.encodeLiteral t = .ok w) : x ∈ w ↔ x ∈ t := by
  rw [Settings.encodeLiteral, if_pos hencode] at h
  obtain ⟨test, -, h⟩ := bind_eq_ok_iff.mp h
  cases test with
  | true =>
      obtain rfl : t = w := Except.ok.inj h
      exact Iff.rfl
  | false =>
      obtain ⟨-, rfl⟩ := (Percent.encodeReserved_eq_ok_iff hc hk).mp h
      obtain ⟨hunreserved, hpercent⟩ : Percent.isUnreserved x = false ∧ x ≠ '%' := by
        simpa [isPlain] using hplain
      exact ⟨Percent.mem_of_mem_escaped _ k hk hunreserved hpercent,
        Percent.mem_escaped_of_mem _ k hk hkeeps⟩

/-- Expressions without a value can be kept if the expansion succeeds. -/
theorem exists_kept {t : Template} {out : Option Text} (hkeep : t.settings.keepUnresolved = true)
    (h : t.expand vars = .ok out) {e : Expression} (he : e ∈ t.expressions)
    (hv : (vars.get e.name).isNull = true) : ∃ w, t.settings.encodeLiteral e.text = .ok w := by
  obtain ⟨ws, hws, -⟩ := expand_eq_ok_of_keepUnresolved hkeep h
  have hall : ∀ c ∈ t.chunks, ∃ w, expandChunk t.settings vars c = .ok (some w) := by
    generalize t.chunks = cs at hws
    induction hws with
    | nil => simp
    | cons hc _ ih => exact List.forall_mem_cons.mpr ⟨⟨_, hc⟩, ih⟩
  obtain ⟨c, hc, hexpression⟩ := List.mem_filterMap.mp he
  obtain ⟨w, hw⟩ := hall c hc
  cases c with
  | literal l _ => exact absurd hexpression (by simp [Chunk.expression?])
  | expression e' =>
      obtain rfl : e' = e := Option.some.inj hexpression
      rw [expandChunk, expandExpression_null hv, if_pos hkeep] at hw
      obtain ⟨k, hk, -⟩ := map_eq_ok_iff.mp hw
      exact ⟨k, hk⟩

/-- **The delimiters that are kept in the text of expressions are those that stand in it.** -/
theorem keeps_iff {t : Template} {out : Option Text} (hc : t.settings.charset.IsAsciiCompatible)
    (hkeep : t.settings.keepUnresolved = true) (hencode : t.settings.encode = true)
    (hkeeps : Percent.keeps Percent.isReserved x = true) (hplain : isPlain x = false)
    (h : t.expand vars = .ok out) :
    t.Keeps vars x ↔ ∃ e ∈ t.expressions, (vars.get e.name).isNull = true ∧ x ∈ e.text := by
  obtain ⟨k, hcodec, hk⟩ := hc
  constructor
  · rintro ⟨e, he, hv, w, hw, hx⟩
    exact ⟨e, he, hv, (mem_encodeLiteral_iff hcodec hk hencode hkeeps hplain hw).mp hx⟩
  · rintro ⟨e, he, hv, hx⟩
    obtain ⟨w, hw⟩ := exists_kept hkeep h he hv
    exact ⟨e, he, hv, w, hw, (mem_encodeLiteral_iff hcodec hk hencode hkeeps hplain hw).mpr hx⟩

/-- A literal chunk is the encoded text of a token. -/
theorem exists_token_of_literal {encodeLiteral : Text → Except Error Text} {tokens : List Text}
    {cs : List Chunk} (h : chunksOfTokens encodeLiteral tokens = .ok cs) :
    ∀ l ∈ cs.filterMap Chunk.literalText?, ∃ token, encodeLiteral token = .ok l := by
  induction tokens generalizing cs with
  | nil =>
      rw [← Except.ok.inj h]
      simp
  | cons token tokens ih =>
      obtain ⟨head, hhead, h⟩ := bind_eq_ok_iff.mp h
      obtain ⟨tail, htail, h⟩ := bind_eq_ok_iff.mp h
      rw [← Except.ok.inj h]
      intro l hl
      rw [List.filterMap_append] at hl
      rcases List.mem_append.mp hl with hl | hl
      · obtain ⟨e, -, hhead⟩ := bind_eq_ok_iff.mp hhead
        cases e with
        | some e =>
            rw [← Except.ok.inj hhead] at hl
            exact absurd hl (by simp [Chunk.literalText?])
        | none =>
            obtain ⟨w, hw, hhead⟩ := bind_eq_ok_iff.mp hhead
            rw [← Except.ok.inj hhead] at hl
            by_cases hnil : w = []
            · exact absurd hl (by simp [Chunk.literal?, hnil])
            · obtain rfl : l = w := by simpa [Chunk.literal?, hnil, Chunk.literalText?] using hl
              exact ⟨token, hw⟩
      · exact ih htail l hl

end Template

namespace UriTemplate

variable {source : Text} {c : Charset} {encodeSlash : Bool} {u : UriTemplate}

/-- A literal of a URI template is text that was encoded as a path or as a query string. -/
theorem exists_encoded_of_literal (h : create source c encodeSlash = .ok u) :
    ∀ l ∈ u.base.literals, ∃ token,
      Percent.pathEncode c.orUtf8 token = .ok l ∨ Percent.queryEncode c.orUtf8 token = .ok l := by
  obtain ⟨cs, hcs, h⟩ := bind_eq_ok_iff.mp h
  rw [← Except.ok.inj h]
  obtain ⟨delimiter, -, hcs⟩ := bind_eq_ok_iff.mp hcs
  cases delimiter with
  | none =>
      intro l hl
      obtain ⟨token, htoken⟩ := Template.exists_token_of_literal hcs l hl
      exact ⟨token, Or.inl htoken⟩
  | some i =>
      obtain ⟨path, hpath, hcs⟩ := bind_eq_ok_iff.mp hcs
      obtain ⟨query, hquery, hcs⟩ := bind_eq_ok_iff.mp hcs
      intro l hl
      rw [Template.literals, ← Except.ok.inj hcs, List.filterMap_append] at hl
      rcases List.mem_append.mp hl with hl | hl
      · obtain ⟨token, htoken⟩ := Template.exists_token_of_literal hpath l hl
        exact ⟨token, Or.inl htoken⟩
      · obtain ⟨token, htoken⟩ := Template.exists_token_of_literal hquery l hl
        exact ⟨token, Or.inr htoken⟩

/-- A delimiter that neither a path nor a query string keeps stands in no literal, unless this is in
disguise. -/
theorem isDisguised_of_mem_literals {x : Char} (hplain : isPlain x = false)
    (hpath : Percent.isPathSafe x = false) (hquery : Percent.isQuerySafe x = false)
    (h : create source c encodeSlash = .ok u) :
    ∀ l ∈ u.base.literals, x ∈ l → IsDisguised c.orUtf8 l := by
  have hencoded : ∀ {safe : Char → Bool} {t w : Text}, safe x = false →
      Percent.encodeUnlessEncoded safe c.orUtf8 t = .ok w → x ∈ w → IsDisguised c.orUtf8 w := by
    intro safe t w hsafe hw hx
    obtain ⟨hd, -⟩ := (Percent.mem_encodeUnlessEncoded_iff hw hplain hsafe).mp hx
    rwa [Percent.eq_of_isDisguised hw hd]
  intro l hl
  obtain ⟨token, htoken | htoken⟩ := exists_encoded_of_literal h l hl
  · exact hencoded hpath htoken
  · exact hencoded hquery htoken

end UriTemplate

end HttpTemplates
