import HttpTemplates.Proofs.Percent.RoundTrip
import HttpTemplates.Proofs.Query.Entries
import HttpTemplates.Proofs.Query.Literal

/-!
# Pure parameters

A parameter without values is its name, and so is an exploded one whose only entry is nothing. But
joining encodes the name as a part of a query string, and a pure parameter gives what the template of
its name expands to, in which all delimiters of URIs are kept. **The two agree if each delimiter in the
name is one that a part of a query string keeps, and only then** (`QueryTemplate.expand_pure_iff`).
With other delimiters the pure one is read as a stretch of a query string: cut at its ampersands and
equals signs, with spaces for its plus signs.

Encoding goes character by character. So splitting a text that was encoded with its delimiters kept
gives what was split before it was encoded (`Percent.pieces_quote` and `Percent.cut_quote`).
-/

namespace HttpTemplates

/-! ### Delimiters that are kept -/

namespace Percent

/-- The delimiters of URIs. -/
theorem isReserved_iff {x : Char} : isReserved x = true ↔ x ∈ ":/?#[]@!$&\x27()*+,;=".toList := by
  simp [isReserved, isGeneralDelimiter, isSubDelimiter, or_assoc]

/-- A delimiter is a character of ASCII that is encoded unless it is safe. -/
theorem delimiter_spec {x : Char} (h : isReserved x = true) :
    isUnreserved x = false ∧ x ≠ '%' ∧ x.toNat < 0x80 := by
  have hall : (":/?#[]@!$&\x27()*+,;=".toList.all fun x =>
      !isUnreserved x && x ≠ '%' && x.toNat < 0x80) = true := by decide
  simpa [and_assoc] using List.all_eq_true.mp hall x (isReserved_iff.mp h)

theorem isReserved_of_isQueryParamSafe {x : Char} (h : isQueryParamSafe x = true) :
    isReserved x = true := by
  simp only [isQueryParamSafe, isReserved, isGeneralDelimiter] at h ⊢
  grind

/-- The delimiters in an encoded part of a query string are those that it keeps. -/
theorem isQueryParamSafe_of_mem_quote {bytes : Bytes} {x : Char} (hx : isReserved x = true)
    (h : x ∈ quote isQueryParamSafe bytes) : isQueryParamSafe x = true := by
  obtain ⟨hunreserved, hpercent, -⟩ := delimiter_spec hx
  rcases mem_quote h with h | h | h
  · rw [hunreserved] at h; exact absurd h (by simp)
  · exact absurd h hpercent
  · exact h

section Kept

variable {k : Codec} (hk : k.IsAsciiCompatible) {safe : Char → Bool}

include hk

/-- Two encodings of a text are the same if they keep the same of its characters. -/
theorem quote_congr {safe' : Char → Bool} {t : Text} (h : ∀ x ∈ t, keeps safe x = keeps safe' x) :
    quote safe (k.textBytes t) = quote safe' (k.textBytes t) := by
  induction t with
  | nil => rfl
  | cons x t ih =>
      obtain ⟨hx, ht⟩ := List.forall_mem_cons.mp h
      rw [Codec.textBytes_cons, quote_append, quote_append, ih ht, ← quoteChar, ← quoteChar,
        quoteChar_eq hk, quoteChar_eq hk, hx]

theorem mem_quote_isReserved_iff {t : Text} {x : Char} (hx : isReserved x = true) :
    x ∈ quote isReserved (k.textBytes t) ↔ x ∈ t := by
  obtain ⟨hsep, hpercent, hascii⟩ := delimiter_spec hx
  exact mem_quote_textBytes_iff hk (keeps_iff.mpr ⟨hascii, Or.inr hx⟩) hsep hpercent

/-- Keeping all delimiters and keeping those of a part of a query string are the same for a text
with no other delimiters. -/
theorem quote_isReserved_eq_iff {t : Text} :
    quote isReserved (k.textBytes t) = quote isQueryParamSafe (k.textBytes t) ↔
      ∀ x ∈ t, isReserved x = true → isQueryParamSafe x = true := by
  constructor
  · intro heq x hx hreserved
    have hmem := (mem_quote_isReserved_iff hk hreserved).mpr hx
    rw [heq] at hmem
    exact isQueryParamSafe_of_mem_quote hreserved hmem
  · intro h
    refine quote_congr hk fun x hx => ?_
    by_cases hreserved : isReserved x = true
    · rw [keeps, keeps, hreserved, h x hx hreserved]
    · have hparam : isQueryParamSafe x = false :=
        Bool.eq_false_iff.mpr fun hparam => hreserved (isReserved_of_isQueryParamSafe hparam)
      rw [keeps, keeps, Bool.eq_false_iff.mpr hreserved, hparam]

end Kept

end Percent

open Percent (isReserved isQueryParamSafe quote plusToSpace decode)

/-! ### Reading -/

namespace CollectionFormat

/-- What a part of a query string says that is not encoded. -/
def readRaw (p : Text) : Except Error Text × Option (Except Error Text) :=
  readEntry (plusToSpace (Text.cut '=' p).1) ((Text.cut '=' p).2.map plusToSpace)

section Raw

variable {c : Charset} {k : Codec} (hc : c.codec = .ok k) (hk : k.IsAsciiCompatible)

include hc hk

theorem decode_quote_isReserved {t : Text} (ht : k.Encodes t) :
    decode c (quote isReserved (k.textBytes t)) = .ok (plusToSpace t) :=
  Percent.decode_quote_of_plus hk hc rfl rfl ht

theorem readPair_quote {p : Text} (hp : k.Encodes p) :
    readPair c (quote isReserved (k.textBytes p)) = readRaw p := by
  rw [readPair, Percent.cut_quote hk (by decide) (by decide) (by decide)]
  -- Both sides of the equals sign are parts of what is encoded.
  rw [Text.cut_eq '=' p, Codec.encodes_append] at hp
  rw [decode_quote_isReserved hc hk hp.1, readRaw]
  cases hv : (Text.cut '=' p).2 with
  | none => rfl
  | some v =>
      rw [hv] at hp
      have hv : k.Encodes v := fun x hx => hp.2 x (List.mem_cons_of_mem _ hx)
      simp only [Option.map_some, decode_quote_isReserved hc hk hv]
      rfl

/-- A name with its delimiters is read as a query string. -/
theorem readEntries_quote {name : Text} (hname : k.Encodes name) :
    readEntries c (quote isReserved (k.textBytes name)) = (Text.pieces '&' name).map readRaw := by
  rw [readEntries, Percent.pieces_quote hk (by decide) (by decide) (by decide), List.map_map]
  exact List.map_congr_left fun p hp =>
    readPair_quote hc hk fun x hx => hname x (Text.mem_of_mem_pieces hp x hx)

end Raw

end CollectionFormat

/-! ### Pure parameters -/

namespace QueryTemplate

open CollectionFormat (IsRaw exploded readEntries readEntry readRaw)

variable {c : Charset} {name : Text}

/-- A pure parameter with a literal as its name gives that literal. -/
theorem expand_pure_literal (source w : Text) (s : Template.Settings) (c : Charset)
    (f : CollectionFormat) (decodeSlash : Bool) (vars : Variables) :
    expand ⟨⟨source, s, (Chunk.literal? w).toList⟩, [], c, f, decodeSlash⟩ vars
      = .ok (some w) := by
  have hnames : Template.variableNames ⟨source, s, (Chunk.literal? w).toList⟩ = [] := by
    by_cases hw : w = []
    · subst hw
      rfl
    · simp [hw, Chunk.literal?, Template.variableNames, Template.expressions, Chunk.expression?]
  rw [expand, Template.expand_literal?, bind_ok]
  simp [isPure, nameUnresolved, hnames]

/-- **A pure parameter and an exploded one whose only entry is nothing.** In an ASCII-compatible
charset a raw name without braces gives both, whatever the variables are. They are the same text
exactly if the name has only delimiters that a part of a query string keeps. The pure one has the
delimiters of the name, decodes to the name with spaces for its plus signs and is read as the query
string that the name looks like. The exploded one has only delimiters that a part of a query string
keeps, decodes to the name and is read as one entry. -/
theorem expand_pure_iff (hc : c.IsAsciiCompatible) (hne : name ≠ [])
    (hbrace : Token.openBrace ∉ name) (hraw : IsRaw c name) (f : CollectionFormat)
    (decodeSlash : Bool) :
    ∃ q bare joined, create name [] c f decodeSlash = .ok q ∧
      (∀ vars, q.expand vars = .ok (some bare)) ∧ exploded.join name [none] c = .ok joined ∧
      (bare = joined ↔ ∀ x ∈ name, isReserved x = true → isQueryParamSafe x = true) ∧
      (∀ x, isReserved x = true → (x ∈ bare ↔ x ∈ name)) ∧
      decode c bare = .ok (plusToSpace name) ∧
      readEntries c bare = (Text.pieces '&' name).map readRaw ∧
      (∀ x ∈ joined, isReserved x = true → isQueryParamSafe x = true) ∧
      decode c joined = .ok name ∧ readEntries c joined = [readEntry name none] := by
  obtain ⟨k, hcodec, hk⟩ := hc
  have hencodes := (Charset.canEncode_iff hcodec hk).mp hraw.canEncode
  have hcreate : create name [] c f decodeSlash = .ok ⟨⟨name, nameSettings c,
      (Chunk.literal? (quote isReserved (k.textBytes name))).toList⟩, [], c, f, decodeSlash⟩ := by
    rw [create, if_neg hne, Charset.orUtf8_eq_self hcodec]
    simp only [Template.parse_literal hcodec hk (s := nameSettings c) rfl rfl hne hbrace
      hraw.noEscape hencodes, bind_ok]
    rfl
  -- The entry that is nothing is the encoded name.
  have hentries : CollectionFormat.AreRaw c name [none] := ⟨hraw, by simp, by simp⟩
  have hjoined : exploded.join name [none] c
      = .ok (quote isQueryParamSafe (k.textBytes name)) := by
    simpa [CollectionFormat.entryText] using CollectionFormat.join_exploded_eq_ok hcodec hk hentries
  have hread : readEntries c (quote isQueryParamSafe (k.textBytes name))
      = [readEntry name none] := by
    simpa [CollectionFormat.entryText] using
      CollectionFormat.readEntries_entryTexts hcodec hk hentries
  refine ⟨_, _, _, hcreate, expand_pure_literal _ _ _ c f decodeSlash, hjoined,
    Percent.quote_isReserved_eq_iff hk, fun x hx => Percent.mem_quote_isReserved_iff hk hx,
    CollectionFormat.decode_quote_isReserved hcodec hk hencodes,
    CollectionFormat.readEntries_quote hcodec hk hencodes,
    fun x hx hreserved => Percent.isQueryParamSafe_of_mem_quote hreserved hx,
    Percent.decode_quote hcodec hk rfl rfl hencodes, hread⟩

/-- A name that looks like two parameters is sent as two, and joined as one. -/
theorem expand_pure_sum : ∃ q bare joined, create "a&b=1+1" [] .utf8 .csv false = .ok q ∧
    q.expand .empty = .ok (some bare) ∧ exploded.join "a&b=1+1" [none] .utf8 = .ok joined ∧
    bare ≠ joined ∧
    readEntries .utf8 bare = [readEntry "a" none, readEntry "b" (some "1 1")] ∧
    readEntries .utf8 joined = [readEntry "a&b=1+1" none] := by
  have hraw : IsRaw .utf8 "a&b=1+1" := ⟨Charset.canEncode_utf8 _, by decide⟩
  obtain ⟨q, bare, joined, hcreate, hexpand, hjoin, hiff, -, -, hbare, -, -, hjoined⟩ :=
    expand_pure_iff Charset.isAsciiCompatible_utf8 (by decide) (by decide) hraw .csv false
  have hampersand : isQueryParamSafe '&' = false := by decide
  refine ⟨q, bare, joined, hcreate, hexpand _, hjoin, fun heq => ?_, hbare, hjoined⟩
  exact absurd (hiff.mp heq '&' (by decide) (by decide)) (by simp [hampersand])

/-- The ampersand in a name stays as it is in the one and is encoded in the other. -/
theorem not_expand_pure_eq_join : ¬ ∀ (c : Charset) (name : Text), c.IsAsciiCompatible → name ≠ [] →
    Token.openBrace ∉ name → Token.closeBrace ∉ name → IsRaw c name →
      ∃ q bare, create name [] c = .ok q ∧ q.expand .empty = .ok (some bare) ∧
        exploded.join name [none] c = .ok bare := by
  intro h
  obtain ⟨q, bare, hcreate, hexpand, hjoin⟩ := h .utf8 "a&b" Charset.isAsciiCompatible_utf8
    (by decide) (by decide) (by decide) ⟨Charset.canEncode_utf8 _, by decide⟩
  have hpure : (create "a&b" []).toOption.any
      (fun q => (q.expand .empty).toOption = some (some "a&b".toList)) = true := by
    decide +kernel
  have hjoined : (exploded.join "a&b" [none] .utf8).toOption = some "a%26b".toList := by
    decide +kernel
  rw [hcreate] at hpure
  have hbare := toOption_eq_some_iff.mp (of_decide_eq_true hpure)
  obtain rfl : "a&b".toList = bare := Option.some.inj (Except.ok.inj (hbare.symm.trans hexpand))
  exact absurd (Except.ok.inj (hjoin.symm.trans (toOption_eq_some_iff.mp hjoined))) (by decide)

end QueryTemplate

end HttpTemplates
