import HttpTemplates.CollectionFormat
import HttpTemplates.Proofs.Percent.Decoding
import HttpTemplates.Proofs.Text.Splitting
import Mathlib.Data.List.Forall2

/-!
# Joined parameters

**Reading back what `CollectionFormat.join` writes.** A joined parameter is split at the ampersands
between its pairs and at the equals sign behind its name, and both sides of a pair are decoded. If
name and values were encoded with no more safe characters than those of a query parameter, no
delimiter is left in them, and the name and the values come back (`reads_joined`).
-/

namespace HttpTemplates.CollectionFormat

open Percent (queryParamEncode isQueryParamSafe isUnreserved keepsByte quoteByte quote decode
  noneSafe)

/-! ### Writing -/

/-- Encoded values behind an encoded name. -/
def joined (f : CollectionFormat) (k : Codec) (field : Text) (ws : List Text) : Text :=
  match f.separator? with
  | none => ['&'].intercalate (ws.map (field ++ '=' :: ·))
  | some sep => field ++ '=' :: (quote noneSafe (k.textBytes [sep])).intercalate ws

section Encode

variable {c : Charset} {vs ws : List Text}
variable (h : List.Forall₂ (fun v w => queryParamEncode c v = .ok w) vs ws)

include h

theorem explode_eq_ok (field : Text) :
    explode c field (vs.map some) = .ok (ws.map (field ++ '=' :: ·)) := by
  induction h with
  | nil => rfl
  | cons hv _ ih => simp only [List.map_cons, explode, hv, bind_ok, ih]

theorem encodeValues_eq_ok : encodeValues c vs = .ok ws := by
  induction h with
  | nil => rfl
  | cons hv _ ih => simp only [encodeValues, hv, bind_ok, ih]

end Encode

/-- A separator is a character of ASCII that no parameter keeps. -/
theorem separator_spec {f : CollectionFormat} {sep : Char} (h : f.separator? = some sep) :
    sep.toNat < 0x80 ∧ isUnreserved sep = false ∧ isQueryParamSafe sep = false := by
  cases f with
  | exploded => exact absurd h (by simp [separator?])
  | csv | ssv | tsv | pipes =>
      obtain rfl := Option.some.inj h
      decide

section AsciiCompatible

variable {c : Charset} {k : Codec} (hc : c.codec = .ok k) (hk : k.IsAsciiCompatible)

include hk

/-- Every separator is escaped, whatever characters are safe in a parameter. -/
theorem quote_separator {f : CollectionFormat} {sep : Char} (h : f.separator? = some sep)
    {safe : Char → Bool} (hsafe : ∀ x, safe x = true → isQueryParamSafe x = true) :
    quote safe (k.textBytes [sep]) = Percent.escapes (k.textBytes [sep]) := by
  obtain ⟨hascii, hreserved, hparam⟩ := separator_spec h
  have hkeeps : ¬ Percent.keeps safe sep = true := fun hkept => by
    rcases (Percent.keeps_iff.mp hkept).2 with h | h
    · rw [hreserved] at h; exact absurd h (by simp)
    · rw [hsafe sep h] at hparam; exact absurd hparam (by simp)
  have := Percent.quoteChar_eq hk safe sep
  rw [if_neg hkeeps, Percent.quoteChar] at this
  rw [Codec.textBytes_cons, Codec.textBytes_nil, List.append_nil, this]

include hc

/-- **Joining writes the encoded values behind the encoded name.** -/
theorem join_eq_ok (f : CollectionFormat) {name field : Text} {vs ws : List Text} (hne : vs ≠ [])
    (hname : queryParamEncode c name = .ok field)
    (h : List.Forall₂ (fun v w => queryParamEncode c v = .ok w) vs ws) :
    f.join name (vs.map some) c = .ok (f.joined k field ws) := by
  have hws : ws ≠ [] := by
    rw [← List.length_pos_iff, ← h.length_eq]
    exact List.length_pos_iff.mpr hne
  rw [join, if_neg (by simp [hne]), hname, bind_ok, joined]
  cases hsep : f.separator? with
  | none => simp only [explode_eq_ok h, bind_ok]
  | some sep =>
      obtain ⟨hascii, -, -⟩ := separator_spec hsep
      have hencode : Percent.encode c false [sep] = .ok (quote noneSafe (k.textBytes [sep])) :=
        Percent.encodeUnlessEncoded_eq_quote hc hk (Codec.encodes_singleton hk hascii)
          (by simp [Percent.hasEscape])
      simp only [List.filterMap_map, Function.comp_def, id, List.filterMap_some,
        encodeValues_eq_ok h, bind_ok, if_neg hws, hencode]

end AsciiCompatible

/-! ### Reading -/

/-- What stands in front of the first equals sign and behind it, decoded. -/
def readPair (c : Charset) (t : Text) : Except Error Text × Option (Except Error Text) :=
  (decode c (Text.cut '=' t).1, (Text.cut '=' t).2.map (decode c))

/-- The text says that a parameter has these values. -/
def Reads (f : CollectionFormat) (c : Charset) (name : Text) (values : List Text) (t : Text) :
    Prop :=
  match f.separator? with
  | none => (Text.pieces '&' t).map (readPair c) = values.map fun v => (.ok name, some (.ok v))
  | some sep => readPair c t = (.ok name, some (.ok ([sep].intercalate values)))

section Parameter

variable {c : Charset} {k : Codec} (hc : c.codec = .ok k) (hk : k.IsAsciiCompatible)
variable {safe safe' : Char → Bool} (hsafe : ∀ x, safe x = true → isQueryParamSafe x = true)
variable (hsafe' : ∀ x, safe' x = true → isQueryParamSafe x = true)

include hsafe in
/-- An encoded name or value holds none of the delimiters that a parameter does not keep. -/
theorem not_mem_parameter {x : Char} (hx : isUnreserved x = false) (hpercent : x ≠ '%')
    (hparam : isQueryParamSafe x = false) (bytes : Bytes) : x ∉ quote safe bytes := by
  intro hmem
  rcases Percent.mem_quote hmem with h | h | h
  · rw [hx] at h; exact absurd h (by simp)
  · exact hpercent h
  · rw [hsafe x h] at hparam; exact absurd hparam (by simp)

include hc hk hsafe in
theorem decode_parameter {t : Text} (ht : k.Encodes t) :
    decode c (quote safe (k.textBytes t)) = .ok t := by
  refine Percent.decode_quote hc hk ?_ ?_ ht
  · exact Bool.eq_false_iff.mpr fun h => absurd (hsafe _ h) (by decide)
  · exact Bool.eq_false_iff.mpr fun h => absurd (hsafe _ h) (by decide)

include hc hk hsafe hsafe' in
/-- The first equals sign of a pair is the one between its name and its value. -/
theorem readPair_parameter {name value : Text} (hn : k.Encodes name) (hv : k.Encodes value) :
    readPair c (quote safe (k.textBytes name) ++ '=' :: quote safe' (k.textBytes value))
      = (.ok name, some (.ok value)) := by
  have heq : '=' ∉ quote safe (k.textBytes name) :=
    not_mem_parameter hsafe (by decide) (by decide) (by decide) _
  rw [readPair, Text.cut_append heq, decode_parameter hc hk hsafe hn, Option.map_some,
    decode_parameter hc hk hsafe' hv]

include hk in
theorem encodes_intercalate {sep : Char} (hascii : sep.toNat < 0x80) {values : List Text}
    (h : ∀ v ∈ values, k.Encodes v) : k.Encodes ([sep].intercalate values) := by
  induction values with
  | nil => exact Codec.encodes_nil k
  | cons v vs ih =>
      obtain ⟨hv, hvs⟩ := List.forall_mem_cons.mp h
      cases vs with
      | nil => rwa [List.intercalate_singleton]
      | cons w ws =>
          rw [List.intercalate_cons_cons, Codec.encodes_append, Codec.encodes_append]
          exact ⟨⟨hv, Codec.encodes_singleton hk hascii⟩, ih hvs⟩

/-- Joined texts are encoded one by one, and so is what stands between them. -/
theorem quote_intercalate (safe : Char → Bool) (k : Codec) (sep : Text) (ts : List Text) :
    quote safe (k.textBytes (sep.intercalate ts))
      = (quote safe (k.textBytes sep)).intercalate (ts.map fun t => quote safe (k.textBytes t)) := by
  induction ts with
  | nil => rfl
  | cons t ts ih =>
      cases ts with
      | nil => simp
      | cons u us =>
          rw [List.map_cons] at ih
          rw [List.map_cons, List.map_cons, List.intercalate_cons_cons, List.intercalate_cons_cons,
            ← ih]
          simp only [Codec.textBytes_append, Percent.quote_append]

include hk hsafe' in
/-- Values with an encoded separator between them are the encoding of the joined values. -/
theorem intercalate_parameters {f : CollectionFormat} {sep : Char} (h : f.separator? = some sep)
    (values : List Text) : (quote noneSafe (k.textBytes [sep])).intercalate
      (values.map fun v => quote safe' (k.textBytes v))
        = quote safe' (k.textBytes ([sep].intercalate values)) := by
  -- The separator is escaped alone as it would be within the joined values.
  rw [quote_intercalate, quote_separator hk h hsafe', quote_separator hk h (by simp [noneSafe])]

include hc hk hsafe hsafe' in
/-- **A joined parameter reads back.** -/
theorem reads_joined (f : CollectionFormat) {name : Text} {values : List Text} (hne : values ≠ [])
    (hn : k.Encodes name) (hvalues : ∀ v ∈ values, k.Encodes v) :
    f.Reads c name values (f.joined k (quote safe (k.textBytes name))
      (values.map fun v => quote safe' (k.textBytes v))) := by
  rw [Reads, joined]
  cases hsep : f.separator? with
  | some sep =>
      obtain ⟨hascii, -, -⟩ := separator_spec hsep
      have hjoined := encodes_intercalate hk hascii hvalues
      simp only [intercalate_parameters hk hsafe' hsep]
      exact readPair_parameter hc hk hsafe hsafe' hn hjoined
  | none =>
      simp only [List.map_map]
      rw [Text.pieces_intercalate (by simp [hne])]
      · rw [List.map_map]
        refine List.map_congr_left fun v hv => ?_
        exact readPair_parameter hc hk hsafe hsafe' hn (hvalues v hv)
      · intro p hp
        obtain ⟨v, -, rfl⟩ := List.mem_map.mp hp
        have hfield : '&' ∉ quote safe (k.textBytes name) :=
          not_mem_parameter hsafe (by decide) (by decide) (by decide) _
        have hvalue : '&' ∉ quote safe' (k.textBytes v) :=
          not_mem_parameter hsafe' (by decide) (by decide) (by decide) _
        simp [hfield, hvalue]

end Parameter

end HttpTemplates.CollectionFormat
