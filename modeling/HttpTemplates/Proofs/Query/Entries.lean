import HttpTemplates.Proofs.Query.Join

/-!
# Entries of an exploded parameter

An entry of an exploded parameter is a text, or nothing, which is written as the bare name. **Splitting
at the ampersands, cutting at the equals signs and decoding bring back every entry in its place**, and
a parameter has been written for one name and one list of entries only
(`CollectionFormat.readEntries_join_exploded`).
-/

namespace HttpTemplates.CollectionFormat

open Percent (queryParamEncode isQueryParamSafe quote decode hasEscape)

/-- Encoding the text and decoding it again brings it back: the charset has it, and it holds no
escape that encoding would keep. -/
structure IsRaw (c : Charset) (t : Text) : Prop where
  canEncode : c.CanEncode t
  noEscape : hasEscape t = false

/-- The name is raw, and so is every entry that is not nothing; there are entries. -/
structure AreRaw (c : Charset) (name : Text) (entries : List (Option Text)) : Prop where
  name : IsRaw c name
  texts : ∀ v, some v ∈ entries → IsRaw c v
  ne_nil : entries ≠ []

/-- What the parts between ampersands say, each with its name and its value if it has one. -/
def readEntries (c : Charset) (t : Text) :
    List (Except Error Text × Option (Except Error Text)) :=
  (Text.pieces '&' t).map (readPair c)

/-- An entry as it is read back. -/
def readEntry (name : Text) (v : Option Text) : Except Error Text × Option (Except Error Text) :=
  (.ok name, v.map .ok)

theorem readEntry_injective {name name' : Text} {v v' : Option Text}
    (h : readEntry name v = readEntry name' v') : name = name' ∧ v = v' := by
  obtain ⟨hname, hv⟩ := Prod.mk.inj h
  exact ⟨Except.ok.inj hname, Option.map_injective (fun _ _ => Except.ok.inj) hv⟩

/-- A list with entries has been read under one name. -/
theorem map_readEntry_injective {name name' : Text} {vs vs' : List (Option Text)} (hne : vs ≠ [])
    (h : vs.map (readEntry name) = vs'.map (readEntry name')) : name = name' ∧ vs = vs' := by
  obtain ⟨v, vs, rfl⟩ := List.exists_cons_of_ne_nil hne
  cases vs' with
  | nil => exact absurd h (by simp)
  | cons v' vs' =>
      -- The first entries have been read under the two names.
      obtain ⟨rfl, -⟩ := readEntry_injective (List.cons.inj h).1
      have hinjective : Function.Injective (readEntry name) := fun _ _ h => (readEntry_injective h).2
      exact ⟨rfl, hinjective.list_map h⟩

/-! ### Writing -/

/-- An entry as it is written behind the encoded name. -/
def entryText (k : Codec) (field : Text) : Option Text → Text
  | none => field
  | some v => field ++ '=' :: quote isQueryParamSafe (k.textBytes v)

section AsciiCompatible

variable {c : Charset} {k : Codec} (hc : c.codec = .ok k) (hk : k.IsAsciiCompatible)

include hc hk

theorem queryParamEncode_eq_quote {t : Text} (ht : IsRaw c t) :
    queryParamEncode c t = .ok (quote isQueryParamSafe (k.textBytes t)) :=
  Percent.encodeUnlessEncoded_eq_quote hc hk ((Charset.canEncode_iff hc hk).mp ht.canEncode) ht.noEscape

theorem explode_eq_entryTexts (field : Text) {entries : List (Option Text)}
    (h : ∀ v, some v ∈ entries → IsRaw c v) :
    explode c field entries = .ok (entries.map (entryText k field)) := by
  induction entries with
  | nil => rfl
  | cons entry entries ih =>
      have hrest := ih fun v hv => h v (List.mem_cons_of_mem _ hv)
      cases entry with
      | none => rw [explode, hrest, bind_ok]; rfl
      | some v =>
          rw [explode, queryParamEncode_eq_quote hc hk (h v (List.mem_cons_self ..)), bind_ok, hrest,
            bind_ok]
          rfl

/-- An exploded parameter is its entries with ampersands between them. -/
theorem join_exploded_eq_ok {name : Text} {entries : List (Option Text)}
    (h : AreRaw c name entries) : exploded.join name entries c
      = .ok (['&'].intercalate
          (entries.map (entryText k (quote isQueryParamSafe (k.textBytes name))))) := by
  rw [join, if_neg h.ne_nil, queryParamEncode_eq_quote hc hk h.name, bind_ok]
  simp only [separator?, explode_eq_entryTexts hc hk _ h.texts, bind_ok]

/-! ### Reading -/

/-- An entry that is nothing has no equals sign, and any other one has its first between the name
and the text. -/
theorem readPair_entryText {name : Text} {entry : Option Text} (hname : IsRaw c name)
    (hentry : ∀ v, entry = some v → IsRaw c v) :
    readPair c (entryText k (quote isQueryParamSafe (k.textBytes name)) entry)
      = readEntry name entry := by
  have hn := (Charset.canEncode_iff hc hk).mp hname.canEncode
  cases entry with
  | none =>
      have hequals : '=' ∉ quote isQueryParamSafe (k.textBytes name) :=
        not_mem_parameter (fun _ h => h) (by decide) (by decide) (by decide) _
      rw [entryText, readPair, Text.cut_of_not_mem hequals,
        decode_parameter hc hk (fun _ h => h) hn]
      rfl
  | some v =>
      have hv := (Charset.canEncode_iff hc hk).mp (hentry v rfl).canEncode
      exact readPair_parameter hc hk (fun _ h => h) (fun _ h => h) hn hv

omit hc hk in
theorem ampersand_not_mem_entryText (name : Text) (entry : Option Text) :
    '&' ∉ entryText k (quote isQueryParamSafe (k.textBytes name)) entry := by
  have hquote : ∀ bytes, '&' ∉ quote isQueryParamSafe bytes :=
    not_mem_parameter (fun _ h => h) (by decide) (by decide) (by decide)
  cases entry with
  | none => exact hquote _
  | some v => simp [entryText, hquote]

theorem readEntries_entryTexts {name : Text} {entries : List (Option Text)}
    (h : AreRaw c name entries) :
    readEntries c (['&'].intercalate
      (entries.map (entryText k (quote isQueryParamSafe (k.textBytes name)))))
        = entries.map (readEntry name) := by
  rw [readEntries, Text.pieces_intercalate (by simp [h.ne_nil]), List.map_map]
  · refine List.map_congr_left fun entry hentry => ?_
    exact readPair_entryText hc hk h.name fun v hv => h.texts v (hv ▸ hentry)
  · rintro p hp
    obtain ⟨entry, -, rfl⟩ := List.mem_map.mp hp
    exact ampersand_not_mem_entryText name entry

end AsciiCompatible

/-- **Exploding can be undone.** In an ASCII-compatible charset a raw name and raw entries can be
joined. Between the ampersands of the parameter there is one part for each entry, in their order: the
bare name for an entry that is nothing, and otherwise the name and the text on the two sides of the
first equals sign. No other name and no other entries give this parameter. -/
theorem readEntries_join_exploded {c : Charset} (hc : c.IsAsciiCompatible) {name : Text}
    {entries : List (Option Text)} (h : AreRaw c name entries) :
    ∃ t, exploded.join name entries c = .ok t ∧
      readEntries c t = entries.map (readEntry name) ∧
      ∀ name' entries', AreRaw c name' entries' → exploded.join name' entries' c = .ok t →
        name' = name ∧ entries' = entries := by
  obtain ⟨k, hcodec, hk⟩ := hc
  refine ⟨_, join_exploded_eq_ok hcodec hk h, readEntries_entryTexts hcodec hk h, ?_⟩
  intro name' entries' h' hjoin
  -- Both lists are read from the same text.
  have htexts := Except.ok.inj ((join_exploded_eq_ok hcodec hk h').symm.trans hjoin)
  have hread := readEntries_entryTexts hcodec hk h'
  rw [htexts, readEntries_entryTexts hcodec hk h] at hread
  exact map_readEntry_injective h'.ne_nil hread.symm

/-- Texts with delimiters, an empty one and nothing under a name with a percent sign. -/
theorem readEntries_join_exploded_delimiters :
    AreRaw .utf8 "100%" [some "a=b&c", none, some ""] ∧
    exploded.join "100%" [some "a=b&c", none, some ""] .utf8
      = .ok "100%25=a%3Db%26c&100%25&100%25=" ∧
    readEntries .utf8 "100%25=a%3Db%26c&100%25&100%25="
      = [(.ok "100%", some (.ok "a=b&c")), (.ok "100%", none), (.ok "100%", some (.ok ""))] := by
  have hraw : ∀ t, hasEscape t = false → IsRaw .utf8 t := fun t ht =>
    ⟨Charset.canEncode_utf8 t, ht⟩
  have h : AreRaw .utf8 "100%" [some "a=b&c", none, some ""] := by
    refine ⟨hraw _ (by decide), fun v hv => hraw v ?_, by simp⟩
    simp only [List.mem_cons, List.not_mem_nil, Option.some.injEq, or_false, reduceCtorEq,
      false_or] at hv
    rcases hv with rfl | rfl <;> decide
  have hrun : (exploded.join "100%" [some "a=b&c", none, some ""] .utf8).toOption
      = some "100%25=a%3Db%26c&100%25&100%25=".toList := by
    decide +kernel
  obtain ⟨t, ht, hread, -⟩ := readEntries_join_exploded Charset.isAsciiCompatible_utf8 h
  have hjoin := toOption_eq_some_iff.mp hrun
  obtain rfl := Except.ok.inj (ht.symm.trans hjoin)
  exact ⟨h, hjoin, hread⟩

end HttpTemplates.CollectionFormat
