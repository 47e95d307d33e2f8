import HttpTemplates.Proofs.Percent.Decoding

/-!
# What encoders write is read back

`decode` reads form data, in which a plus sign stands for a space. Encoders that escape the plus
sign are undone by it. The others leave plus signs behind, which come back as spaces, and change
nothing else (`decode_quote_of_plus`). Only texts without escapes of their own are read back: an
encoder takes these for its work and keeps them.
-/

namespace HttpTemplates.Percent

section Plus

variable {k : Codec} (hk : k.IsAsciiCompatible) {safe : Char → Bool}

include hk

/-- A character that is encoded with its plus sign kept is read back, a plus sign as a space. -/
theorem unescape_plusToSpace_quoteChar (hpercent : safe '%' = false) (hplus : safe '+' = true)
    (x : Char) (rest : Text) : unescape (plusToSpace (quoteChar safe k x) ++ rest)
      = k.charBytes (if x = '+' then ' ' else x) ++ unescape rest := by
  by_cases hx : x = '+'
  · subst hx
    have hkept : quoteChar safe k '+' = ['+'] := by
      rw [quoteChar_eq hk, if_pos (keeps_iff.mpr ⟨by decide, Or.inr hplus⟩)]
    rw [hkept, if_pos rfl, Codec.charBytes_ascii hk (by decide)]
    exact unescape_char (startsEscape_cons_ne (by decide) rest)
  · -- Neither another character nor the digits of an escape are a plus sign.
    have hnoplus : '+' ∉ quoteChar safe k x := by
      rw [quoteChar_eq hk]
      split
      · simpa using Ne.symm hx
      · intro hmem
        rcases mem_escapes hmem with h | h
        · exact absurd h (by decide)
        · exact absurd h (by decide)
    rw [plusToSpace_eq_self hnoplus, if_neg hx, quoteChar, unescape_quote_append hpercent]

/-- The bytes that are read back are those of the text with spaces for its plus signs. -/
theorem unescape_plusToSpace_quote (hpercent : safe '%' = false) (hplus : safe '+' = true)
    (t : Text) :
    unescape (plusToSpace (quote safe (k.textBytes t))) = k.textBytes (plusToSpace t) := by
  induction t with
  | nil => rfl
  | cons x t ih =>
      have hfront : plusToSpace (quote safe (k.textBytes (x :: t)))
          = plusToSpace (quoteChar safe k x) ++ plusToSpace (quote safe (k.textBytes t)) := by
        rw [Codec.textBytes_cons, quote_append, ← quoteChar, plusToSpace, List.map_append]
        rfl
      rw [hfront, unescape_plusToSpace_quoteChar hk hpercent hplus, ih]
      rfl

/-- Every charset that has a text has it with spaces for its plus signs. -/
theorem encodes_plusToSpace {t : Text} (ht : k.Encodes t) : k.Encodes (plusToSpace t) := by
  refine List.forall_mem_map.mpr fun x hx => ?_
  split
  · rw [hk.encodeChar?_ascii (by decide)]
    rfl
  · exact ht x hx

/-- **The encoded bytes of a text whose plus signs are kept decode to the text with spaces for
them.** -/
theorem decode_quote_of_plus {c : Charset} (hc : c.codec = .ok k) (hpercent : safe '%' = false)
    (hplus : safe '+' = true) {t : Text} (ht : k.Encodes t) :
    decode c (quote safe (k.textBytes t)) = .ok (plusToSpace t) :=
  decode_eq_of_unescape hc hk (fun _ => isAscii_of_mem_quote) (hasStray_quote hpercent _)
    (encodes_plusToSpace hk ht) (unescape_plusToSpace_quote hk hpercent hplus t)

end Plus

/-- **Decoding undoes encoding.** In an ASCII-compatible charset, a text that has bytes in it and
holds no escape is read back from its encoding as a value, as a query string and as a part of one.
From its encoding as a path and from that which keeps all delimiters it is read back with a space for
each of its plus signs. -/
theorem decode_encoders {c : Charset} (hc : c.IsAsciiCompatible) {t : Text} (ht : c.CanEncode t)
    (hescape : hasEscape t = false) :
    (encode c false t >>= decode c) = .ok t
      ∧ (queryEncode c t >>= decode c) = .ok t
      ∧ (queryParamEncode c t >>= decode c) = .ok t
      ∧ (pathEncode c t >>= decode c) = .ok (plusToSpace t)
      ∧ (encode c true t >>= decode c) = .ok (plusToSpace t) := by
  obtain ⟨k, hcodec, hk⟩ := hc
  have hencodes : k.Encodes t := (Charset.canEncode_iff hcodec hk).mp ht
  have hwritten : ∀ safe, encodeUnlessEncoded safe c t = .ok (quote safe (k.textBytes t)) :=
    fun _ => encodeUnlessEncoded_eq_quote hcodec hk hencodes hescape
  have hescaped : ∀ safe, safe '%' = false → safe '+' = false →
      (encodeUnlessEncoded safe c t >>= decode c) = .ok t := by
    intro safe hpercent hplus
    rw [hwritten safe, bind_ok, decode_quote hcodec hk hpercent hplus hencodes]
  have hkept : ∀ safe, safe '%' = false → safe '+' = true →
      (encodeUnlessEncoded safe c t >>= decode c) = .ok (plusToSpace t) := by
    intro safe hpercent hplus
    rw [hwritten safe, bind_ok, decode_quote_of_plus hk hcodec hpercent hplus hencodes]
  exact ⟨hescaped _ rfl rfl, hescaped _ rfl rfl, hescaped _ rfl rfl, hkept _ rfl rfl,
    hkept _ rfl rfl⟩

/-- A text in Latin-1 with a plus sign, a stray percent sign, a delimiter and a letter outside
ASCII. Path encoding writes `1+1=50%25/%E9`. -/
theorem decode_encoders_sum :
    (Charset.named "latin-1").IsAsciiCompatible
      ∧ (Charset.named "latin-1").CanEncode "1+1=50%/é".toList
      ∧ hasEscape "1+1=50%/é".toList = false
      ∧ (queryEncode (Charset.named "latin-1") "1+1=50%/é".toList
          >>= decode (Charset.named "latin-1"))
        = .ok "1+1=50%/é".toList
      ∧ (pathEncode (Charset.named "latin-1") "1+1=50%/é".toList
          >>= decode (Charset.named "latin-1"))
        = .ok "1 1=50%/é".toList := by
  have hc : (Charset.named "latin-1").IsAsciiCompatible :=
    Charset.isAsciiCompatible_named .latin1 (by decide) (by decide +kernel) rfl
  have ht : (Charset.named "latin-1").CanEncode "1+1=50%/é".toList :=
    Charset.canEncode_of_isSome (by decide +kernel)
  have hescape : hasEscape "1+1=50%/é".toList = false := by decide
  obtain ⟨-, hquery, -, hpath, -⟩ := decode_encoders hc ht hescape
  exact ⟨hc, ht, hescape, hquery, hpath⟩

end HttpTemplates.Percent
