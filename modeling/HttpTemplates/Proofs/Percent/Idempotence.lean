import HttpTemplates.Proofs.Percent.Decoding

/-!
# Encoding twice

An encoder leaves its own results as they are. The reserved-aware encoder finds in a result the
escapes it left alone and those it wrote, and keeps both (`escaped_idem`), whatever characters are
called safe, the percent sign and characters outside ASCII among them. The other encoders pass on a
text that looks encoded, and whether a result looks so makes no difference: what they pass on they
would have encoded to itself.
-/

namespace HttpTemplates.Percent

/-- The encoder has a result on the text, and that result again is its own result. -/
def SettlesOn (f : Text → Except Error Text) (t : Text) : Prop :=
  ∃ w, f t = .ok w ∧ f w = .ok w

section Settling

variable {c : Charset} {k : Codec} (hc : c.codec = .ok k) (hk : k.IsAsciiCompatible)
variable (safe : Char → Bool)

include hc hk

theorem encodeReserved_settlesOn {t : Text} (ht : k.Encodes t) :
    SettlesOn (encodeReserved safe c) t :=
  ⟨escaped safe k t, (encodeReserved_eq_ok_iff hc hk).mpr ⟨ht, rfl⟩,
    (encodeReserved_eq_ok_iff hc hk).mpr ⟨encodes_escaped hk safe t, escaped_idem hk safe ht⟩⟩

omit hc in
theorem encodes_encoded {t : Text} (ht : k.Encodes t) : k.Encodes (encoded safe k t) := by
  rw [encoded]
  split
  · exact ht
  · exact encodes_escaped hk safe t

omit hc in
/-- Whether a result looks encoded or not, it is passed on as it is. -/
theorem encoded_encoded {t : Text} (ht : k.Encodes t) :
    encoded safe k (encoded safe k t) = encoded safe k t := by
  by_cases hlooks : looksEncoded t = true
  · have hself : encoded safe k t = t := if_pos hlooks
    rw [hself, hself]
  · have hfirst : encoded safe k t = escaped safe k t := if_neg hlooks
    rw [hfirst, encoded]
    split
    · rfl
    · exact escaped_idem hk safe ht

theorem encodeUnlessEncoded_settlesOn {t : Text} (ht : k.Encodes t) :
    SettlesOn (encodeUnlessEncoded safe c) t := by
  refine ⟨encoded safe k t, encodeUnlessEncoded_eq hc hk safe ht, ?_⟩
  rw [encodeUnlessEncoded_eq hc hk safe (encodes_encoded hk safe ht), encoded_encoded hk safe ht]

end Settling

/-- **Encoding is idempotent.** In an ASCII-compatible charset, on a text that has bytes in it, the
reserved-aware encoder has a result with every set of safe characters, and so have the encoders of
values, of texts with delimiters, of paths, of query strings and of their names and values. A second
pass of the same encoder changes nothing. -/
theorem encoders_settle {c : Charset} (hc : c.IsAsciiCompatible) {t : Text} (ht : c.CanEncode t) :
    (∀ safe, SettlesOn (encodeReserved safe c) t)
      ∧ (∀ keepReserved, SettlesOn (encode c keepReserved) t)
      ∧ SettlesOn (pathEncode c) t
      ∧ SettlesOn (queryEncode c) t
      ∧ SettlesOn (queryParamEncode c) t := by
  obtain ⟨k, hcodec, hk⟩ := hc
  have hencodes : k.Encodes t := (Charset.canEncode_iff hcodec hk).mp ht
  have hpreset := fun safe => encodeUnlessEncoded_settlesOn hcodec hk safe hencodes
  exact ⟨fun safe => encodeReserved_settlesOn hcodec hk safe hencodes, fun _ => hpreset _,
    hpreset _, hpreset _, hpreset _⟩

/-- A text in Latin-1 with a stray percent sign, an escape, a delimiter, a blank and a letter outside
ASCII. Without delimiters it becomes `%254%E9%41%2F%20`, which looks encoded. -/
theorem encoders_settle_mixed :
    (Charset.named "latin-1").IsAsciiCompatible
      ∧ (Charset.named "latin-1").CanEncode "%4é%41/ ".toList
      ∧ SettlesOn (encode (Charset.named "latin-1") false) "%4é%41/ ".toList
      ∧ encode (Charset.named "latin-1") false "%4é%41/ ".toList
        = .ok "%254%E9%41%2F%20".toList := by
  have hc : (Charset.named "latin-1").IsAsciiCompatible :=
    Charset.isAsciiCompatible_named .latin1 (by decide) (by decide +kernel) rfl
  have ht : (Charset.named "latin-1").CanEncode "%4é%41/ ".toList :=
    Charset.canEncode_of_isSome (by decide +kernel)
  exact ⟨hc, ht, (encoders_settle hc ht).2.1 false,
    toOption_eq_some_iff.mp (by decide +kernel)⟩

end HttpTemplates.Percent
