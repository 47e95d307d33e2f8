import HttpTemplates.Charset.Basic
import HttpTemplates.Proofs.Success

/-!
# ASCII-compatible charsets

In an **ASCII-compatible** charset the characters of ASCII, and nothing else, are the bytes below
128. Nothing is known about a codec as such, so `Codec.IsAsciiCompatible` lists what the proofs about
percent encoding need of one: that a text is encoded character by character, what the bytes of a
character are, and that they are read back. It holds of the codings UTF-8, Latin-1, ASCII and code
page 1252 (`Coding.isAsciiCompatible_codec`), and it may hold of any encoding that is registered.
-/

namespace HttpTemplates

/-! ### Characters of a codec -/

namespace Codec

/-- The bytes of a character on its own, if it has any. -/
def encodeChar? (k : Codec) (c : Char) : Option Bytes :=
  (k.encode [c]).toOption

/-- Every character of the text has a code. -/
def Encodes (k : Codec) (t : Text) : Prop :=
  ∀ c ∈ t, (k.encodeChar? c).isSome

/-- The bytes of a character; none if it has no code. -/
def charBytes (k : Codec) (c : Char) : Bytes :=
  (k.encodeChar? c).getD []

/-- The bytes of the characters of a text. -/
def textBytes (k : Codec) (t : Text) : Bytes :=
  t.flatMap k.charBytes

@[simp] theorem encodes_nil (k : Codec) : k.Encodes [] := by simp [Encodes]

@[simp] theorem encodes_cons {k : Codec} {c : Char} {t : Text} :
    k.Encodes (c :: t) ↔ (k.encodeChar? c).isSome ∧ k.Encodes t := by
  simp [Encodes]

@[simp] theorem encodes_append {k : Codec} {s t : Text} :
    k.Encodes (s ++ t) ↔ k.Encodes s ∧ k.Encodes t := by
  simp only [Encodes, List.mem_append]
  exact ⟨fun h => ⟨fun c hc => h c (Or.inl hc), fun c hc => h c (Or.inr hc)⟩,
    fun h c hc => hc.elim (h.1 c) (h.2 c)⟩

@[simp] theorem textBytes_nil (k : Codec) : k.textBytes [] = [] := rfl

@[simp] theorem textBytes_cons (k : Codec) (c : Char) (t : Text) :
    k.textBytes (c :: t) = k.charBytes c ++ k.textBytes t := rfl

@[simp] theorem textBytes_append (k : Codec) (s t : Text) :
    k.textBytes (s ++ t) = k.textBytes s ++ k.textBytes t :=
  List.flatMap_append

theorem charBytes_of_some {k : Codec} {c : Char} {bytes : Bytes}
    (h : k.encodeChar? c = some bytes) : k.charBytes c = bytes := by
  rw [charBytes, h, Option.getD_some]

/-- The bytes of a character are among those of a text that it occurs in. -/
theorem mem_textBytes {k : Codec} {t : Text} {c : Char} {b : UInt8} (hc : c ∈ t)
    (hb : b ∈ k.charBytes c) : b ∈ k.textBytes t :=
  List.mem_flatMap.mpr ⟨c, hc, hb⟩

/-! ### ASCII-compatible codecs -/

/-- The characters of ASCII, and nothing else, are the bytes below 128, and a text is read back from
the bytes of its characters. -/
structure IsAsciiCompatible (k : Codec) : Prop where
  /-- A text is encoded character by character. -/
  encode_eq_ok_iff : ∀ {t bytes}, k.encode t = .ok bytes ↔ k.Encodes t ∧ k.textBytes t = bytes
  /-- A character of ASCII is the byte of its code point. -/
  encodeChar?_ascii : ∀ {c : Char}, c.toNat < 0x80 → k.encodeChar? c = some [.ofNat c.toNat]
  /-- A character outside ASCII is made of bytes from 128 on, of which there is at least one. -/
  high_of_encodeChar? : ∀ {c : Char} {bytes}, 0x80 ≤ c.toNat → k.encodeChar? c = some bytes →
    bytes ≠ [] ∧ ∀ b ∈ bytes, 0x80 ≤ b.toNat
  /-- The bytes of a text are read back as that text. -/
  decode_textBytes : ∀ {t}, k.Encodes t → t ≠ [] → k.decode (k.textBytes t) = .ok t

section AsciiCompatible

variable {k : Codec} (hk : k.IsAsciiCompatible)

include hk

theorem charBytes_ascii {c : Char} (hc : c.toNat < 0x80) : k.charBytes c = [.ofNat c.toNat] :=
  charBytes_of_some (hk.encodeChar?_ascii hc)

/-- A text of ASCII characters has bytes. -/
theorem encodes_of_ascii {t : Text} (ht : ∀ c ∈ t, c.toNat < 0x80) : k.Encodes t := fun c hc => by
  rw [hk.encodeChar?_ascii (ht c hc)]
  rfl

theorem encodes_singleton {c : Char} (hc : c.toNat < 0x80) : k.Encodes [c] :=
  encodes_of_ascii hk fun x hx => by rwa [List.mem_singleton.mp hx]

theorem charBytes_ne_nil {c : Char} (h : (k.encodeChar? c).isSome) : k.charBytes c ≠ [] := by
  by_cases hc : c.toNat < 0x80
  · simp [charBytes_ascii hk hc]
  · obtain ⟨bytes, hbytes⟩ := Option.isSome_iff_exists.mp h
    rw [charBytes_of_some hbytes]
    exact (hk.high_of_encodeChar? (by omega) hbytes).1

theorem textBytes_eq_nil_iff {t : Text} (ht : k.Encodes t) : k.textBytes t = [] ↔ t = [] := by
  cases t with
  | nil => simp
  | cons c rest => simp [charBytes_ne_nil hk (encodes_cons.mp ht).1]

end AsciiCompatible

end Codec

/-! ### Charsets -/

namespace Charset

/-- Whatever is encoded, the charset names an encoding. -/
theorem exists_codec_of_encode {c : Charset} {t : Text} {bytes : Bytes}
    (h : c.encode t = .ok bytes) : ∃ k, c.codec = .ok k := by
  cases hc : c.codec with
  | error e => simp [encode, hc] at h
  | ok k => exact ⟨k, rfl⟩

/-- The charset names an encoding in which the characters of ASCII, and nothing else, are the bytes
below 128. -/
def IsAsciiCompatible (c : Charset) : Prop :=
  ∃ k, c.codec = .ok k ∧ k.IsAsciiCompatible

/-- The text has bytes in the charset. -/
def CanEncode (c : Charset) (t : Text) : Prop :=
  ∃ bytes, c.encode t = .ok bytes

theorem canEncode_of_isSome {c : Charset} {t : Text}
    (h : (c.encode t).toOption.isSome = true) : c.CanEncode t :=
  (Option.isSome_iff_exists.mp h).imp fun _ => toOption_eq_some_iff.mp

/-- Every text in the characters of `t` has bytes in the charset. -/
def CanEncodeIn (c : Charset) (t : Text) : Prop :=
  ∀ u : Text, u ⊆ t → c.CanEncode u

/-- If the charset names an encoding, a text has bytes in it as soon as each of its characters belongs
to ASCII or to some text that has. -/
def EncodesByCharacter (c : Charset) : Prop :=
  ∀ k, c.codec = .ok k → ∀ t : Text,
    (∀ x ∈ t, x.toNat < 0x80 ∨ ∃ s, x ∈ s ∧ c.CanEncode s) → c.CanEncode t

theorem CanEncodeIn.canEncode {c : Charset} {t : Text} (h : c.CanEncodeIn t) : c.CanEncode t :=
  h t (List.Subset.refl t)

theorem CanEncodeIn.mono {c : Charset} {s t : Text} (h : c.CanEncodeIn t) (hst : s ⊆ t) :
    c.CanEncodeIn s :=
  fun u hu => h u (List.Subset.trans hu hst)

section Codec

variable {c : Charset} {k : Codec} (hc : c.codec = .ok k)

include hc

/-- A charset that names an encoding has a name. -/
theorem filled_eq_self : c.filled = c := by
  have hname : c.name ≠ none := fun h => by simp [codec, h] at hc
  rw [filled, if_neg hname]

/-- A charset that names an encoding has a name other than the empty one. -/
theorem orUtf8_eq_self : c.orUtf8 = c := by
  have hname : c.name.getD [] ≠ [] := fun h => by
    cases hn : c.name with
    | none => simp [codec, hn] at hc
    | some name =>
        obtain rfl : name = [] := by simpa [hn] using h
        simp [codec, hn] at hc
  rw [orUtf8, if_neg hname]

/-- Encoding a text is what the codec makes of it. -/
theorem encode_eq_ok_iff_encode {t : Text} {bytes : Bytes} :
    c.encode t = .ok bytes ↔ k.encode t = .ok bytes := by
  simp only [encode, hc]
  exact mapError_eq_ok_iff

variable (hk : k.IsAsciiCompatible)

include hk

theorem encode_eq_ok_iff {t : Text} {bytes : Bytes} :
    c.encode t = .ok bytes ↔ k.Encodes t ∧ k.textBytes t = bytes := by
  rw [encode_eq_ok_iff_encode hc, hk.encode_eq_ok_iff]

theorem canEncode_iff {t : Text} : c.CanEncode t ↔ k.Encodes t := by
  simp only [CanEncode, encode_eq_ok_iff hc hk]
  exact ⟨fun ⟨_, h, _⟩ => h, fun h => ⟨_, h, rfl⟩⟩

/-- Encoding a text is encoding its characters one after the other. -/
theorem encode_eq_ok {t : Text} (ht : k.Encodes t) : c.encode t = .ok (k.textBytes t) :=
  (encode_eq_ok_iff hc hk).mpr ⟨ht, rfl⟩

/-- The bytes of a text are read back as that text. -/
theorem decode_textBytes {t : Text} (ht : k.Encodes t) : c.decode (k.textBytes t) = .ok t := by
  simp only [decode, readWith, hc]
  by_cases hne : t = []
  · subst hne
    rfl
  · rw [if_neg (mt (Codec.textBytes_eq_nil_iff hk ht).mp hne), hk.decode_textBytes ht hne]
    rfl

end Codec

end Charset

end HttpTemplates
