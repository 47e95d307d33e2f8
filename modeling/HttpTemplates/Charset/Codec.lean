import HttpTemplates.Error

/-!
# Codecs

What programs see of a character encoding: how texts become bytes, and bytes texts. Nothing is
assumed about these functions. A text may be encoded as a whole and not character by character, and
an encoding may be registered for something that is no text at all.
-/

namespace HttpTemplates

/-- A byte string. -/
abbrev Bytes := List UInt8

/-- A character encoding. -/
structure Codec where
  /-- The bytes of a text. -/
  encode : Text → Except CharsetError Bytes
  /-- The text of a byte string that is not empty. -/
  decode : Bytes → Except CharsetError Text
  /-- The text of a byte string that is not empty, with a replacement for each ill-formed
  stretch. -/
  decodeLossy : Bytes → Except CharsetError Text

/-- The encodings that are registered besides those with known rules, by the names that somebody
writes. -/
abbrev Registry := Text → Option Codec

/-- Nothing is registered. -/
def Registry.empty : Registry := fun _ => none

end HttpTemplates
