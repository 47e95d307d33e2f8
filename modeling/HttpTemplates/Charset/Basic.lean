import HttpTemplates.Charset.Coding
import HttpTemplates.Error
import HttpTemplates.Text.Casing

/-!
# Charsets

A charset is the name of a character encoding as somebody wrote it, if anybody did. Some names are
those of codings: they are compared without their case and punctuation, and most codings have
several. For any other name a charset has what a registry holds under it, so that **a charset may
stand for any encoding there is**. A name that none has is found out when the charset is used.
-/

namespace HttpTemplates

/-- The name of a character encoding, with what is registered under it. -/
structure Charset where
  /-- The name as it was written, if there is one. -/
  name : Option Text
  /-- The encoding that is registered under the name, unless its rules are known anyway. -/
  registered : Option Codec := none

namespace Charset

/-- The charset with this name. -/
def ofName (registry : Registry) (name : Text) : Charset :=
  ⟨some name, registry name⟩

/-- The charset with this name where nothing is registered. -/
def named (name : Text) : Charset :=
  ofName .empty name

/-- The charset that is used unless another is asked for. -/
def utf8 : Charset := named "utf-8"

/-- The charset itself, or UTF-8 if it has no name or an empty one. -/
def orUtf8 (c : Charset) : Charset :=
  if c.name.getD [] = [] then utf8 else c

/-- The charset itself, or UTF-8 if it has no name. -/
def filled (c : Charset) : Charset :=
  if c.name = none then utf8 else c

/-! ## Names -/

/-- A name in lower case, with each run of punctuation inside it as one low line. The flag says
whether punctuation was passed since the last letter, and `some` letter stands in front. -/
def normalizeFrom (begun punctuation : Bool) : Text → Text
  | [] => []
  | c :: rest =>
    if c.isAlphanum || c = '.' then
      let letter := Char.ofNat (Text.asciiLowerCode c.toNat)
      if begun && punctuation then '_' :: letter :: normalizeFrom true false rest
      else letter :: normalizeFrom true false rest
    else normalizeFrom begun true rest

/-- The codings with their own names in normal form and their further names, in which a point may
stand for a low line. -/
def names : List (Coding × String × List String) := [
  (.utf8, "utf_8", ["utf8", "u8", "utf", "utf8_ucs2", "utf8_ucs4", "cp65001"]),
  (.latin1, "latin_1", ["latin1", "latin", "l1", "iso8859_1", "iso_8859_1", "iso8859", "8859",
    "cp819", "ibm819", "csisolatin1", "iso_8859_1_1987", "iso_ir_100"]),
  (.ascii, "ascii", ["us_ascii", "us", "646", "ansi_x3.4_1968", "ansi_x3_4_1968",
    "ansi_x3.4_1986", "cp367", "csascii", "ibm367", "iso646_us", "iso_646.irv_1991",
    "iso_ir_6"]),
  (.cp1252, "cp1252", ["1252", "windows_1252"]),
  (.utf16, "utf_16", ["utf16", "u16"]),
  (.utf16le, "utf_16_le", ["utf_16le", "unicodelittleunmarked"]),
  (.utf16be, "utf_16_be", ["utf_16be", "unicodebigunmarked"]),
  (.shiftJis, "shift_jis", ["csshiftjis", "shiftjis", "sjis", "s_jis", "x_mac_japanese"])]

/-- The coding with this name. -/
def codingNamed? (name : Text) : Option Coding :=
  let name := normalizeFrom false false name
  let pointless := name.map fun c => if c = '.' then '_' else c
  (names.find? fun (_, own, others) =>
    own.toList == name || others.any fun a => a.toList == name || a.toList == pointless).map (·.1)

/-- The encoding of a charset. No encoding has the empty name, and what is registered under the name
of a coding does not count. -/
def codec (c : Charset) : Except CharsetError Codec :=
  match c.name with
  | none => .error .missing
  | some name =>
    if name.contains '\x00' then .error .embeddedNull
    else if name = [] then .error (.unknown name)
    else
      match codingNamed? name, c.registered with
      | some k, _ => .ok k.codec
      | none, some k => .ok k
      | none, none => .error (.unknown name)

/-- The encoding of a charset, if it has one. -/
def codec? (c : Charset) : Option Codec :=
  c.codec.toOption

example : ∀ name ∈ [("UTF-8" : Text), "utf8", "UTF_8"], codingNamed? name = some .utf8 := by
  decide +kernel

example : codingNamed? "us.ascii" = some .ascii ∧ codingNamed? "utf.8" = none := by decide +kernel

/-! ## Encoding and decoding -/

/-- The bytes of a text. -/
def encode (c : Charset) (t : Text) : Except Error Bytes :=
  match c.codec with
  | .ok k => (k.encode t).mapError .charset
  | .error e => .error (.charset e)

/-- What the encoding reads in bytes. It is not asked about no bytes at all, and then it need not be
known. -/
def readWith (read : Codec → Bytes → Except CharsetError Text) (c : Charset) (bytes : Bytes) :
    Except Error Text :=
  match c.codec with
  | .ok k => if bytes = [] then .ok [] else (read k bytes).mapError .charset
  | .error (.unknown name) => if bytes = [] then .ok [] else .error (.charset (.unknown name))
  | .error e => .error (.charset e)

/-- The text of a byte string. -/
def decode : Charset → Bytes → Except Error Text :=
  readWith Codec.decode

/-- The text of a byte string, with a replacement character for each ill-formed stretch. -/
def decodeLossy : Charset → Bytes → Except Error Text :=
  readWith Codec.decodeLossy

end Charset

end HttpTemplates
