import HttpTemplates.Charset.ShiftJis

/-!
# Codings

The character encodings whose rules are known here. A coding turns characters into bytes one by one
(`Coding.encodeChar?`) and reads bytes as units, each a character or an ill-formed stretch
(`Coding.units`). `Coding.codec` is what programs see of it.
-/

namespace HttpTemplates

/-- A character encoding with known rules. -/
inductive Coding where
  /-- One to four bytes for each character. -/
  | utf8
  /-- The first 256 code points, a byte each. -/
  | latin1
  /-- The first 128 code points, a byte each. -/
  | ascii
  /-- Latin-1 with printable characters between 0x80 and 0x9F. -/
  | cp1252
  /-- Units of two bytes; a mark in front says in which order, low byte first without it. -/
  | utf16
  /-- Units of two bytes, low byte first. -/
  | utf16le
  /-- Units of two bytes, high byte first. -/
  | utf16be
  /-- One or two bytes for each character of a table. -/
  | shiftJis
  deriving DecidableEq

namespace Coding

/-- What the coding is called when it cannot encode a character. -/
def label : Coding → Text
  | .utf8 => "utf-8"
  | .latin1 => "latin-1"
  | .ascii => "ascii"
  | .cp1252 => "charmap"
  | .utf16 => "utf-16"
  | .utf16le => "utf-16-le"
  | .utf16be => "utf-16-be"
  | .shiftJis => "shift_jis"

/-- What the characters outside the coding have in common. -/
def gap : Coding → Text
  | .ascii => "ordinal not in range(128)"
  | .latin1 => "ordinal not in range(256)"
  | .cp1252 => "character maps to <undefined>"
  | .shiftJis => "illegal multibyte sequence"
  | _ => "surrogates not allowed"

/-! ## Single characters -/

/-- The bytes of a character in UTF-8. -/
def utf8Char (c : Char) : Bytes :=
  let n := c.toNat
  if n < 0x80 then [.ofNat n]
  else if n < 0x800 then [.ofNat (0xC0 + n / 64), .ofNat (0x80 + n % 64)]
  else if n < 0x10000 then
    [.ofNat (0xE0 + n / 4096), .ofNat (0x80 + n / 64 % 64), .ofNat (0x80 + n % 64)]
  else
    [.ofNat (0xF0 + n / 262144), .ofNat (0x80 + n / 4096 % 64), .ofNat (0x80 + n / 64 % 64),
      .ofNat (0x80 + n % 64)]

/-- The characters of the bytes 0x80 to 0x9F in code page 1252; 0 marks a byte without one. -/
def cp1252Middle : List Nat := [
  0x20AC, 0, 0x201A, 0x0192, 0x201E, 0x2026, 0x2020, 0x2021, 0x02C6, 0x2030, 0x0160, 0x2039,
  0x0152, 0, 0x017D, 0, 0, 0x2018, 0x2019, 0x201C, 0x201D, 0x2022, 0x2013, 0x2014, 0x02DC,
  0x2122, 0x0161, 0x203A, 0x0153, 0, 0x017E, 0x0178]

/-- The byte of a character in code page 1252. -/
def cp1252Char? (c : Char) : Option UInt8 :=
  let n := c.toNat
  if n < 0x80 || (0xA0 ≤ n && n < 0x100) then some (.ofNat n)
  else (cp1252Middle.findIdx? (· == n)).map fun i => .ofNat (0x80 + i)

/-- A 16-bit unit in two bytes. -/
def unit16 (lowFirst : Bool) (n : Nat) : Bytes :=
  if lowFirst then [.ofNat (n % 256), .ofNat (n / 256)] else [.ofNat (n / 256), .ofNat (n % 256)]

/-- A character in one or two 16-bit units. -/
def utf16Char (lowFirst : Bool) (c : Char) : Bytes :=
  let n := c.toNat
  if n < 0x10000 then unit16 lowFirst n
  else
    unit16 lowFirst (0xD800 + (n - 0x10000) / 1024)
      ++ unit16 lowFirst (0xDC00 + (n - 0x10000) % 1024)

/-- The bytes of a character, if it has any. -/
def encodeChar? : Coding → Char → Option Bytes
  | .utf8, c => some (utf8Char c)
  | .latin1, c => if c.toNat < 0x100 then some [.ofNat c.toNat] else none
  | .ascii, c => if c.toNat < 0x80 then some [.ofNat c.toNat] else none
  | .cp1252, c => (cp1252Char? c).map ([·])
  | .utf16, c => some (utf16Char true c)
  | .utf16le, c => some (utf16Char true c)
  | .utf16be, c => some (utf16Char false c)
  | .shiftJis, c => ShiftJis.encodeChar? c

/-- The mark that an encoded text begins with. -/
def mark : Coding → Bytes
  | .utf16 => [0xFF, 0xFE]
  | _ => []

/-- The bytes of a text without the mark, if each of its characters has some. -/
def encodeChars? (k : Coding) : Text → Option Bytes
  | [] => some []
  | c :: rest =>
    match k.encodeChar? c, encodeChars? k rest with
    | some b, some bs => some (b ++ bs)
    | _, _ => none

/-- The index of the first character without a code, and the index behind the run of them. Shift JIS
reports one character at a time. -/
def unencodableRun (k : Coding) (t : Text) : Nat × Nat :=
  let has (c : Char) := (k.encodeChar? c).isSome
  let start := (t.takeWhile has).length
  let run := ((t.drop start).takeWhile fun c => !has c).length
  (start, start + if k = .shiftJis then 1 else run)

/-! ## Units -/

/-- The character with the code point `n`, unless that is a surrogate or too large. -/
def scalar? (n : Nat) : Option Char :=
  if n < 0xD800 || (0xE000 ≤ n && n < 0x110000) then some (Char.ofNat n) else none

/-- Whether a byte continues a character of UTF-8. -/
def isTail (b : UInt8) : Bool :=
  0x80 ≤ b.toNat && b.toNat < 0xC0

/-- Whether `b` may follow `a` in a character of three or four bytes. -/
def isSecond (a b : UInt8) : Bool :=
  if a = 0xE0 then 0xA0 ≤ b.toNat && b.toNat < 0xC0
  else if a = 0xED then 0x80 ≤ b.toNat && b.toNat < 0xA0
  else if a = 0xF0 then 0x90 ≤ b.toNat && b.toNat < 0xC0
  else if a = 0xF4 then 0x80 ≤ b.toNat && b.toNat < 0x90
  else isTail b

/-- The six bits that a continuation byte carries. -/
def tailBits (b : UInt8) : Nat :=
  b.toNat - 0x80

/-- The units of UTF-8. An ill-formed stretch is a longest beginning of a character. -/
def utf8Units : Bytes → List (Option Char)
  | [] => []
  | a :: rest =>
    if a.toNat < 0x80 then some (Char.ofNat a.toNat) :: utf8Units rest
    else if a.toNat < 0xC2 || 0xF5 ≤ a.toNat then none :: utf8Units rest
    else if a.toNat < 0xE0 then
      match rest with
      | [] => [none]
      | b :: rest₁ =>
        if isTail b then
          scalar? ((a.toNat - 0xC0) * 64 + tailBits b) :: utf8Units rest₁
        else none :: utf8Units (b :: rest₁)
    else
      match rest with
      | [] => [none]
      | b :: rest₁ =>
        if isSecond a b then
          match rest₁ with
          | [] => [none]
          | c :: rest₂ =>
            if isTail c then
              if a.toNat < 0xF0 then
                scalar? ((a.toNat - 0xE0) * 4096 + tailBits b * 64 + tailBits c)
                  :: utf8Units rest₂
              else
                match rest₂ with
                | [] => [none]
                | d :: rest₃ =>
                  if isTail d then
                    scalar? ((a.toNat - 0xF0) * 262144 + tailBits b * 4096 + tailBits c * 64
                      + tailBits d) :: utf8Units rest₃
                  else none :: utf8Units (d :: rest₃)
            else none :: utf8Units (c :: rest₂)
        else none :: utf8Units (b :: rest₁)
termination_by bytes => bytes.length

/-- Two bytes as a 16-bit unit. -/
def join16 (lowFirst : Bool) (a b : UInt8) : Nat :=
  if lowFirst then a.toNat + 256 * b.toNat else 256 * a.toNat + b.toNat

/-- The units of UTF-16. A surrogate without its partner and an odd byte at the end are
ill-formed; a high surrogate in front of the end takes an odd byte with it. -/
def utf16Units (lowFirst : Bool) : Bytes → List (Option Char)
  | [] => []
  | [_] => [none]
  | a :: b :: rest =>
    let n := join16 lowFirst a b
    if n < 0xD800 || 0xE000 ≤ n then scalar? n :: utf16Units lowFirst rest
    else if 0xDC00 ≤ n then none :: utf16Units lowFirst rest
    else
      match rest with
      | c :: d :: rest₁ =>
        let m := join16 lowFirst c d
        if 0xDC00 ≤ m && m < 0xE000 then
          scalar? (0x10000 + (n - 0xD800) * 1024 + (m - 0xDC00)) :: utf16Units lowFirst rest₁
        else none :: utf16Units lowFirst (c :: d :: rest₁)
      | _ => [none]

/-- The character of a byte in code page 1252. -/
def cp1252Unit (b : UInt8) : Option Char :=
  if 0x80 ≤ b.toNat && b.toNat < 0xA0 then
    match cp1252Middle[b.toNat - 0x80]? with
    | some 0 => none
    | some n => some (Char.ofNat n)
    | none => none
  else some (Char.ofNat b.toNat)

/-- The units of a byte string: its characters and, as `none`, its ill-formed stretches. -/
def units : Coding → Bytes → List (Option Char)
  | .utf8, bytes => utf8Units bytes
  | .latin1, bytes => bytes.map fun b => some (Char.ofNat b.toNat)
  | .ascii, bytes => bytes.map fun b => if b.toNat < 0x80 then some (Char.ofNat b.toNat) else none
  | .cp1252, bytes => bytes.map cp1252Unit
  | .utf16, bytes =>
    match bytes with
    | 0xFF :: 0xFE :: rest => utf16Units true rest
    | 0xFE :: 0xFF :: rest => utf16Units false rest
    | bytes => utf16Units true bytes
  | .utf16le, bytes => utf16Units true bytes
  | .utf16be, bytes => utf16Units false bytes
  | .shiftJis, bytes => ShiftJis.units bytes

/-- The text of a byte string without ill-formed stretches. -/
def decode? (k : Coding) (bytes : Bytes) : Option Text :=
  (k.units bytes).mapM id

/-- The text of a byte string, with a replacement character for each ill-formed stretch. -/
def decodeLossy (k : Coding) (bytes : Bytes) : Text :=
  (k.units bytes).map fun u => u.getD '\uFFFD'

/-- The bytes of a text, with the mark in front. -/
def encode (k : Coding) (t : Text) : Except CharsetError Bytes :=
  match k.encodeChars? t with
  | some bytes => .ok (k.mark ++ bytes)
  | none =>
    let run := k.unencodableRun t
    .error (.unencodable ⟨k.label, t, run.1, run.2, k.gap⟩)

/-- The text of a byte string. -/
def decode (k : Coding) (bytes : Bytes) : Except CharsetError Text :=
  match k.decode? bytes with
  | some t => .ok t
  | none => .error (.undecodable k.label)

/-- What is done with texts and bytes in the coding. -/
def codec (k : Coding) : Codec where
  encode := k.encode
  decode := k.decode
  decodeLossy bytes := .ok (k.decodeLossy bytes)

end Coding

end HttpTemplates
