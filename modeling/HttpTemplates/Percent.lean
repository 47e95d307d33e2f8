import HttpTemplates.Charset.Basic
import HttpTemplates.Text.Digit

/-!
# Percent encoding

The percent encoding of URIs. A byte is kept if it is an unreserved or a safe character of ASCII,
and written as `%XX` otherwise. A text that may hold escapes already is cut into `Piece`s: escapes
stay and the raw runs between them are encoded.

* `encode`, `pathEncode`, `queryEncode` and `queryParamEncode` differ in the characters they keep,
  and pass on a text that looks encoded as it is.
* `decode` reads form data: a plus sign is a space.
-/

namespace HttpTemplates.Percent

/-! ## Characters -/

/-- The characters that are never encoded. -/
def isUnreserved (c : Char) : Bool :=
  c.isAlphanum || c = '-' || c = '.' || c = '_' || c = '~'

/-- The delimiters between the parts of a URI. -/
def isGeneralDelimiter (c : Char) : Bool :=
  c = ':' || c = '/' || c = '?' || c = '#' || c = '[' || c = ']' || c = '@'

/-- The delimiters within a part of a URI. -/
def isSubDelimiter (c : Char) : Bool :=
  c = '!' || c = '$' || c = '&' || c = '\x27' || c = '(' || c = ')' || c = '*' || c = '+'
    || c = ',' || c = ';' || c = '='

/-- All delimiters of URIs. -/
def isReserved (c : Char) : Bool :=
  isGeneralDelimiter c || isSubDelimiter c

/-- The characters that structure a path. -/
def isPathSafe (c : Char) : Bool :=
  c = '/' || c = '?' || c = ':' || c = '@' || isSubDelimiter c

/-- The characters that structure a query string. A plus sign would be read as a space. -/
def isQuerySafe (c : Char) : Bool :=
  c = '/' || c = '?' || c = ':' || c = '@' || c = '&' || c = '=' || (isSubDelimiter c && c ≠ '+')

/-- The delimiters that a single name or value of a query string keeps. -/
def isQueryParamSafe (c : Char) : Bool :=
  c = '/' || c = ':' || c = '@'

/-- No character. -/
def noneSafe (_ : Char) : Bool :=
  false

/-! ## Bytes -/

/-- A byte as an escape. -/
def escapeByte (b : UInt8) : Text :=
  ['%', Text.hexDigit (b.toNat / 16), Text.hexDigit (b.toNat % 16)]

/-- Whether a byte is a character of ASCII that is unreserved or safe. -/
def keepsByte (safe : Char → Bool) (b : UInt8) : Bool :=
  b.toNat < 0x80 && (isUnreserved (Char.ofNat b.toNat) || safe (Char.ofNat b.toNat))

/-- A byte as a character if it is kept, as an escape otherwise. -/
def quoteByte (safe : Char → Bool) (b : UInt8) : Text :=
  if keepsByte safe b then [Char.ofNat b.toNat] else escapeByte b

/-- A byte string with everything escaped that is not kept. -/
def quote (safe : Char → Bool) (bytes : Bytes) : Text :=
  bytes.flatMap (quoteByte safe)

@[simp] theorem quote_nil (safe : Char → Bool) : quote safe [] = [] := rfl

@[simp] theorem quote_cons (safe : Char → Bool) (b : UInt8) (bytes : Bytes) :
    quote safe (b :: bytes) = quoteByte safe b ++ quote safe bytes := rfl

@[simp] theorem quote_append (safe : Char → Bool) (a b : Bytes) :
    quote safe (a ++ b) = quote safe a ++ quote safe b := by
  simp [quote]

/-! ## Pieces -/

/-- A stretch of a text that may be encoded in part. -/
inductive Piece where
  /-- Characters outside escapes. -/
  | raw (t : Text)
  /-- A percent sign with two hexadecimal digits. -/
  | escape (high low : Char)
  deriving DecidableEq

/-- The characters of a piece. -/
def Piece.text : Piece → Text
  | .raw t => t
  | .escape high low => ['%', high, low]

/-- One more raw character in front. -/
def consRaw (c : Char) : List Piece → List Piece
  | .raw t :: ps => .raw (c :: t) :: ps
  | ps => .raw [c] :: ps

theorem flatMap_text_consRaw (c : Char) (ps : List Piece) :
    (consRaw c ps).flatMap Piece.text = c :: ps.flatMap Piece.text := by
  cases ps with
  | nil => rfl
  | cons p ps => cases p <;> rfl

/-- The escapes of a text and the raw runs between them. -/
def pieces : Text → List Piece
  | [] => []
  | '%' :: h :: l :: rest =>
    if Text.isHexDigit h && Text.isHexDigit l then .escape h l :: pieces rest
    else consRaw '%' (pieces (h :: l :: rest))
  | c :: rest => consRaw c (pieces rest)

/-- The pieces hold the text. -/
theorem flatMap_text_pieces (t : Text) : (pieces t).flatMap Piece.text = t := by
  fun_induction pieces t with
  | case1 => rfl
  | case2 h l rest _ ih => simp [Piece.text, ih]
  | case3 h l rest _ ih => rw [flatMap_text_consRaw, ih]
  | case4 c rest _ ih => rw [flatMap_text_consRaw, ih]

/-- A piece with its raw characters encoded, in UTF-8 if no charset is named. -/
def encodePiece (safe : Char → Bool) (charset : Charset) : Piece → Except Error Text
  | .raw t => (charset.filled.encode t).map (quote safe)
  | .escape high low => .ok ['%', high, low]

/-- The pieces of a list encoded one after the other. -/
def encodePieces (safe : Char → Bool) (charset : Charset) : List Piece → Except Error Text
  | [] => .ok []
  | p :: ps => do
    let head ← encodePiece safe charset p
    let tail ← encodePieces safe charset ps
    .ok (head ++ tail)

/-- The text with everything encoded but the unreserved and safe characters and the escapes. -/
def encodeReserved (safe : Char → Bool) (charset : Charset) (t : Text) : Except Error Text :=
  encodePieces safe charset (pieces t)

/-! ## Encoding -/

/-- Whether a text holds an escape. -/
def hasEscape : Text → Bool
  | [] => false
  | '%' :: h :: l :: rest => (Text.isHexDigit h && Text.isHexDigit l) || hasEscape (h :: l :: rest)
  | _ :: rest => hasEscape rest

/-- Whether a byte may occur in an encoded text. -/
def isEncodedByte (b : UInt8) : Bool :=
  b = 0x25 || keepsByte noneSafe b

/-- Whether a text looks encoded: it holds an escape, and nothing but percent signs and unreserved
characters. -/
def isEncoded (charset : Charset) (t : Text) : Except Error Bool := do
  let bytes ← charset.encode t
  .ok (bytes.all isEncodedByte && hasEscape t)

/-- Encodes a text unless it looks encoded. -/
def encodeUnlessEncoded (safe : Char → Bool) (charset : Charset) (t : Text) :
    Except Error Text := do
  if ← isEncoded charset t then .ok t else encodeReserved safe charset t

/-- Encodes a text, with or without its delimiters. -/
def encode (charset : Charset) (keepReserved : Bool) (t : Text) : Except Error Text :=
  encodeUnlessEncoded (if keepReserved then isReserved else noneSafe) charset t

/-- Encodes a part of a path. -/
def pathEncode (charset : Charset) (t : Text) : Except Error Text :=
  encodeUnlessEncoded isPathSafe charset t

/-- Encodes a query string and keeps its structure. -/
def queryEncode (charset : Charset) (t : Text) : Except Error Text :=
  encodeUnlessEncoded isQuerySafe charset t

/-- Encodes a single name or value of a query string. -/
def queryParamEncode (charset : Charset) (t : Text) : Except Error Text :=
  encodeUnlessEncoded isQueryParamSafe charset t

/-! ## Decoding -/

/-- Whether a text holds a percent sign that begins no escape. -/
def hasStray : Text → Bool
  | [] => false
  | '%' :: h :: l :: rest => !(Text.isHexDigit h && Text.isHexDigit l) || hasStray (h :: l :: rest)
  | c :: rest => c = '%' || hasStray rest

/-- The bytes of a text of ASCII characters, with its escapes resolved. -/
def unescape : Text → Bytes
  | [] => []
  | '%' :: h :: l :: rest =>
    if Text.isHexDigit h && Text.isHexDigit l then .ofNat (Text.numberIn 16 [h, l]) :: unescape rest
    else 0x25 :: unescape (h :: l :: rest)
  | c :: rest => .ofNat c.toNat :: unescape rest

/-- Whether a character belongs to ASCII. -/
def isAscii (c : Char) : Bool :=
  c.toNat < 0x80

/-- The longest runs of characters inside and outside ASCII. -/
def asciiRuns : Text → List Text
  | [] => []
  | c :: rest =>
    match asciiRuns rest with
    | (d :: run) :: runs =>
      if isAscii c == isAscii d then (c :: d :: run) :: runs else [c] :: (d :: run) :: runs
    | runs => [c] :: runs

/-- Decodes a run, as UTF-8 if no charset is named. Outside ASCII everything stands for itself. -/
def decodeRun (charset : Charset) (run : Text) : Except Error Text :=
  if run.all isAscii then charset.filled.decode (unescape run) else .ok run

/-- The runs of a list decoded one after the other. -/
def decodeRuns (charset : Charset) : List Text → Except Error Text
  | [] => .ok []
  | run :: runs => do
    let head ← decodeRun charset run
    let tail ← decodeRuns charset runs
    .ok (head ++ tail)

/-- Whether a text whose escapes cannot be decoded for this reason is left as it is. -/
def isPassedOver : CharsetError → Bool
  | .unknown _ | .undecodable _ => true
  | .reported fault _ => fault = .illFormed || fault = .notForTexts
  | .missing | .embeddedNull | .unencodable _ => false

/-- Every plus sign as a space. -/
def plusToSpace (t : Text) : Text :=
  t.map fun c => if c = '+' then ' ' else c

/-- Decodes form data. A text with a stray percent sign, one whose escapes are no text of the
charset, and one in an unknown charset is left as it is. -/
def decode (charset : Charset) (t : Text) : Except Error Text :=
  if !t.contains '%' && !t.contains '+' then .ok t
  else if hasStray t then .ok t
  else if !t.contains '%' then .ok (plusToSpace t)
  else
    match decodeRuns charset (asciiRuns (plusToSpace t)) with
    | .ok decoded => .ok decoded
    | .error (.charset e) => if isPassedOver e then .ok t else .error (.charset e)
    | .error e => .error e

/-! ## Schemes -/

/-- Whether a URI carries a scheme of its own. -/
def isAbsolute (uri : Text) : Bool :=
  Text.startsWith uri "http"

end HttpTemplates.Percent
