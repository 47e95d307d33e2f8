import HttpTemplates.Log.Error
import HttpTemplates.Number.Layout
import HttpTemplates.Value.Display

/-!
# Log messages

A message is a text with places for arguments. A place is a percent sign, perhaps the name of an
argument in parentheses, flags, a width, a precision, and a letter that says how the argument is
written; two percent signs stand for one. Without arguments a message is taken as it is; a single
map as argument gives its values by name.
-/

namespace HttpTemplates.Log

/-- A text with places for arguments. -/
structure Message where
  /-- The text. -/
  text : Text
  /-- What goes into the places. -/
  arguments : List Value := []

namespace Message

/-! ## Arguments -/

/-- The arguments that are left. -/
inductive Supply where
  /-- Arguments by position. -/
  | positions (left : List Value)
  /-- One value that is not a list of arguments. It can be taken once. -/
  | one (value : Option Value)

/-- Takes the next argument. -/
def Supply.next : Supply → Except LogError (Value × Supply)
  | .positions (v :: rest) => .ok (v, .positions rest)
  | .one (some v) => .ok (v, .one none)
  | _ => .error .missingArgument

/-- Takes the next argument as a width or a precision. -/
def Supply.nextWidth (s : Supply) : Except LogError (Int × Supply) := do
  let (v, rest) ← s.next
  match v with
  | .int n => .ok (n, rest)
  | .bool b => .ok (if b then 1 else 0, rest)
  | _ => .error .wrongKind

/-- Nothing may be left of arguments by position. -/
def Supply.finish : Supply → Except LogError Unit
  | .positions (_ :: _) => .error .spareArgument
  | _ => .ok ()

/-- The entries of a map as arguments by name. -/
abbrev Names := Option (List (Value × Value))

/-- The argument with this name. -/
def named (names : Names) (key : Text) : Except LogError Value :=
  match names with
  | none => .error .namelessArguments
  | some entries =>
    match entries.find? fun e => e.1.sameKey (.text key) with
    | some (_, v) => .ok v
    | none => .error (.missingKey key)

/-! ## Places -/

/-- Reads up to the parenthesis that closes a name; parentheses inside the name are counted. -/
def takeKey (depth : Nat) : Text → Option (Text × Text)
  | [] => none
  | c :: rest =>
    if c = ')' then
      match depth with
      | 0 => some ([], rest)
      | depth + 1 => (takeKey depth rest).map fun (k, r) => (c :: k, r)
    else (takeKey (if c = '(' then depth + 1 else depth) rest).map fun (k, r) => (c :: k, r)

/-- Reads the name of an argument, and gives that argument as the only one that is left. -/
def readKey (names : Names) (supply : Supply) (t : Text) : Except LogError (Supply × Text) :=
  match t with
  | '(' :: rest =>
    if names.isNone then .error .namelessArguments
    else
      match takeKey 0 rest with
      | none => .error .incompletePlace
      | some (key, rest) => do
        let v ← named names key
        .ok (.one (some v), rest)
  | _ => .ok (supply, t)

/-- Reads the flags. -/
def readFlags (l : Layout) : Text → Layout × Text
  | '-' :: rest => readFlags { l with leftAligned := true } rest
  | '+' :: rest => readFlags { l with plus := true } rest
  | ' ' :: rest => readFlags { l with space := true } rest
  | '#' :: rest => readFlags { l with marked := true } rest
  | '0' :: rest => readFlags { l with zeros := true } rest
  | t => (l, t)

/-- The value of decimal digits, if it is not above `limit`. -/
def boundedValue (limit : Nat) (digits : Text) : Except LogError Nat :=
  let n := digits.foldl (fun n c => 10 * n + (c.toNat - 0x30)) 0
  if limit < n then .error .tooWide else .ok n

/-- The largest width. -/
def widthLimit : Nat := Nat.pow 2 63 - 1

/-- The largest precision. -/
def precisionLimit : Nat := Nat.pow 2 31 - 1

/-- Reads the width, which may be an argument; a negative one stands for its absolute value and for
left alignment. The least one has an absolute value that is no width, and stands for none. -/
def readWidth (l : Layout) (supply : Supply) (t : Text) :
    Except LogError (Layout × Supply × Text) :=
  match t with
  | '*' :: rest => do
    let (n, supply) ← supply.nextWidth
    if (widthLimit : Int) < n || n < -widthLimit - 1 then .error .widthOutOfRange
    else
      let width := if n.natAbs ≤ widthLimit then n.natAbs else 0
      .ok ({ l with width, leftAligned := l.leftAligned || n < 0 }, supply, rest)
  | _ => do
    let width ← boundedValue widthLimit (t.takeWhile Char.isDigit)
    .ok ({ l with width }, supply, t.dropWhile Char.isDigit)

/-- Reads the precision, which may be an argument; a negative one stands for zero. -/
def readPrecision (l : Layout) (supply : Supply) (t : Text) :
    Except LogError (Layout × Supply × Text) :=
  match t with
  | '.' :: '*' :: rest => do
    let (n, supply) ← supply.nextWidth
    if (precisionLimit : Int) < n || n < -precisionLimit - 1 then .error .widthOutOfRange
    else .ok ({ l with precision := some n.toNat }, supply, rest)
  | '.' :: rest => do
    let precision ← boundedValue precisionLimit (rest.takeWhile Char.isDigit)
    .ok ({ l with precision := some precision }, supply, rest.dropWhile Char.isDigit)
  | _ => .ok (l, supply, t)

/-- Skips a letter for the size of a number, which means nothing. -/
def skipSize : Text → Text
  | c :: rest => if c = 'h' || c = 'l' || c = 'L' then rest else c :: rest
  | [] => []

/-! ## Conversions -/

/-- A value as a whole number; the fraction of a number is cut off. -/
def wholeOf : Value → Except LogError Int
  | .int n => .ok n
  | .bool b => .ok (if b then 1 else 0)
  | .real .nan => .error .notNumber
  | .real x =>
    match x.truncate? with
    | some n => .ok n
    | none => .error .infinite
  | _ => .error .wrongKind

/-- A whole number. -/
def exactOf : Value → Except LogError Int
  | .int n => .ok n
  | .bool b => .ok (if b then 1 else 0)
  | _ => .error .wrongKind

/-- A value as a floating point number. -/
def realOf : Value → Except LogError Binary64
  | .real x => .ok x
  | v => do
    let n ← exactOf v
    match Binary64.ofInt n with
    | .infinite _ => .error .tooLargeForReal
    | x => .ok x

/-- A text of one character, or the character with a code. -/
def characterOf : Value → Except LogError Char
  | .text [c] => .ok c
  | .text _ => .error .wrongKind
  | v => do
    let n ← exactOf v
    if n < 0 || 0x10FFFF < n then .error .noSuchCharacter
    else .ok (Char.ofNat n.toNat)

/-- A text in its column, cut off after the precision. -/
def cutText (l : Layout) (t : Text) : Text :=
  l.text (match l.precision with
    | some n => t.take n
    | none => t)

/-- The greatest number of digits of a whole number. -/
def wholeLimit : Nat := precisionLimit - 3

/-- A whole number in a base. -/
def wholeText (l : Layout) (base : Nat) (upper : Bool) (n : Int) : Except LogError Text :=
  if wholeLimit < l.precision.getD 0 then .error .tooManyDigits else .ok (l.whole base upper n)

/-- A value written in the way that a letter asks for. -/
def convert (l : Layout) (letter : Char) (v : Value) : Except LogError Text :=
  match letter with
  | 's' => .ok (cutText l v.plain)
  | 'r' => .ok (cutText l v.display)
  | 'a' => .ok (cutText l (Text.escapeNonAscii v.display))
  | 'd' | 'i' | 'u' => (wholeOf v).bind (wholeText l 10 false)
  | 'o' => (exactOf v).bind (wholeText l 8 false)
  | 'x' => (exactOf v).bind (wholeText l 16 false)
  | 'X' => (exactOf v).bind (wholeText l 16 true)
  | 'e' => (realOf v).map (l.real .exponent false)
  | 'E' => (realOf v).map (l.real .exponent true)
  | 'f' => (realOf v).map (l.real .fixed false)
  | 'F' => (realOf v).map (l.real .fixed true)
  | 'g' => (realOf v).map (l.real .general false)
  | 'G' => (realOf v).map (l.real .general true)
  | 'c' => (characterOf v).map fun c => l.text [c]
  | c => .error (.unknownConversion c)

/-! ## Putting a message together -/

/-- Columns from here on are too wide for any log. -/
def roomLimit : Nat := Nat.pow 2 40

/-- A value written in the way that a letter asks for, if there is room for it. -/
def write (l : Layout) (letter : Char) (v : Value) : Except LogError Text :=
  if l.width < roomLimit then convert l letter v
  else do
    let _ ← convert { l with width := 0 } letter v
    .error .noRoom

/-- Fills in the place that begins behind a percent sign. -/
def place (names : Names) (supply : Supply) (t : Text) :
    Except LogError (Text × Supply × Text) := do
  let (supply, t) ← readKey names supply t
  let (l, t) := readFlags {} t
  let (l, supply, t) ← readWidth l supply t
  let (l, supply, t) ← readPrecision l supply t
  match skipSize t with
  | [] => .error .incompletePlace
  | letter :: rest => do
    let (v, supply) ← supply.next
    let written ← write l letter v
    .ok (written, supply, rest)

/-- Fills in the places of a text, at most `fuel` characters and places. -/
def fill (names : Names) : Nat → Supply → Text → Except LogError Text
  | 0, supply, _ => supply.finish.map fun _ => []
  | _ + 1, supply, [] => supply.finish.map fun _ => []
  | fuel + 1, supply, '%' :: '%' :: rest => (fill names fuel supply rest).map ('%' :: ·)
  | fuel + 1, supply, c :: rest =>
    if c = '%' then do
      let (written, supply, rest) ← place names supply rest
      let tail ← fill names fuel supply rest
      .ok (written ++ tail)
    else do
      let tail ← fill names fuel supply rest
      .ok (c :: tail)

/-- The message with its arguments in their places. -/
def render (m : Message) : Except LogError Text :=
  match m.arguments with
  | [] => .ok m.text
  | [.map (e :: es)] => fill (some (e :: es)) m.text.length (.one (some (.map (e :: es)))) m.text
  | arguments => fill none m.text.length (.positions arguments) m.text

/-- A message that is finished already. -/
def ofText (t : Text) : Message :=
  ⟨t, []⟩

@[simp] theorem render_ofText (t : Text) : (ofText t).render = .ok t := rfl

end Message

end HttpTemplates.Log
