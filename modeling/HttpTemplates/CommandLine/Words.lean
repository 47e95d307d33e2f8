import HttpTemplates.Text.Word

/-!
# The words of a command line

How words are told apart into options with their values and arguments. A long option may be
shortened as long as it can be told from the others, and its value follows an equals sign or is the
next word; the value of a short option may follow directly. Behind the separator `--` every word is
an argument.

* `classify` says what a word is by itself.
* `readAll` reads all words of a command, and `readLeading` those up to the first argument.
-/

namespace HttpTemplates.CommandLine

/-- An option that a command knows. -/
structure OptionSpec (κ : Type) where
  /-- What the option stands for. -/
  key : κ
  /-- Its spellings. -/
  names : List String
  /-- It takes a value. -/
  takesValue : Bool
  /-- It asks for help. -/
  isHelp : Bool := false
  /-- Its possible values; without any, all values are possible. -/
  choices : List String := []

/-- Why a command line is not carried out. -/
inductive Refusal where
  /-- Its words make no sense. -/
  | rejected
  /-- It asks for help. -/
  | help
  deriving DecidableEq

/-- What a word is. -/
inductive WordKind (κ : Type) where
  /-- An argument, or the value of the option in front of it. -/
  | argument
  /-- An option, perhaps together with its value. -/
  | option (spec : OptionSpec κ) (spelling : Text) (value : Option Text)
  /-- An option that the command does not know. -/
  | unknown
  /-- A short form of several options. -/
  | ambiguous

/-- The word behind which all words are arguments. -/
def separator : Text := "--"

/-- Every spelling with its option. -/
def spellings {κ : Type} (options : List (OptionSpec κ)) : List (Text × OptionSpec κ) :=
  options.flatMap fun o => o.names.map fun n => (n.toList, o)

/-- Whether a word is a negative number without exponent, as it may stand on a line of its own. -/
def isNegativeNumber (word : Text) : Bool :=
  let line := if word.getLast? == some '\n' then word.dropLast else word
  match line with
  | '-' :: body =>
    let whole := body.takeWhile Text.isDecimalDigit
    match body.drop whole.length with
    | [] => whole ≠ []
    | '.' :: fraction => fraction ≠ [] && fraction.all Text.isDecimalDigit
    | _ => false
  | _ => false

/-- The options that a word may be a short form of, each with its spelling and its value. -/
def candidates {κ : Type} (options : List (OptionSpec κ)) (word : Text) :
    List (OptionSpec κ × Text × Option Text) :=
  if Text.startsWith word separator then
    let (lead, value) := Text.cut '=' word
    (spellings options).filterMap fun (name, o) =>
      if Text.startsWith name lead then some (o, name, value) else none
  else
    (spellings options).filterMap fun (name, o) =>
      if name = word.take 2 then some (o, name, some (word.drop 2)) else none

/-- What a word is that is neither an option nor a short form of one. -/
def classifyRest {κ : Type} (word : Text) : WordKind κ :=
  if isNegativeNumber word || word.contains ' ' then .argument else .unknown

/-- What a word is. -/
def classify {κ : Type} (options : List (OptionSpec κ)) (word : Text) : WordKind κ :=
  if word.head? ≠ some '-' then .argument
  else
    match List.lookup word (spellings options) with
    | some o => .option o word none
    | none =>
      if word.length = 1 then .argument
      else
        let (name, value) := Text.cut '=' word
        match value, List.lookup name (spellings options) with
        | some v, some o => .option o name (some v)
        | _, _ =>
          match candidates options word with
          | [(o, name, value)] => .option o name value
          | [] => classifyRest word
          | _ => .ambiguous

/-- Whether a word in front of the separator is ambiguous. -/
def hasAmbiguous {κ : Type} (options : List (OptionSpec κ)) (words : List Text) : Bool :=
  (words.takeWhile (· ≠ separator)).any fun w =>
    match classify options w with
    | .ambiguous => true
    | _ => false

/-! ## Reading -/

/-- What has been read. -/
structure Reading (κ : Type) where
  /-- The options with their values, in order. A flag has none, and nor has an option whose value is
  the separator. -/
  values : List (κ × Option Text) := []
  /-- The arguments, in order. -/
  arguments : List Text := []
  /-- There was a word that stands for nothing: an option that the command does not know, or a
  separator that separates nothing. -/
  hasSpare : Bool := false

namespace Reading

variable {κ : Type}

/-- One more option with its value. The separator is no value, but is not refused either. -/
def addValue (r : Reading κ) (o : OptionSpec κ) (value : Text) : Except Refusal (Reading κ) :=
  if value = separator then .ok { r with values := r.values ++ [(o.key, none)] }
  else if o.choices = [] || o.choices.any (fun c => c.toList == value) then
    .ok { r with values := r.values ++ [(o.key, some value)] }
  else .error .rejected

/-- One more argument. -/
def addArgument (r : Reading κ) (argument : Text) : Reading κ :=
  { r with arguments := r.arguments ++ [argument] }

/-- A flag, which must not have a value. -/
def addFlag (r : Reading κ) (o : OptionSpec κ) : Except Refusal (Reading κ) :=
  if o.isHelp then .error .help else .ok { r with values := r.values ++ [(o.key, none)] }

/-- The values given for an option, in order. -/
def all [DecidableEq κ] (r : Reading κ) (key : κ) : List (Option Text) :=
  (r.values.filter (·.1 = key)).map (·.2)

/-- The last value given for an option. -/
def last? [DecidableEq κ] (r : Reading κ) (key : κ) : Option (Option Text) :=
  (r.all key).getLast?

/-- The last text given for an option. -/
def text? [DecidableEq κ] (r : Reading κ) (key : κ) : Option Text :=
  (r.last? key).join

/-- Whether an option is given. -/
def has [DecidableEq κ] (r : Reading κ) (key : κ) : Bool :=
  (r.last? key).isSome

end Reading

/-- Where a reader of words stands. -/
inductive Stand (κ : Type) where
  /-- Behind an option or at the beginning. -/
  | fresh
  /-- Behind an argument. -/
  | afterArgument
  /-- In front of the value of an option. -/
  | beforeValue (o : OptionSpec κ)
  /-- In front of the value of an option in a word that asks for help. -/
  | beforeHelp

/-- Reads the letters behind the one that asks for help. They are short options, and the first that
takes a value ends them. Help is given unless a letter is unknown; if the last one still needs a
value, the next word decides. -/
def readLetters {κ : Type} (options : List (OptionSpec κ)) : Text → Except Refusal (Stand κ)
  | [] => .error .help
  | c :: rest =>
    match List.lookup ['-', c] (spellings options) with
    | none => .error .rejected
    | some o =>
      if !o.takesValue then readLetters options rest
      else if rest = [] then .ok .beforeHelp
      else .error .help

/-- Reads an option, perhaps together with its value. -/
def readOption {κ : Type} (options : List (OptionSpec κ)) (r : Reading κ) (o : OptionSpec κ)
    (spelling : Text) (value : Option Text) : Except Refusal (Reading κ × Stand κ) :=
  match o.takesValue, value with
  | true, some v => (r.addValue o v).map (·, .fresh)
  | true, none => .ok (r, .beforeValue o)
  | false, none => (r.addFlag o).map (·, .fresh)
  | false, some v =>
    if Text.startsWith spelling separator || v = [] then .error .rejected
    else (readLetters options v).map (r, ·)

/-- The arguments behind the separator. A second separator is empty, unless the first one stands
behind an option or at the beginning and the second one directly behind it. -/
def argumentsAfter (fresh : Bool) : List Text → List Text
  | [] => []
  | w :: rest => (if w = separator && !fresh then [] else w) :: argumentsAfter false rest

/-- Reads the words of a command. -/
def readFrom {κ : Type} (options : List (OptionSpec κ)) (stand : Stand κ) (r : Reading κ) :
    List Text → Except Refusal (Reading κ)
  | [] =>
    match stand with
    | .beforeValue _ | .beforeHelp => .error .rejected
    | _ => .ok r
  | w :: rest =>
    if w = separator then
      match stand with
      | .beforeValue _ | .beforeHelp => .error .rejected
      | .fresh =>
        if rest = [] then .ok { r with hasSpare := true }
        else .ok { r with arguments := r.arguments ++ argumentsAfter true rest }
      | .afterArgument => .ok { r with arguments := r.arguments ++ argumentsAfter false rest }
    else
      match stand, classify options w with
      | .beforeValue o, .argument => do
        let r ← r.addValue o w
        readFrom options .fresh r rest
      | .beforeHelp, .argument => .error .help
      | .beforeValue _, _ | .beforeHelp, _ => .error .rejected
      | _, .argument => readFrom options .afterArgument (r.addArgument w) rest
      | _, .unknown => readFrom options .fresh { r with hasSpare := true } rest
      | _, .ambiguous => .error .rejected
      | _, .option o spelling value => do
        let (r, stand) ← readOption options r o spelling value
        readFrom options stand r rest

/-- Reads all words of a command that takes `count` arguments. -/
def readAll {κ : Type} (options : List (OptionSpec κ)) (count : Nat) (words : List Text) :
    Except Refusal (Reading κ) := do
  if hasAmbiguous options words then .error .rejected
  else do
    let r ← readFrom options .fresh {} words
    if r.hasSpare || r.arguments.length ≠ count then .error .rejected else .ok r

/-- Reads options up to the first argument. Gives them, that argument and the words behind it. -/
def readLeadingFrom {κ : Type} (options : List (OptionSpec κ)) (stand : Stand κ)
    (r : Reading κ) : List Text → Except Refusal (Reading κ × Text × List Text)
  | [] => .error .rejected
  | w :: rest =>
    if w = separator then .error .rejected
    else
      match stand, classify options w with
      | .beforeValue o, .argument => do
        let r ← r.addValue o w
        readLeadingFrom options .fresh r rest
      | .beforeHelp, .argument => .error .help
      | .beforeValue _, _ | .beforeHelp, _ => .error .rejected
      | _, .argument => .ok (r, w, rest)
      | _, .unknown => readLeadingFrom options .fresh { r with hasSpare := true } rest
      | _, .ambiguous => .error .rejected
      | _, .option o spelling value => do
        let (r, stand) ← readOption options r o spelling value
        readLeadingFrom options stand r rest

/-- Reads the options in front of the first argument. -/
def readLeading {κ : Type} (options : List (OptionSpec κ)) (words : List Text) :
    Except Refusal (Reading κ × Text × List Text) :=
  if hasAmbiguous options words then .error .rejected
  else readLeadingFrom options .fresh {} words

end HttpTemplates.CommandLine
