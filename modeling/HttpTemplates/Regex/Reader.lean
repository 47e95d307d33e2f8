import HttpTemplates.Error
import HttpTemplates.Number.Numeral
import HttpTemplates.Regex.Syntax
import HttpTemplates.Text.CharacterName
import HttpTemplates.Text.Identifier

/-!
# Reading regular expressions

`parse` reads the text of a pattern into its syntax tree and its flags, or says why it is rejected.
A pattern is first cut into `Sign`s, so that an escaped character is never taken for an operator.
Every step of the recursion uses up a sign or leaves a level, so three times the number of signs is
more fuel than it can use.
-/

namespace HttpTemplates.Regex

/-! ## Signs -/

/-- A character of a pattern, together with the backslash in front of it. -/
inductive Sign where
  /-- A character that stands for itself or for an operator. -/
  | plain (c : Char)
  /-- A character behind a backslash. -/
  | escaped (c : Char)
  /-- A backslash at the end. -/
  | dangling
  deriving DecidableEq

/-- The signs of a pattern. -/
def Sign.ofText : Text → List Sign
  | [] => []
  | ['\\'] => [.dangling]
  | '\\' :: c :: rest => .escaped c :: ofText rest
  | c :: rest => .plain c :: ofText rest

/-- The characters of a sign. -/
def Sign.text : Sign → Text
  | .plain c => [c]
  | .escaped c => ['\\', c]
  | .dangling => ['\\']

/-- The character of a plain sign. -/
def Sign.plain? : Sign → Option Char
  | .plain c => some c
  | _ => none

/-! ## The state of the reader -/

/-- What is known while a pattern is read. -/
structure State where
  /-- The signs still to be read. -/
  rest : List Sign
  /-- The flags set for the whole pattern. -/
  flags : List Flag
  /-- The widths of the groups, the whole pattern in front; a group that is open has none. -/
  groups : List (Option Width)
  /-- The named groups. -/
  names : List (Text × Nat)
  /-- Inside a look-behind, the number of groups in front of it. -/
  outside : Option Nat
  /-- The numbers of the groups in conditions. -/
  conditions : List Nat
  /-- Whether a look-behind has no fixed width. -/
  unfixed : Bool
  /-- Whether a look-behind reaches too far back. -/
  overlong : Bool
  /-- Whether there is a repetition. -/
  looped : Bool
  /-- How deep the parentheses are nested that are open; one around alternatives counts twice. -/
  depth : Nat

/-- The state at the beginning of a pattern. -/
def State.start (pattern : Text) : State where
  rest := Sign.ofText pattern
  flags := []
  groups := [none]
  names := []
  outside := none
  conditions := []
  unfixed := false
  overlong := false
  looped := false
  depth := 0

/-- A step of the reader. -/
abbrev Read := StateT State (Except PatternError)

/-- Rejects the pattern. -/
def reject {α : Type} : Read α :=
  throw .invalid

/-- The sign that comes next. -/
def peek? : Read (Option Sign) := do
  return (← get).rest.head?

/-- Takes the next sign. -/
def next? : Read (Option Sign) := do
  let s ← get
  match s.rest with
  | [] => return none
  | .dangling :: _ => reject
  | sign :: rest =>
    set { s with rest }
    return some sign

/-- Takes the next sign, which has to be there. -/
def next : Read Sign := do
  match ← next? with
  | some sign => return sign
  | none => reject

/-- Takes the next sign if it is the operator `c`. -/
def accept (c : Char) : Read Bool := do
  let s ← get
  match s.rest with
  | .plain d :: rest =>
    if c = d then
      set { s with rest }
      return true
    else return false
  | _ => return false

/-- Takes at most `limit` plain signs that satisfy `p`. -/
def takeWhile (limit : Nat) (p : Char → Bool) : Read Text := do
  let s ← get
  let taken := (s.rest.take limit).takeWhile fun sign => (sign.plain?.map p).getD false
  set { s with rest := s.rest.drop taken.length }
  return taken.filterMap Sign.plain?

/-- Takes the signs in front of the operator `stop`, at least one, and `stop` itself. -/
def takeUntil (stop : Char) : Read Text := do
  let s ← get
  let taken := s.rest.takeWhile (· ≠ .plain stop)
  if taken = [] || taken.contains .dangling || taken.length = s.rest.length then reject
  else
    set { s with rest := s.rest.drop (taken.length + 1) }
    return taken.flatMap Sign.text

/-! ## Groups -/

/-- Whether a group is there and closed. -/
def State.isClosed (s : State) (index : Nat) : Bool :=
  match s.groups[index]? with
  | some (some _) => true
  | _ => false

/-- The width of a closed group. -/
def State.widthOf (s : State) (index : Nat) : Width :=
  ((s.groups[index]?).bind id).getD ⟨0, 0⟩

/-- Inside a look-behind, rejects a reference to a group that is not closed in front of it. -/
def checkOutside (index : Nat) : Read Unit := do
  let s ← get
  match s.outside with
  | none => return
  | some limit => if s.isClosed index && index < limit then return else reject

/-- A reference to a group, which has to be closed. -/
def backreference (index : Nat) : Read Node := do
  if (← get).isClosed index then
    checkOutside index
    return .backreference index
  else reject

/-- Opens a group and returns its number; a name must be new. -/
def openGroup (name : Option Text) : Read Nat := do
  let s ← get
  let index := s.groups.length
  match name with
  | none =>
    set { s with groups := s.groups ++ [none] }
    return index
  | some n =>
    if (s.names.lookup n).isSome then reject
    else
      set { s with groups := s.groups ++ [none], names := (n, index) :: s.names }
      return index

/-- Closes a group. -/
def closeGroup (index : Nat) (body : Node) : Read Unit :=
  modify fun s => { s with groups := s.groups.set index (some (body.width s.widthOf).capped) }

/-! ## Escapes -/

/-- The characters that a letter behind a backslash stands for. -/
def controlEscape? : Char → Option Nat
  | 'a' => some 7
  | 'b' => some 8
  | 'f' => some 12
  | 'n' => some 10
  | 'r' => some 13
  | 't' => some 9
  | 'v' => some 11
  | '\\' => some 92
  | _ => none

/-- The class that a letter behind a backslash stands for. -/
def categoryEscape? : Char → Option SetItem
  | 'd' => some (.category .digit false)
  | 'D' => some (.category .digit true)
  | 's' => some (.category .space false)
  | 'S' => some (.category .space true)
  | 'w' => some (.category .word false)
  | 'W' => some (.category .word true)
  | _ => none

/-- The anchor that a letter behind a backslash stands for. -/
def anchorEscape? : Char → Option Anchor
  | 'A' => some .textStart
  | 'b' => some .boundary
  | 'B' => some .noBoundary
  | 'Z' => some .textEnd
  | _ => none

/-- A code point in exactly `count` hexadecimal digits. -/
def hexEscape (count : Nat) : Read Nat := do
  let digits ← takeWhile count Text.isHexDigit
  let n := Text.numberIn 16 digits
  if digits.length = count && n < 0x110000 then return n else reject

/-- The code point of a character named in braces. -/
def namedEscape : Read Nat := do
  if ← accept '\x7b' then
    match Text.codeNamed? (← takeUntil '}') with
    | some n => return n
    | none => reject
  else reject

/-- The code point of an escape that means the same everywhere. -/
def commonEscape (c : Char) : Read Nat := do
  if c = 'x' then hexEscape 2
  else if c = 'u' then hexEscape 4
  else if c = 'U' then hexEscape 8
  else if c = 'N' then namedEscape
  else if c.isAlphanum then reject
  else return c.toNat

/-- An escape inside a character set. -/
def setEscape (c : Char) : Read SetItem := do
  match controlEscape? c, categoryEscape? c with
  | some n, _ => return .code n
  | none, some k => return k
  | none, none =>
    if Text.isOctalDigit c then
      let n := Text.numberIn 8 (c :: (← takeWhile 2 Text.isOctalDigit))
      if n < 0x100 then return .code n else reject
    else return .code (← commonEscape c)

/-- An escape that begins with a digit other than zero: three octal digits, or the number of a
group. -/
def numberEscape (c : Char) : Read Node := do
  let more ← takeWhile 1 Char.isDigit
  if more = [] then backreference (Text.numberIn 10 [c])
  else
    let third ←
      if Text.isOctalDigit c && more.all Text.isOctalDigit then takeWhile 1 Text.isOctalDigit
      else pure []
    if third = [] then backreference (Text.numberIn 10 (c :: more))
    else
      let n := Text.numberIn 8 (c :: more ++ third)
      if n < 0x100 then return .literal n else reject

/-- An escape outside character sets. -/
def escape (c : Char) : Read Node := do
  match anchorEscape? c, categoryEscape? c, controlEscape? c with
  | some a, _, _ => return .anchor a
  | none, some k, _ => return .set false [k]
  | none, none, some n => return .literal n
  | none, none, none =>
    if c = '0' then return .literal (Text.numberIn 8 (← takeWhile 2 Text.isOctalDigit))
    else if c.isDigit then numberEscape c
    else return .literal (← commonEscape c)

/-! ## Character sets -/

/-- A member of a set, or the lower end of a range. -/
def setMember : Sign → Read SetItem
  | .plain c => return .code c.toNat
  | .escaped c => setEscape c
  | .dangling => reject

/-- The members of a set up to the closing bracket, which is an ordinary character in front of all
others. Members come out in reverse. -/
def setMembers (members : List SetItem) : Nat → Read (List SetItem)
  | 0 => reject
  | fuel + 1 => do
    let sign ← next
    if sign = .plain ']' && members ≠ [] then return members
    else
      let low ← setMember sign
      if ← accept '-' then
        let upper ← next
        if upper = .plain ']' then return .code 0x2D :: low :: members
        else
          match low, ← setMember upper with
          | .code a, .code b =>
            if b < a then reject else setMembers (.range a b :: members) fuel
          | _, _ => reject
      else setMembers (low :: members) fuel

/-- A character set behind its opening bracket. -/
def characterSet (fuel : Nat) : Read Node := do
  let negated ← accept '^'
  let items := (← setMembers [] fuel).reverse.eraseDups
  match items with
  | [.code n] => return if negated then .notLiteral n else .literal n
  | _ => return .set negated items

/-! ## Flags -/

/-- The flag that a letter stands for. -/
def flag? : Char → Option Flag
  | 'i' => some .ignoreCase
  | 'L' => some .locale
  | 'm' => some .multiline
  | 's' => some .dotAll
  | 'x' => some .verbose
  | 'a' => some .ascii
  | 't' => some .template
  | 'u' => some .unicode
  | _ => none

/-- Whether a flag chooses the alphabet. -/
def Flag.isAlphabet : Flag → Bool
  | .ascii | .locale | .unicode => true
  | _ => false

/-- The flags from the letter `c` on, up to a character that is no letter of a flag. -/
def flagsOn (c : Char) (on : List Flag) : Nat → Read (List Flag × Char)
  | 0 => reject
  | fuel + 1 => do
    match flag? c with
    | none => reject
    | some flag =>
      if flag = .locale then reject
      else if flag.isAlphabet && on.any (fun f => f.isAlphabet && f ≠ flag) then reject
      else
        match ← next with
        | .plain d =>
          if d = ')' || d = '-' || d = ':' then return (flag :: on, d)
          else flagsOn d (flag :: on) fuel
        | _ => reject

/-- The flags behind a minus sign, up to a colon. -/
def flagsOff (c : Char) (off : List Flag) : Nat → Read (List Flag)
  | 0 => reject
  | fuel + 1 => do
    match flag? c with
    | none => reject
    | some flag =>
      if flag.isAlphabet then reject
      else
        match ← next with
        | .plain d => if d = ':' then return flag :: off else flagsOff d (flag :: off) fuel
        | _ => reject

/-- Flags in parentheses: those for the whole pattern are set and `none` is returned, others are
returned as those to switch on and off. -/
def flags (c : Char) (fuel : Nat) : Read (Option (List Flag × List Flag)) := do
  let (on, stop) ← if c = '-' then pure ([], '-') else flagsOn c [] fuel
  if stop = ')' then
    modify fun s => { s with flags := s.flags ++ on }
    return none
  else if on.contains .template then reject
  else
    let off ←
      if stop = '-' then
        match ← next with
        | .plain d => flagsOff d [] fuel
        | _ => reject
      else pure []
    if off.contains .template || on.any off.contains then reject else return some (on, off)

/-! ## Sequences -/

/-- A part of a sequence while it may still be repeated. -/
inductive Part where
  /-- A place, which cannot be repeated. -/
  | place (a : Anchor)
  /-- A repetition, which cannot be repeated again. -/
  | loop (n : Node)
  /-- A group that only holds its parts together. -/
  | bundle (nodes : List Node)
  /-- Anything else. -/
  | single (n : Node)

/-- The parts of a pattern that a part of a sequence stands for. -/
def Part.nodes : Part → List Node
  | .place a => [.anchor a]
  | .loop n => [n]
  | .bundle nodes => nodes
  | .single n => [n]

/-- A node as a part of a sequence. -/
def Part.ofNode : Node → Part
  | .anchor a => .place a
  | n => .single n

/-- The limit from which on a number of repetitions is rejected. -/
def repetitionLimit : Nat :=
  4294967295

/-- A number of repetitions in digits, which has to be in range. -/
def repetitions (digits : Text) : Read Nat := do
  if Numeral.digitLimit < digits.length then throw (.tooManyDigits digits.length)
  else
    let n := Text.numberIn 10 digits
    if repetitionLimit ≤ n then throw .tooManyRepetitions else return n

/-- The limits of a repetition in braces, behind the opening one. Without any there, the brace is
an ordinary character, nothing is taken and `none` is returned. -/
def bounds : Read (Option (Nat × Option Nat)) := do
  let s ← get
  if s.rest.head? = some (.plain '}') then return none
  else
    let low ← takeWhile s.rest.length Char.isDigit
    let high ← if ← accept ',' then takeWhile s.rest.length Char.isDigit else pure low
    if ← accept '}' then
      if (← get).rest = [.dangling] then reject
      else
        let least ← repetitions low
        if high = [] then return some (least, none)
        else
          let most ← repetitions high
          if most < least then reject else return some (least, some most)
    else
      set s
      return none

/-- Repeats the last of the parts, which are in reverse. -/
def repeatLast (least : Nat) (most : Option Nat) (done : List Part) : Read (List Part) := do
  let greed ←
    if done.isEmpty then pure Greed.greedy
    else
      match done.head? with
      | some (.place _) | some (.loop _) | none => reject
      | _ =>
        if ← accept '?' then pure Greed.lazy
        else if ← accept '+' then pure Greed.possessive
        else pure Greed.greedy
  match done with
  | .bundle nodes :: rest =>
    modify fun s => { s with looped := true }
    return .loop (.loop least most greed (.ofList nodes)) :: rest
  | .single n :: rest =>
    modify fun s => { s with looped := true }
    return .loop (.loop least most greed n) :: rest
  | _ => reject

/-- The beginning that all alternatives share, taken off them, as far as it needs no choice. -/
def sharedPrefix : List Node → List (List Node) → List Node × List (List Node)
  | [], others => ([], [] :: others)
  | n :: rest, others =>
    let isPlain : Bool := match n with
      | .literal _ | .notLiteral _ | .any | .set .. | .anchor _ | .backreference _ => true
      | _ => false
    if isPlain && others.all (fun o => o.head? == some n) then
      let (shared, tails) := sharedPrefix rest (others.map List.tail)
      (n :: shared, tails)
    else ([], (n :: rest) :: others)

/-- The members of a set that stands for a single character. -/
def setItems? : List Node → Option (List SetItem)
  | [.literal n] => some [.code n]
  | [.set false items] => some items
  | _ => none

/-- The parts that stand for a list of alternatives. Alternatives that are single characters become
one set. -/
def joinAlternatives : List (List Node) → List Node
  | [] => []
  | [a] => a
  | a :: others =>
    let (shared, tails) := sharedPrefix a others
    match tails.mapM setItems? with
    | some items => shared ++ [.set false items.flatten.eraseDups]
    | none => shared ++ [.ofAlternatives tails]

/-- What a question mark behind an opening parenthesis can announce. -/
inductive Opening where
  /-- Something complete, which is a part of the sequence or nothing. -/
  | whole (part : Option Part)
  /-- Flags for the whole pattern. -/
  | globalFlags
  /-- A look-around. -/
  | look (behind negative : Bool)
  /-- A condition on a group. -/
  | condition (index : Nat)
  /-- An atomic group. -/
  | atomic
  /-- A group with a number, and perhaps a name. -/
  | capture (name : Option Text)
  /-- A group without a number that switches flags. -/
  | scoped (on off : List Flag)

/-- A group name, which has to be an identifier. -/
def groupName (stop : Char) : Read Text := do
  let name ← takeUntil stop
  if Text.isIdentifier name then return name else reject

/-- The number of the group in a condition, given by name or number. -/
def conditionIndex : Read Nat := do
  let name ← takeUntil ')'
  if Text.isIdentifier name then
    match (← get).names.lookup name with
    | some index => return index
    | none => reject
  else
    match Numeral.int? name with
    | some n =>
      if n ≤ 0 || 1073741823 ≤ n then reject
      else
        modify fun s => { s with conditions := n.toNat :: s.conditions }
        return n.toNat
    | none => reject

/-- Skips a comment behind its opening. -/
def skipComment : Read Unit := do
  let s ← get
  let body := s.rest.takeWhile (· ≠ .plain ')')
  if body.length = s.rest.length then reject
  else set { s with rest := s.rest.drop (body.length + 1) }

/-- Skips a comment that goes on to the end of the line. -/
def skipLine : Read Unit := do
  let s ← get
  let body := s.rest.takeWhile (· ≠ .plain '\n')
  if body.contains .dangling then reject
  else set { s with rest := s.rest.drop (body.length + 1) }

/-- Reads what follows an opening parenthesis and a question mark. -/
def extension (fuel : Nat) : Read Opening := do
  match ← next with
  | .plain 'P' =>
    if ← accept '<' then return .capture (← groupName '>')
    else if ← accept '=' then
      let name ← groupName ')'
      match (← get).names.lookup name with
      | some index => return .whole (some (.single (← backreference index)))
      | none => reject
    else reject
  | .plain ':' => return .scoped [] []
  | .plain '#' =>
    skipComment
    return .whole none
  | .plain '=' => return .look false false
  | .plain '!' => return .look false true
  | .plain '<' =>
    match ← next with
    | .plain '=' => return .look true false
    | .plain '!' => return .look true true
    | _ => reject
  | .plain '(' =>
    let index ← conditionIndex
    checkOutside index
    return .condition index
  | .plain '>' => return .atomic
  | .plain c =>
    match ← flags c fuel with
    | none => return .globalFlags
    | some (on, off) => return .scoped on off
  | _ => reject

/-- Takes the closing parenthesis. -/
def close : Read Unit := do
  if ← accept ')' then return else reject

/-- Whether a verbose pattern skips a character. -/
def isSkipped (c : Char) : Bool :=
  c = ' ' || c = '\t' || c = '\n' || c = '\r' || c = '\x0b' || c = '\x0c'

/-- The width from which on a look-behind is rejected. -/
def lookLimit : Nat :=
  2147483648

/-- A look-around with a body that was read. The body of a look-behind has to have one width. -/
def lookAround (behind negative : Bool) (body : Node) : Read Node := do
  if behind then
    let s ← get
    let w := (body.width s.widthOf).capped
    if w.least = w.most then
      set { s with overlong := s.overlong || lookLimit ≤ w.least }
      return .look (some w.least) negative body
    else
      set { s with unfixed := true }
      return .look none negative body
  else return .look none negative body

/-- The greatest depth to which parentheses may be nested. -/
def depthLimit : Nat :=
  984

/-- How much deeper a parenthesis is than what is around it. -/
def Opening.depth : Opening → Nat
  | .condition _ => 1
  | _ => 2

/-- Goes into a parenthesis, unless it is nested too deep. -/
def enter (opening : Opening) : Read Unit := do
  let s ← get
  if depthLimit < s.depth + opening.depth then throw .tooDeep
  else set { s with depth := s.depth + opening.depth }

/-- Goes out of a parenthesis. -/
def leave (opening : Opening) : Read Unit :=
  modify fun s => { s with depth := s.depth - opening.depth }

mutual

/-- Alternatives up to the end or to a closing parenthesis. -/
def alternatives (verbose top : Bool) (done : List (List Node)) : Nat → Read (List Node)
  | 0 => reject
  | fuel + 1 => do
    let nodes ← sequence verbose (top && done.isEmpty) [] fuel
    if ← accept '|' then
      let s ← get
      let verbose := if top then s.flags.contains .verbose else verbose
      alternatives verbose top (nodes :: done) fuel
    else return joinAlternatives (nodes :: done).reverse

/-- A sequence up to the end, a bar or a closing parenthesis. `first` says whether the whole
pattern begins with it, `done` holds its parts in reverse. -/
def sequence (verbose first : Bool) (done : List Part) : Nat → Read (List Node)
  | 0 => reject
  | fuel + 1 => do
    match ← peek? with
    | none | some (.plain '|') | some (.plain ')') => return done.reverse.flatMap Part.nodes
    | some _ =>
      match ← next with
      | .dangling => reject
      | .escaped c =>
        let n ← escape c
        sequence verbose first (.ofNode n :: done) fuel
      | .plain c =>
        if verbose && isSkipped c then sequence verbose first done fuel
        else if verbose && c = '#' then
          skipLine
          sequence verbose first done fuel
        else if c = '[' then
          let n ← characterSet fuel
          sequence verbose first (.ofNode n :: done) fuel
        else if c = '.' then sequence verbose first (.single .any :: done) fuel
        else if c = '^' then sequence verbose first (.place .lineStart :: done) fuel
        else if c = '$' then sequence verbose first (.place .lineEnd :: done) fuel
        else if c = '?' then
          let done ← repeatLast 0 (some 1) done
          sequence verbose first done fuel
        else if c = '*' then
          let done ← repeatLast 0 none done
          sequence verbose first done fuel
        else if c = '+' then
          let done ← repeatLast 1 none done
          sequence verbose first done fuel
        else if c = '\x7b' then
          match ← bounds with
          | some (least, most) =>
            let done ← repeatLast least most done
            sequence verbose first done fuel
          | none => sequence verbose first (.single (.literal c.toNat) :: done) fuel
        else if c = '(' then
          let opening ← if ← accept '?' then extension fuel else pure (.capture none)
          match opening with
          | .whole none => sequence verbose first done fuel
          | .whole (some part) => sequence verbose first (part :: done) fuel
          | .globalFlags =>
            let s ← get
            if first && done.isEmpty then
              sequence (s.flags.contains .verbose) first done fuel
            else reject
          | opening =>
            enter opening
            let part ← parenthesized verbose opening fuel
            leave opening
            sequence verbose first (part :: done) fuel
        else sequence verbose first (.single (.literal c.toNat) :: done) fuel

/-- The rest of a parenthesis behind its opening. -/
def parenthesized (verbose : Bool) (opening : Opening) : Nat → Read Part
  | 0 => reject
  | fuel + 1 => do
    match opening with
    | .look behind negative =>
      let outside := (← get).outside
      if behind && outside.isNone then
        modify fun s => { s with outside := some s.groups.length }
      let body ← alternatives verbose false [] fuel
      if behind then modify fun s => { s with outside }
      close
      return .single (← lookAround behind negative (.ofList body))
    | .condition index =>
      let yes ← sequence verbose false [] fuel
      let no ← if ← accept '|' then sequence verbose false [] fuel else pure []
      close
      return .single (.cond index (.ofList yes) (.ofList no))
    | .atomic =>
      let body ← alternatives verbose false [] fuel
      close
      return .single (.atomic (.ofList body))
    | .capture name =>
      let index ← openGroup name
      let body ← alternatives verbose false [] fuel
      close
      closeGroup index (.ofList body)
      return .single (.group index (.ofList body))
    | .scoped on off =>
      let verbose := (verbose || on.contains .verbose) && !off.contains .verbose
      let body ← alternatives verbose false [] fuel
      close
      return if on.isEmpty && off.isEmpty then .bundle body
        else .single (.scoped on off (.ofList body))
    | _ => reject

end

/-! ## Patterns -/

/-- A pattern that was read. -/
structure Parsed where
  /-- The syntax tree. -/
  node : Node
  /-- The flags for the whole pattern. -/
  flags : List Flag
  /-- The least number of characters that it matches. -/
  least : Nat

/-- Reads a pattern. -/
def parse (pattern : Text) : Except PatternError Parsed := do
  let start := State.start pattern
  let (nodes, s) ← (alternatives false true [] (3 * start.rest.length + 3)).run start
  if s.flags.contains .ascii && s.flags.contains .unicode then throw .conflictingFlags
  if !s.rest.isEmpty || s.conditions.any (s.groups.length ≤ ·) then throw .invalid
  if s.unfixed || (s.looped && s.flags.contains .template) then throw .invalid
  if s.overlong then throw .tooFarBehind
  let node := Node.ofList nodes
  return ⟨node, s.flags, (node.width s.widthOf).capped.least⟩

end HttpTemplates.Regex
