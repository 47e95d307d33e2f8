import HttpTemplates.Regex.Code

/-!
# Matching

The matcher is a machine that goes through a text and keeps a stack of what to do when it gets
stuck. `step` carries out one instruction, or goes back to the top of the stack; `run` repeats it.

* A `Thread` is a place in the text together with the instructions still to be carried out there.
* `Registers` outlive a failure: the marks of the groups, and the place where a part ended last. A
  failed attempt takes its marks back only as far as its `Snapshot` reaches, which covers their
  number and, inside a repetition, their values. What is left of them decides back references and
  conditions.
* Releases of the engine disagree about where a possessive repetition goes on when its last round has
  failed: `Resume` names both rules, and `Node.judge` is told which one to follow.
-/

namespace HttpTemplates.Regex

/-! ## Marks -/

/-- The places that the groups have recorded. -/
abbrev Marks := Array (Option Nat)

namespace Marks

/-- Records a place. Slots in front of it that were never used are empty. -/
def record (marks : Marks) (slot place : Nat) : Marks :=
  if slot < marks.size then marks.setIfInBounds slot (some place)
  else (marks ++ Array.replicate (slot - marks.size) none).push (some place)

/-- Where a group begins and ends, if both are recorded in this order. -/
def group? (marks : Marks) (index : Nat) : Option (Nat × Nat) :=
  match marks[2 * index - 2]?, marks[2 * index - 1]? with
  | some (some a), some (some b) => if a ≤ b then some (a, b) else none
  | _, _ => none

/-- Whether some group ends in front of its beginning. -/
def isCrossed (marks : Marks) : Bool :=
  (List.range (marks.size / 2)).any fun i =>
    match marks[2 * i]?, marks[2 * i + 1]? with
    | some (some a), some (some b) => b < a
    | _, _ => false

end Marks

/-- What a failed attempt restores. -/
inductive Snapshot where
  /-- All marks. -/
  | whole (marks : Marks)
  /-- The number of marks. -/
  | size (n : Nat)

/-- A snapshot of marks, of their values only if `whole` says so. -/
def Snapshot.take (whole : Bool) (marks : Marks) : Snapshot :=
  if whole then .whole marks else .size marks.size

/-- The marks as the snapshot has them. -/
def Snapshot.restore (marks : Marks) : Snapshot → Marks
  | .whole saved => saved
  | .size n => marks.take n

/-! ## Configurations -/

/-- A repetition under way. -/
structure Rounds where
  /-- The least number of rounds. -/
  least : Nat
  /-- The greatest number of rounds. -/
  most : Option Nat
  /-- Whether more rounds are tried first. -/
  greedy : Bool
  /-- One round. -/
  body : Code
  /-- What comes behind the repetition. -/
  next : Code
  /-- The number of rounds so far. -/
  done : Nat
  /-- The place where the last round began that was not forced. -/
  last : Option Nat
  /-- Whether there is a repetition around this one. -/
  nested : Bool

/-- Whether another round may be tried. -/
def Rounds.mayGoOn (r : Rounds) (place : Nat) : Bool :=
  (r.most.map fun most => decide (r.done < most)).getD true && r.last != some place

/-- Where a possessive repetition goes on when its last round has failed. -/
inductive Resume where
  /-- Where the failed round had got to, the rule of older releases. -/
  | reached
  /-- Where the failed round began, the rule of newer releases. -/
  | begun
  deriving DecidableEq

/-- The place where a repetition goes on whose last round began at `r.last` and got to `reached`. -/
def Resume.place (rule : Resume) (r : Rounds) (reached : Nat) : Nat :=
  match rule with
  | .reached => reached
  | .begun => r.last.getD reached

/-- What comes behind the end of a part. -/
inductive Behind where
  /-- The part is one of several, and these instructions are further on. -/
  | jump (next : Code)
  /-- The part comes right in front of these instructions. -/
  | join (next : Code)
  /-- The part is the body of a repetition. -/
  | again (r : Rounds)

/-- A place in the text and what is to be matched there. -/
structure Thread where
  /-- The instructions. -/
  code : Code
  /-- What comes behind them, up to the end of the pattern or of a part that is matched alone. -/
  behind : List Behind
  /-- The place. -/
  place : Nat
  /-- Whether there is a repetition around the place. -/
  looped : Bool
  /-- Whether the whole text has to be used up. -/
  whole : Bool

/-- What the matcher does when an attempt has ended. All but the last five only wait for a
failure. -/
inductive Frame where
  /-- Goes back to a place and fails. -/
  | settle (place : Nat)
  /-- Tries the other alternatives. -/
  | branch (rest : List Code) (t : Thread) (saved : Snapshot)
  /-- Leaves a greedy repetition. -/
  | leave (r : Rounds) (t : Thread) (saved : Snapshot)
  /-- Starts another round of a lazy repetition. -/
  | enter (r : Rounds) (t : Thread) (saved : Snapshot)
  /-- Goes on behind fewer characters; `left` places are left, the first that of `t`. -/
  | retreat (left : Nat) (t : Thread) (saved : Snapshot)
  /-- Goes on behind one more character, at most `left` times. -/
  | advance (left : Option Nat) (s : Single) (t : Thread) (saved : Snapshot)
  /-- Ends a look-around. -/
  | look (t : Thread)
  /-- Ends a negative look-around. -/
  | lookNot (t : Thread) (saved : Snapshot)
  /-- Ends a part that is matched alone. -/
  | atomic (t : Thread)
  /-- Ends a forced round of a possessive repetition. -/
  | forced (r : Rounds) (t : Thread)
  /-- Ends any other round of a possessive repetition. -/
  | free (r : Rounds) (t : Thread) (saved : Snapshot)

/-- What outlives a failure. -/
structure Registers where
  /-- The place where a part ended last. -/
  place : Nat
  /-- The marks of the groups. -/
  marks : Marks

/-- What the matcher is about to do. -/
inductive Phase where
  /-- To follow a thread. -/
  | follow (t : Thread)
  /-- To report that an attempt has succeeded. -/
  | pass
  /-- To report that an attempt has failed. -/
  | fail

/-- A state of the matcher. -/
structure Config where
  /-- What comes next. -/
  phase : Phase
  /-- What outlives a failure. -/
  regs : Registers
  /-- What is done later, the latest first. -/
  stack : List Frame

/-- What becomes of an attempt to match a whole text. -/
inductive Verdict where
  /-- The pattern matches. -/
  | matched
  /-- The pattern does not match. -/
  | mismatched
  /-- The pattern matches, but a group ends in front of its beginning. -/
  | crossed
  deriving DecidableEq

/-! ## Places -/

/-- The code point behind a place. -/
def codeAt? (text : Array Char) (place : Nat) : Option Nat :=
  text[place]?.map Char.toNat

/-- Whether a single character matches behind a place. -/
def Single.acceptsAt (s : Single) (text : Array Char) (place : Nat) : Bool :=
  if h : place < text.size then s.accepts text[place].toNat else false

/-- The number of characters in a row behind a place that match, at most as many as the last
argument. -/
def Single.count (s : Single) (text : Array Char) (place : Nat) : Nat → Nat
  | 0 => 0
  | n + 1 => if s.acceptsAt text place then count s text (place + 1) n + 1 else 0

/-- Whether the character behind a place, or in front of it, belongs to a word. -/
def isWordAt (m : Mode) (text : Array Char) (place : Nat) : Bool :=
  ((codeAt? text place).map (Category.word.contains m.ascii)).getD false

/-- Whether a condition on a place holds. The empty text has no word boundary, and none is absent
from it either. -/
def Anchor.holds (m : Mode) (text : Array Char) (place : Nat) : Anchor → Bool
  | .textStart => place == 0
  | .lineStart => place == 0 || (m.multiline && text[place - 1]? == some '\n')
  | .textEnd => place == text.size
  | .lineEnd =>
    place == text.size ||
      ((m.multiline || place + 1 == text.size) && text[place]? == some '\n')
  | .boundary => !text.isEmpty && wordBefore != isWordAt m text place
  | .noBoundary => !text.isEmpty && wordBefore == isWordAt m text place
where
  wordBefore : Bool := 0 < place && isWordAt m text (place - 1)

/-- The place behind a copy of the characters from `a` on, `n` of them. -/
def repeated? (form : Nat → Nat) (text : Array Char) (a place : Nat) : Nat → Option Nat
  | 0 => some place
  | n + 1 =>
    match codeAt? text a, codeAt? text place with
    | some x, some y => if form x = form y then repeated? form text (a + 1) (place + 1) n else none
    | _, _ => none

/-! ## Looking ahead -/

/-- What a thread is about to match. -/
inductive Ahead where
  /-- The end of the pattern, or of a part that is matched alone. -/
  | finish
  /-- A certain code point. -/
  | literal (n : Nat)
  /-- Anything else. -/
  | other

/-- What instructions are about to match, where `behind` comes behind them. -/
def ahead (code : Code) : List Behind → Ahead
  | [] =>
    match code with
    | .done => .finish
    | .single ⟨.literal n, _⟩ _ => .literal n
    | _ => .other
  | b :: rest =>
    match code, b with
    | .single ⟨.literal n, _⟩ _, _ => .literal n
    | .done, .join next => ahead next rest
    | _, _ => .other

/-- Whether instructions can be ruled out by the next character alone. -/
def Code.isRuledOut (text : Array Char) (place : Nat) : Code → Bool
  | .single s _ =>
    match s.shape with
    | .literal _ | .set => !s.acceptsAt text place
    | _ => false
  | _ => false

/-! ## Steps -/

namespace Config

/-- Follows a thread. -/
def go (regs : Registers) (stack : List Frame) (t : Thread) : Config :=
  ⟨.follow t, regs, stack⟩

/-- Gives up. -/
def fail (regs : Registers) (stack : List Frame) : Config :=
  ⟨.fail, regs, stack⟩

/-- Succeeds at a place. -/
def pass (regs : Registers) (stack : List Frame) (place : Nat) : Config :=
  ⟨.pass, { regs with place }, stack⟩

/-- Starts another round. -/
def round (regs : Registers) (stack : List Frame) (r : Rounds) (t : Thread) : Config :=
  go regs stack
    { t with code := r.body, behind := .again { r with done := r.done + 1 } :: t.behind,
             looped := true }

/-- Goes on behind a repetition. -/
def quit (regs : Registers) (stack : List Frame) (r : Rounds) (t : Thread) : Config :=
  go regs stack { t with code := r.next, looped := r.nested }

/-- Decides between another round and the end of a repetition. -/
def afterRound (regs : Registers) (stack : List Frame) (r : Rounds) (t : Thread) : Config :=
  let regs := { regs with place := t.place }
  if r.done < r.least then round regs (.settle t.place :: stack) r t
  else if r.greedy then
    if r.mayGoOn t.place then
      round regs (.leave r t (.whole regs.marks) :: stack) { r with last := some t.place } t
    else quit regs (.settle t.place :: stack) r t
  else quit regs (.enter r t (.take r.nested regs.marks) :: stack) r t

/-- Tries the alternatives of a choice that are not ruled out at once. -/
def choose (text : Array Char) (regs : Registers) (stack : List Frame) (t : Thread)
    (saved : Snapshot) : List Code → Config
  | [] => fail regs stack
  | code :: rest =>
    if code.isRuledOut text t.place then choose text regs stack t saved rest
    else
      go { regs with place := t.place } (.branch rest t saved :: stack)
        { t with code, behind := .jump t.code :: t.behind }

/-- Goes on at one of `left` places, that of `t` and those in front of it; places at which the
next character does not fit are skipped. -/
def retreat (text : Array Char) (regs : Registers) (stack : List Frame) (t : Thread)
    (saved : Snapshot) : Nat → Config
  | 0 => fail regs stack
  | left + 1 =>
    let u := { t with place := t.place - 1 }
    let skip :=
      match ahead t.code t.behind with
      | .literal n => codeAt? text t.place != some n
      | _ => false
    if skip then retreat text regs stack u saved left
    else go { regs with place := t.place } (.retreat left u saved :: stack) t

/-- Goes on in front of further characters, of which at most `left` may still be taken. -/
def advance (regs : Registers) (stack : List Frame) (left : Option Nat) (s : Single) (t : Thread)
    (saved : Snapshot) : Config :=
  go { regs with place := t.place } (.advance left s t saved :: stack) t

/-- The registers behind `n` characters that were counted from a place on. Characters of a set in
either case are matched one by one, and so leave their mark. -/
def counted (regs : Registers) (s : Single) (place n : Nat) : Registers :=
  match s.shape with
  | .folded => { regs with place := place + n }
  | _ => { regs with place }

/-- Matches a single character several times over and goes on with `t`. -/
def several (text : Array Char) (regs : Registers) (stack : List Frame) (least : Nat)
    (most : Option Nat) (greed : Greed) (s : Single) (t : Thread) : Config :=
  let room := text.size - t.place
  if room < least then fail regs stack
  else
    let limit :=
      match greed with
      | .lazy => least
      | _ => (most.map (min room)).getD room
    let n := s.count text t.place limit
    let regs := counted regs s t.place n
    if n < least then fail regs stack
    else
      let u := { t with place := t.place + n }
      let finishes :=
        match ahead t.code t.behind, greed with
        | .finish, .lazy => !t.whole || u.place == text.size
        | .finish, _ => u.place == text.size
        | _, _ => false
      if finishes then pass regs stack u.place
      else
        let saved := Snapshot.take t.looped regs.marks
        match greed with
        | .greedy => retreat text regs stack u saved (n - least + 1)
        | .lazy =>
          if (most.map fun most => decide (most < n)).getD false then fail regs stack
          else advance regs stack (most.map (· - n)) s u saved
        | .possessive => go regs stack u

/-- Starts another round of a possessive repetition or goes on behind it. -/
def possess (regs : Registers) (stack : List Frame) (r : Rounds) (t : Thread) : Config :=
  let alone : Thread := { t with code := r.body, behind := [], place := regs.place, whole := false }
  if r.done < r.least then go regs (.forced r t :: stack) alone
  else if r.mayGoOn regs.place then
    go regs (.free { r with last := some regs.place } t (.whole regs.marks) :: stack) alone
  else go regs stack { t with code := r.next, place := regs.place }

/-- Carries out the first instruction of a thread. -/
def follow (text : Array Char) (regs : Registers) (stack : List Frame) (t : Thread) : Config :=
  match t.code with
  | .done =>
    match t.behind with
    | [] => if t.whole && t.place != text.size then fail regs stack else pass regs stack t.place
    | .jump next :: behind | .join next :: behind => go regs stack { t with code := next, behind }
    | .again r :: behind => afterRound regs stack r { t with behind }
  | .single s next =>
    if s.acceptsAt text t.place then go regs stack { t with code := next, place := t.place + 1 }
    else fail regs stack
  | .anchor m a next =>
    if a.holds m text t.place then go regs stack { t with code := next } else fail regs stack
  | .mark slot next =>
    go { regs with marks := regs.marks.record slot t.place } stack { t with code := next }
  | .backreference form index next =>
    match regs.marks.group? index with
    | none => fail regs stack
    | some (a, b) =>
      match repeated? form text a t.place (b - a) with
      | some place => go regs stack { t with code := next, place }
      | none => fail regs stack
  | .cond index yes no next =>
    match regs.marks.group? index, no with
    | some _, some _ => go regs stack { t with code := yes, behind := .jump next :: t.behind }
    | some _, none => go regs stack { t with code := yes, behind := .join next :: t.behind }
    | none, some no => go regs stack { t with code := no, behind := .join next :: t.behind }
    | none, none => go regs stack { t with code := next }
  | .branch alternatives next =>
    choose text regs stack { t with code := next } (.take t.looped regs.marks) alternatives
  | .look behind negative body next =>
    let u := { t with code := next }
    if t.place < behind then if negative then go regs stack u else fail regs stack
    else
      let start := t.place - behind
      let frame := if negative then .lookNot u (.take t.looped regs.marks) else .look u
      go { regs with place := start } (frame :: stack)
        { t with code := body, behind := [], place := start, whole := false }
  | .atomic body next =>
    go { regs with place := t.place } (.atomic { t with code := next } :: stack)
      { t with code := body, behind := [], whole := false }
  | .several least most greed s next =>
    several text regs stack least most greed s { t with code := next }
  | .loop least most greed body next =>
    let r : Rounds := ⟨least, most, greed = .greedy, body, next, 0, none, t.looped⟩
    match greed with
    | .possessive => possess { regs with place := t.place } stack r t
    | _ => afterRound regs stack r t

/-- Goes on behind an attempt that succeeded. -/
def passed (regs : Registers) (stack : List Frame) : Frame → Config
  | .look t => go regs stack t
  | .lookNot _ _ => fail regs stack
  | .atomic t => go regs stack { t with place := regs.place }
  | .forced r t | .free r t _ => possess regs stack { r with done := r.done + 1 } t
  | _ => ⟨.pass, regs, stack⟩

/-- Goes on behind an attempt that failed. -/
def failed (text : Array Char) (rule : Resume) (regs : Registers) (stack : List Frame) :
    Frame → Config
  | .settle place => fail { regs with place } stack
  | .branch rest t saved =>
    choose text { regs with marks := saved.restore regs.marks } stack t saved rest
  | .leave r t saved =>
    quit ⟨t.place, saved.restore regs.marks⟩ (.settle t.place :: stack) r t
  | .enter r t saved =>
    let regs := ⟨t.place, saved.restore regs.marks⟩
    if r.mayGoOn t.place then
      round regs (.settle t.place :: stack) { r with last := some t.place } t
    else fail regs stack
  | .retreat left t saved =>
    retreat text { regs with marks := saved.restore regs.marks } stack t saved left
  | .advance left s t saved =>
    let regs := ⟨t.place, saved.restore regs.marks⟩
    if s.acceptsAt text t.place then
      let regs := counted regs s t.place 1
      if left = some 0 then fail regs stack
      else advance regs stack (left.map (· - 1)) s { t with place := t.place + 1 } saved
    else fail regs stack
  | .look _ => fail regs stack
  | .lookNot t saved => go { regs with marks := saved.restore regs.marks } stack t
  | .atomic t | .forced _ t => fail { regs with place := t.place } stack
  | .free r t saved =>
    go { regs with marks := saved.restore regs.marks } stack
      { t with code := r.next, place := rule.place r regs.place }

end Config

/-- One step of the matcher, or its verdict. -/
def step (text : Array Char) (rule : Resume) (c : Config) : Config ⊕ Verdict :=
  match c.phase, c.stack with
  | .follow t, stack => .inl (Config.follow text c.regs stack t)
  | .pass, [] => .inr (if c.regs.marks.isCrossed then .crossed else .matched)
  | .pass, frame :: stack => .inl (Config.passed c.regs stack frame)
  | .fail, [] => .inr .mismatched
  | .fail, frame :: stack => .inl (Config.failed text rule c.regs stack frame)

/-- The verdict after at most so many steps; an attempt that takes longer is given up. -/
def run (text : Array Char) (rule : Resume) : Nat → Config → Verdict
  | 0, _ => .mismatched
  | n + 1, c =>
    match step text rule c with
    | .inl d => run text rule n d
    | .inr v => v

/-- The number of steps after which an attempt is given up, which no attempt lives to see. -/
def stepLimit : Nat :=
  Nat.pow 2 62

/-- Matches a pattern with a whole text. A text with fewer characters than `least` is not tried. -/
def Node.judge (m : Mode) (rule : Resume) (least : Nat) (n : Node) (t : Text) : Verdict :=
  let text := t.toArray
  if text.size < least then .mismatched
  else
    run text rule stepLimit
      ⟨.follow ⟨n.code m .done, [], 0, false, true⟩, ⟨0, #[]⟩, []⟩

end HttpTemplates.Regex
