import Stencil.Except
import Stencil.Pattern.Frame
import Stencil.Pattern.Groups
import Stencil.Pattern.SetSource
import Stencil.Text.Identifier

/-!
# Reading Patterns

Patterns as their users write them.

A pattern is written as a line of pieces. A character stands for itself; a full
stop for any character but the line feed; a class stands in square brackets; a
circumflex and a dollar sign are the ends of the text. An asterisk asks for any
number of the piece before it, a plus for at least one, a question mark for at
most one, and two numbers in braces for so many at least and at most; a further
question mark prefers few, a further plus gives nothing back. A bar stands between
alternatives. Parentheses make a group, and with a question mark after the first
of them whatever the signs after that say.

The reader goes once through the signs, keeping a stack of the parts that are
open, so that the first fault from the left is the one reported. Some faults show
only when all is read. One may be found together with others; the earliest piece
decides.

## Main definitions

* `Reader`: How far a pattern has been read.
* `Reader.step`: Read one piece, or the start or end of a part.
* `Reading`: A pattern and its groups.
* `Pattern.read`: Read a pattern, on its own or after other groups.
* `Pattern.ofSource`: The pattern that a text describes.

## Theorems

* `Reader.finish_eq_ok`: What was read when the text may end.
-/

namespace Stencil.Pattern

open Text (Extent)

/-- The greatest depth to which parts may be nested. -/
def deepest : Nat := 491

/-- The numbers of repetitions are less than this. -/
def repetitionLimit : Nat := 4294967295

/-- How far a pattern has been read. -/
structure Reader where
  groups : Groups
  /-- Whether options may be set for the whole pattern. -/
  isWhole : Bool
  /-- Numbers of groups that may still come, and the places where they stand. -/
  asked : List (Nat × Nat) := []
  /-- The options for the whole pattern. -/
  whole : List Switch := []
  /-- The earliest fault that counts once all is read, with the place of its piece. -/
  late : Option (Nat × Fault) := none
  /-- Whether a group is referred to by its number. -/
  isNumbered : Bool := false
  /-- How deep parts have been nested, at the most. -/
  depth : Nat := 0
  /-- The innermost open part. -/
  top : Frame := .start 0 .plain {}
  /-- Those around it. -/
  outer : List Frame := []
deriving DecidableEq, Repr

/-- A pattern that was read. -/
structure Reading where
  pattern : Pattern
  /-- All groups so far, its own last. -/
  groups : Groups
  /-- Whether it reads the same wherever it stands among other patterns, as a part that is
      not nested in others. -/
  isLocal : Bool
deriving DecidableEq, Repr

/-- How many signs a comment and the line feed after it take. -/
def commentLength : List Sign → Nat
  | [] => 0
  | c :: s => if c.is '\n' then 1 else commentLength s + 1

/-- How many signs a comment and the parenthesis after it take. -/
def readComment (opened : Nat) : List Sign → Except Error Nat
  | [] => failAt opened .unclosedComment
  | c :: s => do
    checkNext s
    if c.is ')' then return 1
    return (← readComment opened s) + 1

/-- A number of repetitions; `none` without digits. -/
def readBound (place : Nat) (digits : List Char) : Except Error (Option Nat) :=
  if digits.isEmpty then .ok none
  else if Text.digitLimit < digits.length then failAt place (.beyond .digits)
  else if repetitionLimit ≤ numberIn 10 digits then failAt place (.beyond .repetitions)
  else .ok (some (numberIn 10 digits))

/-- The bounds that two numbers in braces are, the brace being at a place. -/
def readBounds (place : Nat) (lo hi : List Char) : Except Error (Nat × Option Nat) := do
  let least := (← readBound place lo).getD 0
  let most ← readBound place hi
  if most.any (· < least) then failAt (place + 1) .leastExceedsMost
  else return (least, most)

/-- The bounds after an opening brace at a place, and how many signs they and the
    closing brace take; `none` if they are no bounds. -/
def readBraces? (place : Nat) (s : List Sign) :
    Except Error (Option (Nat × Option Nat × Nat)) := do
  if s.head?.any (·.is '\x7d') then return none
  else
    let lo ← readWhile Char.isDigit s.length s
    let afterLo := s.drop lo.length
    let comma := if afterLo.head?.any (·.is ',') then 1 else 0
    checkTaken comma afterLo
    let hi ← readWhile Char.isDigit s.length (afterLo.drop comma)
    let last := afterLo.drop (comma + hi.length)
    if !last.head?.any (·.is '\x7d') then return none
    else
      checkTaken 1 last
      let (least, most) ← readBounds place lo (if comma = 1 then hi else lo)
      return some (least, most, lo.length + comma + hi.length + 1)

namespace Reader

/-- Within a look behind, the number of groups before the outermost one. -/
def behind (r : Reader) : Option Nat :=
  (r.top :: r.outer).reverse.findSome? (·.role.behind?)

/-- The reader with one more piece at a place. -/
def push (r : Reader) (place : Nat) (piece : Piece) : Reader :=
  { r with top := r.top.push place piece }

/-- The reader with one more character, given as a member of a class. -/
def pushMember (r : Reader) (place : Nat) (m : CharSet.Member) : Reader :=
  r.push place (.set ⟨false, [m], r.top.options.caselessExtent⟩)

/-- Keep a fault of a piece that starts at a place until all is read. -/
def note (r : Reader) (place : Nat) (fault : Fault) : Reader :=
  if r.late.all (place ≤ ·.1) then { r with late := some (place, fault) } else r

/-- Open a part of the pattern. What is not read as a whole is itself a part of
    something, so its parts are one deeper than they look. -/
def enter (r : Reader) (opened : Nat) (role : Role) (o : Options) : Except Error Reader :=
  let depth := r.outer.length + 1
  if deepest < depth + (!r.isWhole).toNat then failAt opened (.beyond .depth)
  else .ok { r with
    depth := max r.depth depth, top := .start opened role o, outer := r.top :: r.outer }

/-- Open a group. -/
def enterGroup (r : Reader) (opened : Nat) (name : Option String) : Except Error Reader :=
  { r with groups := r.groups.capture name }.enter opened (.group r.groups.count) r.top.options

/-- The reader with a part closed that is a piece of the one around it. -/
def into (r : Reader) (next : Frame) (outer : List Frame) (p : Pattern) : Reader :=
  { r with top := next.push r.top.opened (.whole p), outer }

/-- Keep a fault of a look behind at a place that does not know how far to go back. -/
def noteWidth (r : Reader) (place : Nat) (width : Width) : Reader :=
  if repetitionLimit < width.least then r.note place .farLook
  else if width.most ≠ some width.least then r.note place .unevenLook
  else r

/-- Close a part of the pattern, the parts around which are given. -/
def leave (r : Reader) (next : Frame) (outer : List Frame) : Reader :=
  let body := r.top.body
  let width := body.width r.groups.width
  match r.top.role with
  | .plain => r.into next outer body
  | .group before =>
    { r.into next outer (.group (before + 1) body) with groups := r.groups.close before width }
  | .atomic => r.into next outer (atomic body)
  | .ahead wanted => r.into next outer (look wanted 0 body)
  | .behind wanted _ =>
    (r.into next outer (look wanted width.least body)).noteWidth r.top.opened width
  | .given number => r.into next outer (r.top.choice number)

/-- How a repetition chooses, by the signs after it, and how many of them say so. -/
def readGreed (s : List Sign) : Greed × Nat :=
  if s.head?.any (·.is '?') then (.lazy, 1)
  else if s.head?.any (·.is '+') then (.possessive, 1)
  else (.greedy, 0)

/-- The reader with the last piece, which starts at a place, replaced by a repetition of it. -/
def replaceLast (r : Reader) (start : Nat) (greed : Greed) (p : Pattern) : Reader :=
  let r' := { r with top := r.top.repetition start p }
  if r.whole.contains .unrepeated then r'.note start (.repetition greed) else r'

/-- Repeat the last piece, with these signs after the repetition; how many of them
    say how it chooses. -/
def repeatLast (r : Reader) (place least : Nat) (most : Option Nat) (s : List Sign) :
    Except Error (Reader × Nat) := do
  let (start, piece) ← r.top.repeatable place
  let greed := readGreed s
  checkTaken greed.2 s
  return (r.replaceLast start greed.1 (piece.repeated least most greed.1), greed.2)

/-- Read an escape. -/
def stepEscape (r : Reader) (c : Sign) (s : List Sign) : Except Error (Reader × Nat) := do
  let o := r.top.options
  let (escape, taken) ← readEscape o.extent c s
  match escape with
  | .part part => return (r.pushMember c.place (part.member o.extent), taken)
  | .anchor a => return (r.push c.place (.anchor a), taken)
  | .group number =>
    if r.groups.count < number then failAt (c.place + 1) (.noGroup number)
    r.groups.checkClosed number c.place
    r.groups.checkBehind r.behind number (stopAfter c taken s)
    let r := { r with isNumbered := true }
    return (r.push c.place (.whole (again number o.caselessExtent)), taken)

/-- The name of a group, up to a sign that ends it: also the place where it starts,
    that after it, and how many signs both take. -/
def readName (stop : Char) (start : Nat) (s : List Sign) :
    Except Error (String × Nat × Nat) := do
  let (name, taken) ← readUntil stop .noGroupName start true s
  return (.ofList name, start + name.length + 1, taken)

/-- Open a group with a name. -/
def stepNamed (r : Reader) (opened start : Nat) (s : List Sign) : Except Error (Reader × Nat) := do
  let (name, _, taken) ← readName '>' start s
  if !Text.isIdentifier name then failAt start (.badGroupName name)
  match r.groups.number? name with
  | some first => failAt start (.takenGroupName name (r.groups.count + 1) first)
  | none => return (← r.enterGroup opened (some name), taken)

/-- The text of the group with a name. -/
def stepAgain (r : Reader) (opened start : Nat) (s : List Sign) : Except Error (Reader × Nat) := do
  let (name, stop, taken) ← readName ')' start s
  if !Text.isIdentifier name then failAt start (.badGroupName name)
  match r.groups.number? name with
  | none => failAt start (.unknownGroup name)
  | some number =>
    r.groups.checkClosed number start
    r.groups.checkBehind r.behind number stop
    return (r.push opened (.whole (again number r.top.options.caselessExtent)), taken)

/-- The group with a number as it is written, which may still come. -/
def askFor (r : Reader) (start : Nat) (name : String) : Except Error (Nat × Reader) :=
  match Text.integer? name.toList with
  | some (.ofNat 0) => failAt start .groupZero
  | some (.ofNat number) =>
    if 1073741823 ≤ number then failAt start (.noGroup number)
    else .ok (number, { r with asked := r.asked ++ [(number, start)], isNumbered := true })
  | _ => failAt start (.badGroupName name)

/-- The group that a choice is by, which has a name or may still come. -/
def chosen (r : Reader) (start : Nat) (name : String) : Except Error (Nat × Reader) :=
  if Text.isIdentifier name then
    match r.groups.number? name with
    | none => failAt start (.unknownGroup name)
    | some number => .ok (number, r)
  else r.askFor start name

/-- Open a choice by a group, which stands in parentheses. -/
def stepGiven (r : Reader) (opened start : Nat) (s : List Sign) : Except Error (Reader × Nat) := do
  let (name, stop, taken) ← readName ')' start s
  let (number, r) ← r.chosen start name
  r.groups.checkBehind r.behind number stop
  return (← r.enter opened (.given number) r.top.options, taken)

/-- Open a look behind. -/
def enterBehind (r : Reader) (opened : Nat) (wanted : Bool) : Except Error Reader :=
  r.enter opened (.behind wanted r.groups.count) r.top.options

/-- Set options, for the whole pattern or for a part that opens with them. -/
def stepOptions (r : Reader) (opened : Nat) (c : Sign) (s : List Sign) :
    Except Error (Reader × Nat) := do
  let (signs, taken) ← readOptions c s
  match signs with
  | .whole on =>
    if !(r.isWhole && r.outer.isEmpty && r.top.isFresh) then failAt opened .lateOptions
    let options := { r.top.options with verbose := r.top.options.verbose || on.contains .verbose }
    return ({ r with whole := r.whole ++ on, top := { r.top with options } }, taken)
  | .part on off => return (← r.enter opened .plain (r.top.options.change on off), taken)

/-- Take one more sign, which comes after a place, and go on behind it. -/
def stepNext (stop : Nat) (s : List Sign) (step : Sign → List Sign → Except Error (Reader × Nat)) :
    Except Error (Reader × Nat) :=
  match s with
  | [] => failAt stop .cutOff
  | c :: s => do
    checkNext s
    let (r, taken) ← step c s
    return (r, taken + 1)

/-- Signs after the question mark of a parenthesis that say nothing. -/
def noExtension (opened : Nat) (signs : List Sign) : Except Error (Reader × Nat) :=
  failAt (opened + 1) (.unknownExtension (.ofList (signs.flatMap Sign.text)))

/-- Open a part of the pattern by what a sign says after the question mark of its
    parenthesis. -/
def stepExtension (r : Reader) (opened : Nat) (d : Sign) (s : List Sign) :
    Except Error (Reader × Nat) :=
  let o := r.top.options
  let here (r : Except Error Reader) : Except Error (Reader × Nat) := r.map fun r => (r, 0)
  if d.is ':' then here (r.enter opened .plain o)
  else if d.is '>' then here (r.enter opened .atomic o)
  else if d.is '=' then here (r.enter opened (.ahead true) o)
  else if d.is '!' then here (r.enter opened (.ahead false) o)
  else if d.is '<' then
    stepNext d.stop s fun e _ =>
      if e.is '=' then here (r.enterBehind opened true)
      else if e.is '!' then here (r.enterBehind opened false)
      else noExtension opened [d, e]
  else if d.is 'P' then
    stepNext d.stop s fun e s =>
      if e.is '<' then r.stepNamed opened e.stop s
      else if e.is '=' then r.stepAgain opened e.stop s
      else noExtension opened [d, e]
  else if d.is '#' then (readComment opened s).map fun taken => (r, taken)
  else if d.is '(' then r.stepGiven opened d.stop s
  else if d.is '-' || (Switch.ofSign? d).isSome then r.stepOptions opened d s
  else noExtension opened [d]

/-- Open a part of the pattern, whose parenthesis is given. -/
def stepOpening (r : Reader) (c : Sign) (s : List Sign) : Except Error (Reader × Nat) :=
  if !s.head?.any (·.is '?') then (r.enterGroup c.place none).map fun r => (r, 0)
  else stepNext c.place s fun _ s => stepNext (c.place + 2) s (r.stepExtension c.place)

/-- Options for the whole pattern that exclude each other. -/
def checkWhole (r : Reader) : Except Error Unit :=
  if r.whole.contains .ascii && r.whole.contains .allScripts then .error ⟨.beyond .extents, none⟩
  else .ok ()

/-- Close the innermost part. -/
def stepClosing (r : Reader) (c : Sign) (s : List Sign) : Except Error (Reader × Nat) :=
  match r.outer with
  | [] => do
    r.checkWhole
    failAt c.place .strayClose
  | next :: outer => do
    checkNext s
    return (r.leave next outer, 0)

/-- Start another alternative. -/
def stepBar (r : Reader) (c : Sign) (s : List Sign) : Except Error (Reader × Nat) :=
  match r.top.role, r.top.branches with
  | .given _, _ :: _ => failAt c.place .thirdBranch
  | _, _ => do
    checkNext s
    return ({ r with top := r.top.branch }, 0)

/-- Read a piece, or the start of a part: a sign and how many of those after it. -/
def stepPiece (r : Reader) (c : Sign) (s : List Sign) : Except Error (Reader × Nat) := do
  let o := r.top.options
  checkNext s
  if c.escaped then r.stepEscape c s
  else if o.verbose && CharKind.blank.contains .ascii c.char then return (r, 0)
  else if o.verbose && c.is '#' then
    checkTaken (commentLength s) s
    return (r, commentLength s)
  else match c.char with
    | '(' => r.stepOpening c s
    | '[' => do
      let (set, taken) ← readSet o c.place s
      return (r.push c.place (.set set), taken)
    | '.' => return (r.push c.place (.set (.allBut (if o.dotAll then [] else [.char '\n']))), 0)
    | '^' => return (r.push c.place (.anchor (if o.multiline then .lineStart else .textStart)), 0)
    | '$' => return (r.push c.place (.anchor (if o.multiline then .lineStop else .lastStop)), 0)
    | '*' => r.repeatLast c.place 0 none s
    | '+' => r.repeatLast c.place 1 none s
    | '?' => r.repeatLast c.place 0 (some 1) s
    | '\x7b' => do
      match ← readBraces? c.place s with
      | none => return (r.pushMember c.place (.char c.char), 0)
      | some (least, most, taken) =>
        let (r, more) ← r.repeatLast c.place least most (s.drop taken)
        return (r, taken + more)
    | d => return (r.pushMember c.place (.char d), 0)

/-- Read one piece, or the start or end of a part. -/
def step (r : Reader) (c : Sign) (s : List Sign) : Except Error (Reader × Nat) :=
  if c.is ')' then r.stepClosing c s
  else if c.is '|' then r.stepBar c s
  else r.stepPiece c s

/-- Read all signs; the first `skip` of them belong to what has been read. -/
def readAll : (skip : Nat) → Reader → List Sign → Except Error Reader
  | _, r, [] => .ok r
  | skip + 1, r, _ :: s => readAll skip r s
  | 0, r, c :: s => do
    let (r, taken) ← r.step c s
    readAll taken r s

/-- What was read, if the text may end here. -/
def finish (r : Reader) : Except Error Reading := do
  if !r.outer.isEmpty then failAt r.top.opened .unclosedGroup
  r.checkWhole
  if let some (number, place) := r.asked.find? (r.groups.count < ·.1) then
    failAt place (.noGroup number)
  if let some (_, fault) := r.late then throw ⟨fault, none⟩
  return { pattern := r.top.body, groups := r.groups
           isLocal := r.whole.isEmpty && r.groups.names.isEmpty && !r.isNumbered &&
             r.depth < deepest }

/-- Where a text may end, all parts are closed and no fault was kept. -/
theorem finish_eq_ok {r : Reader} {reading : Reading} (h : r.finish = .ok reading) :
    r.outer = [] ∧ r.late = none ∧ reading = ⟨r.top.body, r.groups,
      r.whole.isEmpty && r.groups.names.isEmpty && !r.isNumbered && r.depth < deepest⟩ := by
  unfold finish at h
  dsimp only at h
  split at h
  · cases h
  · rename_i houter
    obtain ⟨-, -, h⟩ := bind_eq_ok.1 h
    split at h
    · cases h
    · split at h
      · cases h
      · rename_i hlate
        cases h
        exact ⟨by simpa using houter, Option.eq_none_iff_forall_ne_some.2 fun _ => hlate _ _, rfl⟩

end Reader

/-- Read a pattern after the given groups, and as a whole or as a part of one. -/
def read (groups : Groups) (isWhole : Bool) (source : String) : Except Error Reading := do
  let s := signs source
  checkNext s
  (← Reader.readAll 0 { groups, isWhole } s).finish

/-- The pattern that a text describes. -/
def ofSource (source : String) : Except Error Pattern :=
  (read .none true source).map Reading.pattern

/-- The faults that a single sign can have. -/
example : (["(", "[a", "*a", ")", "a\x7b2,1\x7d", "(?P<x", "\\", "a**", "[z-a]"].map fun s =>
      match ofSource s with
      | .ok _ => none
      | .error e => e.report? s) =
    [some "missing ), unterminated subpattern at position 0",
      some "unterminated character set at position 0",
      some "nothing to repeat at position 0", some "unbalanced parenthesis at position 0",
      some "min repeat greater than max repeat at position 2",
      some "missing >, unterminated name at position 4",
      some "bad escape (end of pattern) at position 0",
      some "multiple repeat at position 2", some "bad character range z-a at position 1"] := by
  decide +kernel

end Stencil.Pattern
