import Stencil.Pattern.Sign
import Stencil.Text.Letters

/-!
# Options

How the signs of a pattern, or of a part of it, are to be understood.

Each option is a letter. The letters before a dash are turned on, those after it
are turned off. They are for the whole pattern if a parenthesis ends them; if a
colon does, they are for the part that follows it.

## Main definitions

* `Switch`: What a letter turns on or off.
* `Options`: The options in force.
* `OptionSigns`: What the options that stand in a pattern ask for.
* `readOptions`: Read them.
-/

namespace Stencil.Pattern

open Text (Extent)

/-- What a letter turns on or off. -/
inductive Switch where
  /-- Case does not count. -/
  | caseless
  /-- Anchors stand at the ends of lines, not only at those of the text. -/
  | multiline
  /-- A full stop stands for line feeds as well. -/
  | dotAll
  /-- Blanks and comments between signs do not count. -/
  | verbose
  /-- Kinds of characters are those of ASCII. -/
  | ascii
  /-- Kinds of characters are those of all scripts. -/
  | allScripts
  /-- Bytes are of the kind that the locale says. -/
  | locale
  /-- There is no repetition. -/
  | unrepeated
deriving DecidableEq, Repr

/-- The switch of a letter. -/
def Switch.ofSign? (c : Sign) : Option Switch :=
  if c.escaped then none
  else match c.char with
    | 'i' => some caseless
    | 'm' => some multiline
    | 's' => some dotAll
    | 'x' => some verbose
    | 'a' => some ascii
    | 'u' => some allScripts
    | 'L' => some locale
    | 't' => some unrepeated
    | _ => none

/-- Whether a switch exchanges the scripts that kinds of characters are of. -/
def Switch.isExchange : Switch → Bool
  | ascii | allScripts | locale => true
  | _ => false

/-- The options in force. -/
structure Options where
  caseless : Bool := false
  multiline : Bool := false
  dotAll : Bool := false
  verbose : Bool := false
  extent : Extent := .all
deriving DecidableEq, Repr

namespace Options

/-- The options after a letter that turns something on or off. -/
def turn (isOn : Bool) (o : Options) : Switch → Options
  | .caseless => { o with caseless := isOn }
  | .multiline => { o with multiline := isOn }
  | .dotAll => { o with dotAll := isOn }
  | .verbose => { o with verbose := isOn }
  | .ascii => { o with extent := .ascii }
  | .allScripts => { o with extent := .all }
  | .locale | .unrepeated => o

/-- The options of a part of a pattern that turns some on and some off. -/
def change (o : Options) (on off : List Switch) : Options :=
  off.foldl (turn false) (on.foldl (turn true) o)

/-- Where case does not count, which letters have one. -/
def caselessExtent (o : Options) : Option Extent :=
  if o.caseless then some o.extent else none

end Options

/-- What the options that stand in a pattern ask for. -/
inductive OptionSigns where
  /-- These are on in the whole pattern. -/
  | whole (on : List Switch)
  /-- These are on and off in a part of it. -/
  | part (on off : List Switch)
deriving DecidableEq, Repr

/-- The fault of a sign that should be a letter of an option or the end of them. -/
def noSwitch {α : Type} (c : Sign) (fault : Fault) : Except Error α :=
  failAt c.place (if !c.escaped && Text.isLetter c.char then .unknownOption else fault)

/-- The switches so far and one more to turn on, whose letter stands before the
    given place. -/
def addOn (on : List Switch) (switch : Switch) (stop : Nat) : Except Error (List Switch) :=
  let on := on ++ [switch]
  if switch = .locale then failAt stop .bytesOption
  else if on.contains .ascii && on.contains .allScripts then failAt stop .optionsClash
  else .ok on

/-- The switches so far and one more to turn off. -/
def addOff (off : List Switch) (switch : Switch) (stop : Nat) : Except Error (List Switch) :=
  if switch.isExchange then failAt stop .optionStays else .ok (off ++ [switch])

/-- The letters to turn on that come next, after some that are given with the place
    after them: all of them, the sign that ends them, and how many signs these are. -/
def readOn (on : List Switch) (stop : Nat) :
    List Sign → Except Error (List Switch × Sign × Nat)
  | [] => failAt stop .unclosedOptions
  | c :: s => do
    checkNext s
    if c.is ')' || c.is '-' || c.is ':' then return (on, c, 1)
    match Switch.ofSign? c with
    | none => noSwitch c .unclosedOptions
    | some switch =>
      let (on, last, taken) ← readOn (← addOn on switch c.stop) c.stop s
      return (on, last, taken + 1)

/-- The letters to turn off that come next, likewise; `missing` is the fault if
    there is none. -/
def readOff (missing : Fault) (off : List Switch) (stop : Nat) :
    List Sign → Except Error (List Switch × Sign × Nat)
  | [] => failAt stop missing
  | c :: s => do
    checkNext s
    if c.is ':' && missing = .noColon then return (off, c, 1)
    match Switch.ofSign? c with
    | none => noSwitch c missing
    | some switch =>
      let (off, last, taken) ← readOff .noColon (← addOff off switch c.stop) c.stop s
      return (off, last, taken + 1)

/-- The letters to turn on at the start of options, of which a sign is the first, or is
    the dash after none. -/
def readFirstOn (c : Sign) (s : List Sign) : Except Error (List Switch × Sign × Nat) :=
  match Switch.ofSign? c with
  | some switch => do readOn (← addOn [] switch c.stop) c.stop s
  | none => .ok ([], c, 0)

/-- The letters to turn off after those that end with a sign, which is a dash or
    ends them all. -/
def readThenOff (last : Sign) (s : List Sign) : Except Error (List Switch × Sign × Nat) :=
  if last.is '-' then readOff .noOption [] last.stop s else .ok ([], last, 0)

/-- The options that start with a letter or a dash, and how many further signs
    there are. -/
def readOptions (c : Sign) (s : List Sign) : Except Error (OptionSigns × Nat) := do
  let (on, last, taken) ← readFirstOn c s
  if last.is ')' then return (.whole on, taken)
  else if on.contains .unrepeated then failAt last.place .wholeOptionOn
  else
    let (off, last, takenOff) ← readThenOff last (s.drop taken)
    if off.contains .unrepeated then failAt last.place .wholeOptionOff
    else if on.any off.contains then failAt last.place .optionOnAndOff
    else return (.part on off, taken + takenOff)

end Stencil.Pattern
