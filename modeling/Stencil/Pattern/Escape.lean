import Stencil.Pattern.Cursor
import Stencil.Pattern.Sign
import Stencil.Text.CharacterNames

/-!
# Escapes

What a backslash and the sign after it stand for.

Letters stand for control characters, for kinds of characters and for anchors, or
start the number or name of a character. Digits are an octal number or refer to a
group. Other letters mean nothing, and all else stands for itself. Within a class
there are no anchors and no groups.

A code point that is half of a pair is no character: nothing fits it.

## Main definitions

* `SetEscape`, `Escape`: What escapes stand for, within classes and elsewhere.
* `readSetEscape`, `readEscape`: Read them.
-/

namespace Stencil.Pattern

open Text (Extent)

/-- What an escape within a class stands for. -/
inductive SetEscape where
  /-- A character. -/
  | code (n : Nat)
  /-- The characters of a kind, or all others. -/
  | kind (kind : CharKind) (negated : Bool)
deriving DecidableEq, Repr

/-- What an escape elsewhere stands for. -/
inductive Escape where
  /-- What it stands for within a class as well. -/
  | part (part : SetEscape)
  /-- A place. -/
  | anchor (anchor : Anchor)
  /-- The text of a group. -/
  | group (number : Nat)
deriving DecidableEq, Repr

/-- The control character that a letter stands for. -/
def control? : Char → Option Nat
  | 'a' => some 0x07
  | 't' => some 0x09
  | 'n' => some 0x0A
  | 'v' => some 0x0B
  | 'f' => some 0x0C
  | 'r' => some 0x0D
  | _ => none

/-- The kind of characters that a letter stands for. -/
def kind? : Char → Option SetEscape
  | 'd' => some (.kind .digit false)
  | 'D' => some (.kind .digit true)
  | 's' => some (.kind .blank false)
  | 'S' => some (.kind .blank true)
  | 'w' => some (.kind .word false)
  | 'W' => some (.kind .word true)
  | _ => none

/-- The place that a letter stands for. -/
def anchor? (extent : Extent) : Char → Option Anchor
  | 'A' => some .textStart
  | 'Z' => some .textStop
  | 'b' => some (.wordEdge extent)
  | 'B' => some (.noWordEdge extent)
  | _ => none

/-- An escape and the digits that follow it. -/
def escapeText (c : Sign) (digits : List Char) : String :=
  .ofList (c.text ++ digits)

/-- A character by its number in so many hexadecimal digits. -/
def readHex (c : Sign) (count : Nat) (s : List Sign) : Except Error (Nat × Nat) := do
  let digits ← readWhile (isDigitIn 16) count s
  let n := numberIn 16 digits
  if digits.length < count then failAt c.place (.incompleteEscape (escapeText c digits))
  else if 0x7FFFFFFF < n then failAt c.place (.beyond .codePoint)
  else if 0x10FFFF < n then failAt c.place (.badEscape (escapeText c digits))
  else return (n, count)

/-- A character by its name in braces. -/
def readNamed (c : Sign) : List Sign → Except Error (Nat × Nat)
  | [] => failAt c.stop .noBrace
  | b :: s =>
    if b.is '\x7b' then do
      checkNext s
      let (name, taken) ← readUntil '\x7d' .noCharacterName b.stop true s
      match Text.codePointNamed? name with
      | some n => return (n, taken + 1)
      | none => failAt c.place (.unknownCharacter (.ofList name))
    else failAt c.stop .noBrace

/-- A character by its number in octal digits, of which the escape has the first. -/
def readOctal (c : Sign) (s : List Sign) : Except Error (Nat × Nat) := do
  let digits ← readWhile (isDigitIn 8) 2 s
  let n := numberIn 8 (c.char :: digits)
  if 0o377 < n then failAt c.place (.greatOctal (escapeText c digits))
  else return (n, digits.length)

/-- A character by a letter, by its number or by its name, if the escape gives one
    that way; the letter `b` is left to the caller. -/
def readCode? (c : Sign) (s : List Sign) : Option (Except Error (Nat × Nat)) :=
  match c.char with
  | 'x' => some (readHex c 2 s)
  | 'u' => some (readHex c 4 s)
  | 'U' => some (readHex c 8 s)
  | 'N' => some (readNamed c s)
  | '0' => some (readOctal c s)
  | d => (control? d).map fun n => .ok (n, 0)

/-- An escape that stands for itself, unless it is a letter or a digit. -/
def readItself (c : Sign) : Except Error (SetEscape × Nat) :=
  if c.char.isAlphanum then failAt c.place (.badEscape (escapeText c []))
  else .ok (.code c.char.toNat, 0)

/-- An escape within a class, and how many further signs it takes. -/
def readSetEscape (c : Sign) (s : List Sign) : Except Error (SetEscape × Nat) :=
  if let some kind := kind? c.char then .ok (kind, 0)
  else if c.char = 'b' then .ok (.code 0x08, 0)
  else if isDigitIn 8 c.char then (readOctal c s).map fun (n, taken) => (.code n, taken)
  else match readCode? c s with
    | some code => code.map fun (n, taken) => (.code n, taken)
    | none => readItself c

/-- An octal number of three digits, or else the number of a group in at most two
    digits; the escape has the first. -/
def readNumber (c : Sign) (s : List Sign) : Except Error (Escape × Nat) := do
  let digits ← readWhile Char.isDigit 1 s
  if (c.char :: digits).all (isDigitIn 8) && !digits.isEmpty then
    let third ← readWhile (isDigitIn 8) 1 (s.drop 1)
    if !third.isEmpty then
      let (n, taken) ← readOctal c s
      return (.part (.code n), taken)
  return (.group (numberIn 10 (c.char :: digits)), digits.length)

/-- An escape elsewhere, and how many further signs it takes. -/
def readEscape (extent : Extent) (c : Sign) (s : List Sign) : Except Error (Escape × Nat) :=
  if let some kind := kind? c.char then .ok (.part kind, 0)
  else if let some place := anchor? extent c.char then .ok (.anchor place, 0)
  else match readCode? c s with
    | some code => code.map fun (n, taken) => (.part (.code n), taken)
    | none =>
      if c.char.isDigit then readNumber c s
      else (readItself c).map fun (part, taken) => (.part part, taken)

/-- The code points from one to another, without the halves of pairs. -/
def rangeMember (first last : Nat) : CharSet.Member :=
  .range (if 0xD800 ≤ first ∧ first ≤ 0xDFFF then '\ue000' else .ofNat first)
    (if 0xD800 ≤ last ∧ last ≤ 0xDFFF then '\ud7ff' else .ofNat last)

/-- What an escape stands for, as a member of a class. -/
def SetEscape.member (extent : Extent) : SetEscape → CharSet.Member
  | code n => rangeMember n n
  | kind k negated => .kind k extent negated

end Stencil.Pattern
