import Stencil.Pattern.Fault

/-!
# Signs

What the text of a pattern is made of, before its signs mean anything.

A sign is a character, or a backslash with the character after it. A backslash at
the very end is a sign of its own and always a fault. That fault goes before any
other of the sign in front of it, because a reader that takes a sign looks at the
one that comes next.

Readers are given the signs after one that is taken, and say how many of them
they take.

## Main definitions

* `Sign`: A character or an escape, with its place.
* `signs`: The signs of a text.
* `checkNext`, `checkTaken`: Find the fault of a backslash at the end.
* `readWhile`: The characters of a class that come next.
* `readUntil`: A name and the sign that ends it.
-/

namespace Stencil.Pattern

/-- A character, or the character after a backslash. -/
structure Sign where
  /-- How many characters come before it. -/
  place : Nat
  /-- Whether it has a backslash before it. -/
  escaped : Bool
  char : Char
deriving DecidableEq, Repr

namespace Sign

/-- The characters of a sign. -/
def text (c : Sign) : List Char :=
  if c.escaped then ['\\', c.char] else [c.char]

/-- The place after a sign. -/
def stop (c : Sign) : Nat :=
  c.place + c.text.length

/-- Whether a sign is the given character, without a backslash. -/
def is (c : Sign) (char : Char) : Bool :=
  !c.escaped && c.char == char

/-- Whether a sign is a backslash that nothing follows. -/
def isDangling (c : Sign) : Bool :=
  c.is '\\'

end Sign

/-- The signs of a text from a place on. -/
def signsFrom : (place : Nat) → List Char → List Sign
  | place, '\\' :: c :: s => ⟨place, true, c⟩ :: signsFrom (place + 2) s
  | place, c :: s => ⟨place, false, c⟩ :: signsFrom (place + 1) s
  | _, [] => []

/-- The signs of a text. -/
def signs (source : String) : List Sign :=
  signsFrom 0 source.toList

/-- A fault at a place. -/
def failAt {α : Type} (place : Nat) (fault : Fault) : Except Error α :=
  .error ⟨fault, some place⟩

/-- Take a sign with these signs after it; the next one may be a backslash at the
    end. -/
def checkNext : List Sign → Except Error Unit
  | c :: _ => if c.isDangling then failAt c.place .danglingEscape else .ok ()
  | [] => .ok ()

/-- Take a sign and then so many of those after it. -/
def checkTaken : (count : Nat) → List Sign → Except Error Unit
  | 0, s => checkNext s
  | count + 1, s => do
    checkNext s
    checkTaken count (s.drop 1)

/-- The characters of a class that come next, but no more than so many. -/
def readWhile (isPart : Char → Bool) : (most : Nat) → List Sign → Except Error (List Char)
  | most + 1, c :: s =>
    if !c.escaped && isPart c.char then do
      checkNext s
      return c.char :: (← readWhile isPart most s)
    else .ok []
  | _, _ => .ok []

/-- A name that starts at a place and goes on until a sign that ends it, and how
    many signs both take. There is a fault of its own for an empty name. -/
def readUntil (stop : Char) (empty : Fault) (start : Nat) :
    (isFirst : Bool) → List Sign → Except Error (List Char × Nat)
  | isFirst, [] => failAt start (if isFirst then empty else .unclosedName stop)
  | isFirst, c :: s => do
    checkNext s
    if c.is stop then
      if isFirst then failAt start empty else return ([], 1)
    else do
      let (name, taken) ← readUntil stop empty start false s
      return (c.text ++ name, taken + 1)

/-- The value of a digit in some base up to sixteen. -/
def digitIn? (base : Nat) (c : Char) : Option Nat :=
  let value? :=
    if c.isDigit then some (c.toNat - '0'.toNat)
    else if 'a' ≤ c ∧ c ≤ 'f' then some (c.toNat - 'a'.toNat + 10)
    else if 'A' ≤ c ∧ c ≤ 'F' then some (c.toNat - 'A'.toNat + 10)
    else none
  value?.filter (· < base)

/-- Whether a character is a digit in some base. -/
def isDigitIn (base : Nat) (c : Char) : Bool :=
  (digitIn? base c).isSome

/-- The number that digits in some base are. -/
def numberIn (base : Nat) (digits : List Char) : Nat :=
  digits.foldl (fun n c => n * base + (digitIn? base c).getD 0) 0

end Stencil.Pattern
