import Stencil.Text.Case
import Stencil.Text.Blank

/-!
# Whole Numbers as They Are Written

In its strict form a whole number is a minus, if it is negative, and decimal
digits that do not start with a zero, unless the zero is all there is. There may
be no more than `digitLimit` digits; a minus is none of them.

A looser text is put into that form first. Blanks around it are dropped, where
the four separators before the space are no blanks; so is a plus. Zeros in front
are dropped together with underscores among them, and after such zeros there may
be a minus. Zeros after a point are dropped with the point. In the end single
underscores are dropped; if one is at an end or next to another, all of them
stay, and what is left is no number.

Too many digits are a fault of their own only where a text has them before
anything is done to it. Once a text had to be put into strict form, it is a
number or it is none.

## Main definitions

* `wholeNumber?`: The number that is written in strict form.
* `tidyNumber?`: A text put into strict form, if it is a number.
* `isOverlong`: Whether a text has too many digits as it stands.
-/

namespace Stencil.Settings

/-- The most digits that a number may have. -/
def digitLimit : Nat := 4300

/-- The number that digits are, if they are not too many and none of them is a
    needless zero. -/
def natural? (s : List Char) : Option Nat :=
  if !s.isEmpty && s.all Char.isDigit && (s.head? != some '0' || s.length == 1) &&
      s.length ≤ digitLimit then
    some (s.foldl (fun n c => n * 10 + (c.toNat - '0'.toNat)) 0)
  else none

/-- The number that is written in strict form. -/
def wholeNumber? : List Char → Option Int
  | '-' :: s => (natural? s).map (-Int.ofNat ·)
  | s => (natural? s).map Int.ofNat

/-- The blanks that do not count around a number. -/
def isNumberBlank (c : Char) : Bool :=
  Text.isBlank c && !('\x1c' ≤ c && c ≤ '\x1f')

/-- A text without blanks around it. -/
def dropBlanks (s : List Char) : List Char :=
  ((s.dropWhile isNumberBlank).reverse.dropWhile isNumberBlank).reverse

/-- What is left of a text after zeros, and underscores among them, of which
    `last` is the last so far. A point needs a digit before it, and if nothing
    follows, the last character is what there is. -/
def afterZeros? (last : Char) : List Char → Option (List Char)
  | [] => some [last]
  | c :: s =>
    if c = '0' || c = '_' then afterZeros? c s
    else if c = '.' then some (last :: c :: s)
    else if c.isDigit || c = '-' then some (c :: s)
    else none

/-- A text without the zeros that it starts with; it has to start with a digit. -/
def dropZeros? : List Char → Option (List Char)
  | [] => none
  | c :: s => if c = '0' then afterZeros? c s else if c.isDigit then some (c :: s) else none

/-- A text without a point and zeros at its end. -/
def dropFraction (s : List Char) : List Char :=
  match s.reverse.takeWhile (· == '0'), s.reverse.dropWhile (· == '0') with
  | _ :: _, '.' :: whole => whole.reverse
  | _, _ => s

/-- A text without underscores, if they are single and not at its ends. -/
def dropUnderscores (s : List Char) : List Char :=
  let groups := s.splitOn '_'
  if groups.all fun group => !group.isEmpty then groups.flatten else s

/-- A text put into strict form, if it starts as a number. -/
def tidyNumber? (s : String) : Option (List Char) :=
  let unsigned (s : List Char) : Option (List Char) :=
    (dropZeros? s).map fun s => dropUnderscores (dropFraction s)
  match dropBlanks s.toList with
  | '-' :: s => (unsigned s).map ('-' :: ·)
  | '+' :: s => unsigned s
  | s => unsigned s

/-- Whether a text starts, after a minus if there is one, with more digits than
    a number may have. Where the first is a zero, the number ends with it. -/
def isOverlong (s : List Char) : Bool :=
  let unsigned := if s.head? = some '-' then s.drop 1 else s
  unsigned.head? != some '0' && digitLimit < (unsigned.takeWhile Char.isDigit).length

end Stencil.Settings
