import Stencil.Text.Utf16

/-!
# Code Points

Characters given by numbers, which may be the halves of pairs. The two halves of
a pair, one after the other, are one character. A half without the other is no character
at all. There are systems whose texts can hold such halves, and whatever comes of a
text with one is not described here: texts are made of characters throughout.

## Main definitions

* `joinHalves`: The characters of code points.
-/

namespace Stencil.Text

/-- The characters of code points. The two halves of a pair are one. A half
    without the other is no character, so that no text can stand for one that has it;
    such texts are not dealt with, and the replacement that is written here is only there
    for the function to be total. -/
def joinHalves : List Nat → List Char
  | [] => []
  | m :: n :: points =>
    if isFirstHalf m && isSecondHalf n then Char.ofNat (codePointOfPair m n) :: joinHalves points
    else one m :: joinHalves (n :: points)
  | [m] => [one m]
where
  /-- The character of a code point, if it is no half of a pair. -/
  one (m : Nat) : Char := if isFirstHalf m || isSecondHalf m then '\ufffd' else Char.ofNat m

end Stencil.Text
