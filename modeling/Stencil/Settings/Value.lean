import Stencil.Settings.Number

/-!
# Values of Settings

What may be given for a setting, and what is made of it.

A setting is given by its caller as a value of any type, or by the environment
as a text. Each setting has a type, and a value of another type is taken if it
plainly means one of the right type: the numbers 1 and 0 and some words for a
switch, a number written in digits for a number. Texts are taken only as texts.

A whole number may be given in floating point. Of those only the numbers that a
signed word of 64 bits holds are taken, its two ends left out, as they are also
the rounded forms of numbers that it does not hold. A switch may be given by any
number that a word holds, if it is 1 or 0.

## Main definitions

* `Value`: What may be given.
* `Value.ofBits`: A floating-point number, from its bits.
* `Fault`: Why it is not taken.
* `Value.toFlag`, `Value.toWhole`, `Value.toText`: What is made of a value.
-/

namespace Stencil.Settings

/-- What may be given for a setting. -/
inductive Value where
  | null
  | flag (b : Bool)
  | whole (n : Int)
  /-- A whole number in floating point. -/
  | wholeFloat (n : Int)
  /-- A number that is not whole. -/
  | fraction
  /-- An infinite number, or none. -/
  | boundless
  | text (s : String)
  /-- A list or an object. -/
  | compound
deriving DecidableEq, Repr

/-- Why a value is not taken. -/
inductive Fault where
  /-- It is no switch, though texts and whole numbers can be. -/
  | flagParsing
  /-- Its type has no switches. -/
  | flagType
  /-- The text is no whole number. -/
  | wholeParsing
  /-- The text has too many digits, or the number is too large for floating
      point. -/
  | wholeSize
  /-- The number is not whole. -/
  | wholeFromFraction
  /-- The number is infinite, or none. -/
  | notFinite
  /-- Its type has no whole numbers. -/
  | wholeType
  /-- It is no text. -/
  | textType
  /-- There is no setting of this name. -/
  | unknown
deriving DecidableEq, Repr

/-- The words for a switch that is on, in lower case. -/
def onWords : List String := ["1", "on", "t", "true", "y", "yes"]

/-- The words for a switch that is off, in lower case. -/
def offWords : List String := ["0", "off", "f", "false", "n", "no"]

namespace Value

/-- The value of a floating-point number with the given bits: a sign, eleven bits
    of an exponent, and 52 bits of a fraction, which counts in units of the
    smallest number where the exponent is least. A whole number counts in units
    of one, and the exponent for that is 1075. -/
def ofBits (bits : UInt64) : Value :=
  let exponent := bits.toNat / 0x10_0000_0000_0000 % 0x800
  let implied := if exponent = 0 then 0 else 0x10_0000_0000_0000
  let digits := bits.toNat % 0x10_0000_0000_0000 + implied
  let scale := max exponent 1
  let signed (n : Nat) : Int := if 0x8000_0000_0000_0000 ≤ bits.toNat then -n else n
  if exponent = 2047 then .boundless
  else if 1075 ≤ scale then .wholeFloat (signed (digits <<< (scale - 1075)))
  else
    let whole := digits >>> (1075 - scale)
    if whole <<< (1075 - scale) = digits then .wholeFloat (signed whole) else .fraction

/-- The least number that a signed word of 64 bits holds. -/
def leastOfWord : Int := -0x8000_0000_0000_0000

/-- Whether a floating-point number is certain to be one that a signed word of 64
    bits holds. -/
def isWithinWord (n : Int) : Bool :=
  leastOfWord < n && n < -leastOfWord

/-- The switch that a number means. -/
def flagOfWhole (n : Int) : Except Fault Bool :=
  if n = 1 then .ok true else if n = 0 then .ok false else .error .flagParsing

/-- The switch that a value means. -/
def toFlag : Value → Except Fault Bool
  | flag b => .ok b
  | whole n => if isWithinWord n || n = leastOfWord then flagOfWhole n else .error .flagType
  | wholeFloat n => if isWithinWord n then flagOfWhole n else .error .flagType
  | text s =>
    let word := s.map Char.toLower
    if onWords.contains word then .ok true
    else if offWords.contains word then .ok false
    else .error .flagParsing
  | null | fraction | boundless | compound => .error .flagType

/-- The whole number that a value means. -/
def toWhole : Value → Except Fault Int
  | flag b => .ok (if b then 1 else 0)
  | whole n => .ok n
  | wholeFloat n => if isWithinWord n then .ok n else .error .wholeSize
  | fraction => .error .wholeFromFraction
  | boundless => .error .notFinite
  | text s =>
    if isOverlong s.toList then .error .wholeSize
    else ((tidyNumber? s).bind wholeNumber?).elim (.error .wholeParsing) .ok
  | null | compound => .error .wholeType

/-- The text that a value is. -/
def toText : Value → Except Fault String
  | text s => .ok s
  | _ => .error .textType

end Value

end Stencil.Settings
