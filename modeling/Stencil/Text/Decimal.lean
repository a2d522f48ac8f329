import Stencil.Text.Ranges
import Stencil.Text.Blank

/-!
# Decimal Digits

The digits of all scripts, and the numbers that are written with them.

Each script with decimal digits has ten of them in a row, from zero to nine, so
the zeros are all that the table lists; it is that of Unicode 14.

A number may have blanks around it, a sign before it and single underscores
between its digits. It may have no more than `digitLimit` digits.

## Main definitions

* `digitValue?`: The value of a decimal digit of any script.
* `natural?`: The number that digits with underscores between them are.
* `integer?`: The number that a text is.
-/

namespace Stencil.Text

/-- The code points of the zeros. -/
def zeros : List Nat := [
    0x30, 0x660, 0x6F0, 0x7C0, 0x966, 0x9E6, 0xA66, 0xAE6, 0xB66, 0xBE6, 0xC66, 0xCE6, 0xD66,
    0xDE6, 0xE50, 0xED0, 0xF20, 0x1040, 0x1090, 0x17E0, 0x1810, 0x1946, 0x19D0, 0x1A80, 0x1A90,
    0x1B50, 0x1BB0, 0x1C40, 0x1C50, 0xA620, 0xA8D0, 0xA900, 0xA9D0, 0xA9F0, 0xAA50, 0xABF0,
    0xFF10, 0x104A0, 0x10D30, 0x11066, 0x110F0, 0x11136, 0x111D0, 0x112F0, 0x11450, 0x114D0,
    0x11650, 0x116C0, 0x11730, 0x118E0, 0x11950, 0x11C50, 0x11D50, 0x11DA0, 0x16A60, 0x16AC0,
    0x16B50, 0x1D7CE, 0x1D7D8, 0x1D7E2, 0x1D7EC, 0x1D7F6, 0x1E140, 0x1E2F0, 0x1E950, 0x1FBF0]

/-- The value of a decimal digit of any script. -/
def digitValue? (c : Char) : Option Nat :=
  (zeros.find? fun z => z ≤ c.toNat && c.toNat < z + 10).map (c.toNat - ·)

/-- Whether a character is a decimal digit of some script. -/
def isDecimalDigit (c : Char) : Bool :=
  (digitValue? c).isSome

/-- The most digits that a number may have. -/
def digitLimit : Nat := 4300

/-- The number that digits with single underscores between them are. -/
def natural? (s : List Char) : Option Nat :=
  let groups := s.splitOn '_'
  if groups.all (fun group => !group.isEmpty && group.all isDecimalDigit) ∧
      groups.flatten.length ≤ digitLimit then
    some ((groups.flatten.filterMap digitValue?).foldl (fun n d => n * 10 + d) 0)
  else none

/-- The blanks that do not count around a number: not the four separators
    before the space. -/
def isOuterBlank (c : Char) : Bool :=
  isBlank c && !('\x1c' ≤ c && c ≤ '\x1f')

/-- The number that a text is. -/
def integer? (s : List Char) : Option Int :=
  match ((s.dropWhile isOuterBlank).reverse.dropWhile isOuterBlank).reverse with
  | '-' :: s => (natural? s).map (-Int.ofNat ·)
  | '+' :: s => (natural? s).map Int.ofNat
  | s => (natural? s).map Int.ofNat

/-- A sign, underscores and digits of other scripts. -/
example : (["12", " +1_2\n", "-7", "\u0661\u0662", "1__2", "_1", "", "1\x1c"].map fun s =>
    integer? s.toList) = [some 12, some 12, some (-7), some 12, none, none, none, none] := by
  decide

end Stencil.Text
