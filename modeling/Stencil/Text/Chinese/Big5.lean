import Stencil.Text.Chinese.Big5Table
import Stencil.Text.Chinese.HongKong
import Stencil.Text.Sequence

/-!
# Big5

Traditional Chinese text in two bytes for a character, the second of which may
be one of ASCII.

There are three sorts of it: the usual one, one with other forms of some signs
and a last row that is completed, and one with the characters of Hong Kong.

## Main definitions

* `Big5.standard`, `Big5.windows`, `Big5.hongKong`: What bytes begin with, for
  each sort.
-/

namespace Stencil.Text.Big5

/-- Where a second byte stands among all that there are. -/
def trail? (b : UInt8) : Option Nat :=
  if 0x40 ≤ b && b ≤ 0x7E then some (b.toNat - 0x40)
  else if 0xA1 ≤ b && b ≤ 0xFE then some (b.toNat - 0xA1 + 63)
  else none

/-- The character of two bytes in a grid whose first row is that of a byte. -/
def find? (g : Grid) (first a b : UInt8) : Option Char :=
  if first ≤ a then (trail? b).bind (g.char? (a - first).toNat) else none

/-- What bytes begin with, given the characters of two bytes. -/
def sequence (two? : UInt8 → UInt8 → Option (List Char)) (_ : Unit) (a : UInt8)
    (rest : List UInt8) : Sequence Unit :=
  if a < 0x80 then .plain a ()
  else match rest with
    | [] => .cutOff
    | b :: _ => .ofFound (two? a b) 1 ()

/-- What bytes in the usual sort begin with. -/
def standard : Unit → UInt8 → List UInt8 → Sequence Unit :=
  sequence fun a b => (find? .big5 0xA1 a b).map ([·])

/-- Other forms of signs, and the rest of the last row. -/
def windowsForms : List Strip := [
  ⟨0xA1, 0x45, "‧"⟩,
  ⟨0xA1, 0x4E, "﹑"⟩,
  ⟨0xA1, 0xC2, "¯"⟩,
  ⟨0xA1, 0xE3, "～"⟩,
  ⟨0xA1, 0xF2, "⊕⊙"⟩,
  ⟨0xA2, 0x41, "∕﹨�￥�￠￡"⟩,
  ⟨0xA3, 0xE1, "€"⟩,
  ⟨0xF9, 0xD6, "碁銹裏墻恒粧嫺╔╦╗╠╬╣╚╩╝╒╤╕╞╪╡╘╧╛╓╥╖╟╫╢╙╨╜║═╭╮╰╯▓"⟩]

/-- What bytes in the sort with other forms begin with. -/
def windows : Unit → UInt8 → List UInt8 → Sequence Unit :=
  sequence fun a b => (Strip.find? windowsForms a b <|> find? .big5 0xA1 a b).map ([·])

/-- Two bytes that belong to the rows of Hong Kong between the two levels. -/
def isMiddle (a b : UInt8) : Bool :=
  (a == 0xC6 && 0xA1 ≤ b) || a == 0xC7 || a == 0xC8

/-- The letters with two marks that are two characters each. -/
def markedLetters : List ((UInt8 × UInt8) × List Char) :=
  [((0x88, 0x62), ['Ê', '\u0304']), ((0x88, 0x64), ['Ê', '\u030c']),
   ((0x88, 0xA3), ['ê', '\u0304']), ((0x88, 0xA5), ['ê', '\u030c'])]

/-- What two bytes stand for in the sort of Hong Kong. -/
def hongKongChars? (a b : UInt8) : Option (List Char) :=
  if isMiddle a b then (find? .hongKongMiddle 0xC6 a b).map ([·])
  else ((find? .big5 0xA1 a b <|> find? .hongKongHigh 0xF9 a b <|> find? .hongKongLow 0x87 a b).map
    ([·])) <|> markedLetters.lookup (a, b)

/-- What bytes in the sort of Hong Kong begin with. -/
def hongKong : Unit → UInt8 → List UInt8 → Sequence Unit :=
  sequence hongKongChars?

end Stencil.Text.Big5
