import Stencil.Text.Korean.Hangul
import Stencil.Text.Korean.Ks1001
import Stencil.Text.Sequence

/-!
# Extended Unix Code for Korean

Korean text in two bytes for a character. There are two sorts of it.

In the first, both bytes are beyond ASCII. A syllable that KS X 1001 lacks is
spelled by a filler and its three letters, in eight bytes.

In the second, all the syllables that KS X 1001 lacks have sequences of their
own, in the order of their code points. These stand in front of the others and in
between, where the second byte may be a letter of ASCII.

## Main definitions

* `EucKr.spelled?`: The syllable of three letters.
* `EucKr.standard`, `EucKr.unified`: What bytes begin with, for each sort.
-/

namespace Stencil.Text.EucKr

/-- The byte of the row of letters. -/
def letterRow : UInt8 := 0xA4

/-- The byte of the filler in the row of letters. -/
def filler : UInt8 := 0xD4

/-- The letter of a second byte. -/
def letter? (b : UInt8) : Option Char :=
  Grid.ks1001.byBytes? 0xA1 letterRow b

/-- The syllable of three letters, given their second bytes. -/
def spelled? (initial medial final : UInt8) : Option Char := do
  let i ← (← letter? initial) |> Hangul.initials.idxOf?
  let m ← (← letter? medial) |> Hangul.medials.idxOf?
  if final == filler then return Hangul.syllable i m 0
  else return Hangul.syllable i m ((← (← letter? final) |> Hangul.finals.idxOf?) + 1)

/-- What bytes in the first sort begin with. -/
def standard (_ : Unit) (a : UInt8) (rest : List UInt8) : Sequence Unit :=
  if a < 0x80 then .plain a ()
  else match rest with
    | [] => .cutOff
    | b :: rest =>
      if a == letterRow && b == filler then
        match rest with
        | c :: initial :: d :: medial :: e :: final :: _ =>
          if c == letterRow && d == letterRow && e == letterRow then
            .ofFound ((spelled? initial medial final).map ([·])) 7 ()
          else .illegal 0
        | _ => .cutOff
      else .ofFound ((Grid.ks1001.byBytes? 0xA1 a b).map ([·])) 1 ()

/-- The syllables that KS X 1001 lacks. -/
def supplement : Array Char :=
  Grid.ks1001.lacked 0xAC00 0xD7A3

/-- Where a second byte stands among all that there are. -/
def trail? (b : UInt8) : Option Nat :=
  if 0x41 ≤ b && b ≤ 0x5A then some (b.toNat - 0x41)
  else if 0x61 ≤ b && b ≤ 0x7A then some (b.toNat - 0x61 + 26)
  else if 0x81 ≤ b && b ≤ 0xFE then some (b.toNat - 0x81 + 52)
  else none

/-- Where two bytes stand among those of the supplement: first whole rows of 178
    cells, then the first 84 of each. -/
def supplementIndex? (a b : UInt8) : Option Nat :=
  (trail? b).bind fun i =>
    if 0x81 ≤ a && a ≤ 0xA0 then some ((a - 0x81).toNat * 178 + i)
    else if 0xA1 ≤ a && i < 84 then some (0x20 * 178 + (a - 0xA1).toNat * 84 + i)
    else none

/-- The character of two bytes in the second sort. -/
def unifiedChar? (a b : UInt8) : Option Char :=
  Grid.ks1001.byBytes? 0xA1 a b <|> (supplementIndex? a b).bind (supplement[·]?)

/-- What bytes in the second sort begin with. -/
def unified (_ : Unit) (a : UInt8) (rest : List UInt8) : Sequence Unit :=
  if a < 0x80 then .plain a () else .ofTwo () (unifiedChar? a) rest

end Stencil.Text.EucKr
