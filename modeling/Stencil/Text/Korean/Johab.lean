import Stencil.Text.Korean.Hangul
import Stencil.Text.Korean.Ks1001
import Stencil.Text.Sequence

/-!
# Johab

Korean text in two bytes for a character. The bits of the two bytes of a
syllable are three numbers of five bits, one for each of its letters, in which
one number means that there is none. A letter may stand alone. All characters of
KS X 1001 that are neither syllables nor letters come after.

## Main definitions

* `Johab.hangul?`: The syllable or letter of two bytes.
* `Johab.place?`: The row and the cell of KS X 1001 that two bytes name.
* `Johab.sequence`: What bytes begin with.
-/

namespace Stencil.Text.Johab

/-- What five bits say: which letter, counted from zero, that there is none, or
    nothing at all. -/
inductive Part where
  | letter (i : Nat)
  | absent
  | unused
deriving DecidableEq, Repr

/-- The place of a number in runs of numbers that are used: each run begins with
    its first number and its length. -/
def inRuns (n : Nat) : List (Nat × Nat) → Part
  | [] => .unused
  | (first, length) :: runs =>
    if first ≤ n ∧ n < first + length then .letter (n - first)
    else match inRuns n runs with
      | .letter i => .letter (length + i)
      | part => part

/-- What the bits of an initial say. -/
def initial (n : Nat) : Part :=
  if n = 1 then .absent else inRuns n [(2, 19)]

/-- What the bits of a medial say. -/
def medial (n : Nat) : Part :=
  if n = 2 then .absent else inRuns n [(3, 5), (10, 6), (18, 6), (26, 4)]

/-- What the bits of a final say. -/
def final (n : Nat) : Part :=
  if n = 1 then .absent else inRuns n [(2, 16), (19, 11)]

/-- The syllable or the letter of two bytes. -/
def hangul? (a b : UInt8) : Option Char :=
  let n := a.toNat * 0x100 + b.toNat
  match initial (n / 0x400 % 0x20), medial (n / 0x20 % 0x20), final (n % 0x20) with
  | .absent, .absent, .absent => some '\u3000'
  | .absent, .absent, .letter f => Hangul.finals[f]?
  | .absent, .letter m, .absent => Hangul.medials[m]?
  | .letter i, .absent, .absent => Hangul.initials[i]?
  | .letter i, .letter m, .absent => some (Hangul.syllable i m 0)
  | .letter i, .letter m, .letter f => some (Hangul.syllable i m (f + 1))
  | _, _, _ => none

/-- The first byte of characters that are neither syllables nor letters. -/
def isLead (a : UInt8) : Bool :=
  (0xD9 ≤ a && a ≤ 0xDE) || (0xE0 ≤ a && a ≤ 0xF9)

/-- Where a second byte stands among all that there are. -/
def trail? (b : UInt8) : Option Nat :=
  if 0x31 ≤ b && b ≤ 0x7E then some (b.toNat - 0x31)
  else if 0x91 ≤ b && b ≤ 0xFE then some (b.toNat - 0x43)
  else none

/-- The row and the cell of KS X 1001 that two bytes name. -/
def place? (a b : UInt8) : Option (Nat × Nat) :=
  if !isLead a || (a == 0xDA && 0xA1 ≤ b && b ≤ 0xD3) then none
  else (trail? b).bind fun i =>
    let row := if a < 0xE0 then 2 * (a.toNat - 0xD9) else 2 * a.toNat - 0x197
    some (row + i / 94, i % 94)

/-- The character of two bytes. -/
def char? (a b : UInt8) : Option Char :=
  if a < 0xD8 then hangul? a b
  else (place? a b).bind fun (row, cell) => Grid.ks1001.char? row cell

/-- What bytes begin with. -/
def sequence (_ : Unit) (a : UInt8) (rest : List UInt8) : Sequence Unit :=
  if a < 0x80 then .plain a () else .ofTwo () (char? a) rest

end Stencil.Text.Johab
