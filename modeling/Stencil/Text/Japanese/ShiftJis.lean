import Stencil.Text.Japanese.Jis0201
import Stencil.Text.Japanese.Makers
import Stencil.Text.Japanese.Planes
import Stencil.Text.Sequence

/-!
# Shift JIS

Japanese text in one byte for a letter or a katakana, and two for all else. The
first byte of two says which pair of rows a character stands in, and the second
one which row of the pair and which cell of it.

There are four sorts of it: for JIS X 0208, for each edition of JIS X 0213, and
one with the characters that makers of computers added in rows of their own.

## Main definitions

* `ShiftJis.place?`: The row and the cell that two bytes name.
* `ShiftJis.standard`, `ShiftJis.jis0213`, `ShiftJis.windows`: What bytes begin
  with, for each sort.
-/

namespace Stencil.Text.ShiftJis

/-- A byte that is the first of two, up to the last one of a sort. -/
def isLead (last a : UInt8) : Bool :=
  (0x81 ≤ a && a ≤ 0x9F) || (0xE0 ≤ a && a ≤ last)

/-- Where a second byte stands among all that there are. -/
def trail? (b : UInt8) : Option Nat :=
  if 0x40 ≤ b && b ≤ 0x7E then some (b.toNat - 0x40)
  else if 0x80 ≤ b && b ≤ 0xFC then some (b.toNat - 0x41)
  else none

/-- Where a first byte stands among all that there are. -/
def leadIndex (a : UInt8) : Nat :=
  if a < 0xE0 then a.toNat - 0x81 else a.toNat - 0xC1

/-- The row and the cell that two bytes name. -/
def place? (a b : UInt8) : Option (Nat × Nat) :=
  (trail? b).map fun i => (2 * leadIndex a + i / 94, i % 94)

/-- What bytes in the usual sort begin with. -/
def standard (_ : Unit) (a : UInt8) (rest : List UInt8) : Sequence Unit :=
  if a < 0x80 then .plain a ()
  else match kana? a with
    | some c => .one c ()
    | none =>
      if isLead 0xEA a then
        .ofTwo () (fun b => (place? a b).bind fun (row, cell) => Grid.jis0208.char? row cell) rest
      else .illegal 0

/-- The rows of the second plane that have sequences, in the order of these. -/
def secondPlaneRows : List Nat :=
  [0, 7, 2, 3, 4, 11, 12, 13, 14] ++ List.range' 77 17

/-- What two bytes stand for in the sort for JIS X 0213. The backslash and the
    tilde among the signs are those of ASCII. -/
def jis0213Chars? (e : Jis0213Edition) (a b : UInt8) : Option (List Char) :=
  (place? a b).bind fun place =>
    if place = (0, 31) then some ['\\']
    else if place = (1, 17) then some ['~']
    else if place.1 < 94 then e.first? place.1 place.2
    else secondPlaneRows[place.1 - 94]?.bind fun row => (e.second? row place.2).map ([·])

/-- How many bytes after the first are at fault where a place has no character:
    the second one, too, if only the later edition has one there. -/
def faultyBytes (e : Jis0213Edition) (place : Option (Nat × Nat)) : Nat :=
  if place.any fun (row, cell) => e.lacks row cell then 1 else 0

/-- What bytes in the sort for JIS X 0213 begin with. -/
def jis0213 (e : Jis0213Edition) (_ : Unit) (a : UInt8) (rest : List UInt8) : Sequence Unit :=
  if a < 0x80 then .one (romanChar a) ()
  else match kana? a with
    | some c => .one c ()
    | none =>
      if !isLead 0xFC a then .illegal 0
      else match rest with
        | [] => .cutOff
        | b :: _ => .ofFound (jis0213Chars? e a b) 1 () (faultyBytes e (place? a b))

/-- The character of two bytes in the rows of the makers. -/
def maker? (a b : UInt8) : Option Char :=
  (trail? b).bind fun i => makerRows.findSome? fun (first, characters) =>
    if first ≤ a then cell? characters ((a - first).toNat * 188 + i) else none

/-- The character for private use of two bytes. -/
def private? (a b : UInt8) : Option Char :=
  if 0xF0 ≤ a && a ≤ 0xF9 then
    (trail? b).map fun i => Char.ofNat (0xE000 + (a - 0xF0).toNat * 188 + i)
  else none

/-- The character of two bytes in the sort of the makers. -/
def windowsChar? (a b : UInt8) : Option Char :=
  Strip.find? makerStrips a b <|> maker? a b <|> private? a b <|>
    (place? a b).bind fun (row, cell) => Grid.jis0208.char? row cell

/-- What bytes in the sort of the makers begin with. The bytes that are left over
    are characters of their own. -/
def windows (_ : Unit) (a : UInt8) (rest : List UInt8) : Sequence Unit :=
  if a ≤ 0x80 then .plain a ()
  else match kana? a with
    | some c => .one c ()
    | none =>
      if a == 0xA0 then .one '\uf8f0' ()
      else if 0xFD ≤ a then .one (Char.ofNat (0xF8F1 + (a - 0xFD).toNat)) ()
      else .ofTwo () (windowsChar? a) rest

end Stencil.Text.ShiftJis
