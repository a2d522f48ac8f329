import Std.Data.HashSet

/-!
# Character Sets in Rows

A large character set is printed as a grid: each character stands in a cell of
a row, and a sequence of bytes names the row and the cell. Where only a few
characters stand far apart, they are kept as strips of cells instead.

Some encodings complete a set by whatever it lacks of a script, in the order of
the code points. Such a supplement needs no table of its own.

## Main definitions

* `Grid`: A character set in rows.
* `Grid.char?`: The character in a cell.
* `Grid.lacked`: What a set lacks of a script.
* `Strip`: Characters in adjacent cells.
-/

namespace Stencil.Text

/-- The character in a cell of a row. The replacement character stands in the
    cells that are free. -/
def cell? (row : String) (i : Nat) : Option Char :=
  row.toList[i]?.filter (· != '\ufffd')

/-- A character set in rows. -/
structure Grid where
  /-- The rows, each up to its last character. -/
  rows : List String

namespace Grid

/-- The character in a cell, rows and cells counted from zero. -/
def char? (g : Grid) (row cell : Nat) : Option Char :=
  g.rows[row]?.bind (cell? · cell)

/-- The character of two bytes, of which the first counts rows and the second
    cells from a base on. -/
def byBytes? (g : Grid) (base a b : UInt8) : Option Char :=
  if base ≤ a && base ≤ b then g.char? (a - base).toNat (b - base).toNat else none

/-- All characters, row by row. -/
def chars (g : Grid) : List Char :=
  (g.rows.flatMap String.toList).filter (· != '\ufffd')

/-- The characters from the first code point to the last that the set lacks, in
    their order. -/
def lacked (g : Grid) (first last : Nat) : Array Char :=
  let held := Std.HashSet.ofList (g.chars.map Char.toNat)
  (((List.range' first (last + 1 - first)).filter (!held.contains ·)).map Char.ofNat).toArray

end Grid

/-- Characters whose sequences differ in the second byte only, from one on. -/
structure Strip where
  lead : UInt8
  /-- The second byte of the first character. -/
  trail : UInt8
  characters : String
deriving DecidableEq, Repr

/-- The character of two bytes in one of several strips. -/
def Strip.find? (strips : List Strip) (a b : UInt8) : Option Char :=
  strips.findSome? fun s =>
    if s.lead == a && s.trail ≤ b then cell? s.characters (b - s.trail).toNat else none

end Stencil.Text
