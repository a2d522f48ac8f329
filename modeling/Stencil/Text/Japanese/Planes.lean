import Stencil.Text.Japanese.Jis0208
import Stencil.Text.Japanese.Jis0213

/-!
# The Planes of JIS X 0213

What the cells of the two planes stand for, in either edition of the set. The
second edition added ten ideographs on the first plane and exchanged one on the
second for a variant of it.

## Main definitions

* `Jis0213Edition`: The editions.
* `Jis0213Edition.lacks`: The cells that only the later edition fills.
* `Jis0213Edition.first?`: The characters in a cell of the first plane.
* `Jis0213Edition.second?`: The character in a cell of the second plane.
-/

namespace Stencil.Text

/-- The editions of JIS X 0213, by their years. -/
inductive Jis0213Edition where
  | of2000
  | of2004
deriving DecidableEq, Repr

namespace Jis0213Edition

/-- The cells of the first plane that only the second edition fills. -/
def addedLater : List (Nat × Nat) :=
  [(13, 0), (14, 93), (46, 51), (46, 93), (83, 6), (93, 89), (93, 90), (93, 91), (93, 92), (93, 93)]

/-- Whether a cell of the first plane is one that only the later edition fills. -/
def lacks (e : Jis0213Edition) (row cell : Nat) : Bool :=
  e == of2000 && addedLater.contains (row, cell)

/-- What a cell with two characters holds. -/
def pair? (row cell : Nat) : Option (List Char) :=
  jis0213Pairs.findSome? fun (r, first, pairs) =>
    if r = row ∧ first ≤ cell then (pairs[cell - first]?).map String.toList else none

/-- What a cell of the first plane holds, rows and cells counted from zero. -/
def first? (e : Jis0213Edition) (row cell : Nat) : Option (List Char) :=
  if e.lacks row cell then none
  else match Grid.jis0208.char? row cell with
    | some c => some [c]
    | none => match Grid.jis0213First.char? row cell with
      | some c => some [c]
      | none => pair? row cell

/-- What a cell of the second plane holds. -/
def second? (e : Jis0213Edition) (row cell : Nat) : Option Char :=
  if e = of2000 ∧ (row, cell) = (92, 26) then some '鬝' else Grid.jis0213Second.char? row cell

end Jis0213Edition

end Stencil.Text
