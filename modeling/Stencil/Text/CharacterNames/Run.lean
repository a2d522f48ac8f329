/-!
# Runs of Names

Names of characters whose code points follow each other. What all of them begin
with is given once.

## Main definitions

* `NameRun`: A run of names.
* `NameRun.find?`: The code point that a run gives to a name.

## Theorems

* `NameRun.find?_eq_none`: A run has only names with its heading.
-/

namespace Stencil.Text.CharacterNames

/-- Names of characters whose code points follow each other. -/
structure NameRun where
  /-- The code point of the first of them. -/
  first : Nat
  /-- What each of the names begins with. -/
  heading : String
  /-- What each of them ends with, with commas between. -/
  endings : String
deriving DecidableEq, Repr

/-- The rest of a text behind its beginning, if it begins so. -/
def behind? (beginning : String) (s : List Char) : Option (List Char) :=
  if beginning.toList.isPrefixOf s then some (s.drop beginning.length) else none

namespace NameRun

/-- The code point of the character with a name, if it is in the run. -/
def find? (run : NameRun) (name : List Char) : Option Nat := do
  let ending ← behind? run.heading name
  let i ← (run.endings.splitOn ",").idxOf? (String.ofList ending)
  return run.first + i

/-- A run has only names with its heading. -/
theorem find?_eq_none {run : NameRun} {name : List Char}
    (h : run.heading.toList.isPrefixOf name = false) : run.find? name = none := by
  simp [find?, behind?, h]

end NameRun

end Stencil.Text.CharacterNames
