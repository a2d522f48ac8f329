import Stencil.Pattern.Sign
import Stencil.Pattern.Width

/-!
# Groups That Have Been Read

What can be said of the groups of a pattern while it is read.

Groups are numbered from 1 in the order in which they open, and may have names. A
group can be referred to once it is closed; then it has a width. Within a look
behind, only groups that were there before it can be referred to.

A pattern may be read after others, so that its groups come after theirs.

## Main definitions

* `Groups`: The groups so far.
* `Groups.capture`, `Groups.close`: Open and close one.
* `Groups.checkClosed`, `Groups.checkBehind`: Whether one can be referred to.
-/

namespace Stencil.Pattern

/-- The groups of a pattern as far as it has been read. -/
structure Groups where
  /-- The widths of the groups, in order; `none` while a group is open. -/
  widths : List (Option Width)
  /-- The names of groups, with their numbers. -/
  names : List (String × Nat)
deriving DecidableEq, Repr

namespace Groups

/-- No groups. -/
def none : Groups :=
  ⟨[], []⟩

/-- The number of groups. -/
def count (g : Groups) : Nat :=
  g.widths.length

/-- The width of a group that is closed. -/
def width? (g : Groups) (number : Nat) : Option Width :=
  match number with
  | 0 => .none
  | i + 1 => g.widths[i]?.join

/-- The width of a group; zero if it is not known. -/
def width (g : Groups) (number : Nat) : Width :=
  (g.width? number).getD .zero

/-- The number of the group with a name. -/
def number? (g : Groups) (name : String) : Option Nat :=
  g.names.lookup name

/-- The groups with one more that is open. -/
def capture (g : Groups) (name : Option String) : Groups :=
  ⟨g.widths ++ [.none], g.names ++ (name.map fun name => (name, g.count + 1)).toList⟩

/-- The groups when the one is closed that comes after so many. -/
def close (g : Groups) (before : Nat) (width : Width) : Groups :=
  { g with widths := g.widths.set before (some width) }

/-- The groups and then those of a pattern that was read apart from them. -/
def append (g other : Groups) : Groups :=
  ⟨g.widths ++ other.widths,
    g.names ++ other.names.map fun (name, number) => (name, g.count + number)⟩

/-- A group that is referred to has to be closed. -/
def checkClosed (g : Groups) (number place : Nat) : Except Error Unit :=
  if (g.width? number).isSome then .ok () else failAt place .openGroup

/-- A group that is referred to in a look behind has to be closed and to be one of
    the groups before that; `behind` tells how many these are. -/
def checkBehind (g : Groups) (behind : Option Nat) (number place : Nat) : Except Error Unit :=
  match behind with
  | .none => .ok ()
  | some count => do
    g.checkClosed number place
    if count < number then failAt place .groupLookedBehind

@[simp] theorem count_capture (g : Groups) (name : Option String) :
    (g.capture name).count = g.count + 1 := by
  simp [capture, count]

@[simp] theorem count_close (g : Groups) (before : Nat) (width : Width) :
    (g.close before width).count = g.count := by
  simp [close, count]

end Groups

end Stencil.Pattern
