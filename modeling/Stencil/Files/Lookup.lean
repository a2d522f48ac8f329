import Stencil.Files.Tree

/-!
# Looking Up Files

What a system finds when it is asked for what is at a place.

Unlike following a path, which goes on where there is nothing, looking up takes
a step only out of a directory that exists, and has limits: on the length of a
name, on the length of the whole path, and on the number of links on the way.
Whoever exceeds the last is told that links lead in a circle, and they do, or
else are very many.

## Main definitions

* `Found`: What is found.
* `Tree.find`: What is found at the end of a way.
* `Tree.lookUp`: What is found at a place.
-/

namespace Stencil.Files

/-- What is found at the end of a way. -/
inductive Found where
  | file (bytes : List UInt8)
  | directory
  | nothing
  /-- A name or the path is longer than it may be. -/
  | tooLong
  /-- There are more links on the way than there may be. -/
  | circle
deriving DecidableEq, Repr

/-- The most bytes that a name may have. -/
def nameLimit : Nat := 255

/-- The most bytes that a path may have. -/
def pathLimit : Nat := 4095

/-- The most links that there may be on a way. -/
def linkLimit : Nat := 40

/-- The steps of a link's target. One that ends with a slash stays where it is in
    the end, which only a directory allows. -/
def steps (target : String) : List String :=
  let names := ((target.toList.splitOn '/').map String.ofList).filter (· != "")
  if target.toList.getLast? = some '/' then names ++ ["."] else names

namespace Tree

/-- What is at a place that was reached. -/
def foundAt (t : Tree) (here : Place) : Found :=
  match t.node? here with
  | some (.file bytes) => .file bytes
  | _ => if t.isDirectory here then .directory else .nothing

/-- What is found at the end of a way, with at most the given number of links on
    it. -/
def find (t : Tree) : (links : Nat) → (here : Place) → List String → Found
  | _, here, [] => t.foundAt here
  | links, here, name :: names =>
    if !t.isDirectory here then .nothing
    else if name = "." then t.find links here names
    else if name = ".." then t.find links here.dropLast names
    else if nameLimit < name.utf8ByteSize then .tooLong
    else match t.link? (here ++ [name]), links with
      | none, links => t.find links (here ++ [name]) names
      | some _, 0 => .circle
      | some target, links + 1 =>
        t.find links (here.start (.ofText target)) (steps target ++ names)
termination_by links _ names => (links, names.length)

/-- What is found at a place. -/
def lookUp (t : Tree) (place : Place) : Found :=
  if pathLimit < place.text.utf8ByteSize then .tooLong else t.find linkLimit [] place

end Tree

end Stencil.Files
