import Stencil.Files.PurePath

/-!
# File Trees

Files, directories and symbolic links, and what stands at which place.

A place is a list of names from the top of the tree. A directory need not be
listed: whatever something stands below is one.

## Main definitions

* `Node`, `Tree`: What is at a place, and what is at all places.
* `Tree.link?`, `Tree.isDirectory`: Questions about a place.
* `Place.step`: One step on the way, links aside.
* `Place.walk`: A path taken as it is written.
-/

namespace Stencil.Files

/-- A place: the names from the top of the tree. -/
abbrev Place := List String

namespace Place

/-- One step: two full stops lead to the directory above, and above the top
    there is only the top itself; any other name leads down. -/
def step (here : Place) (name : String) : Place :=
  if name = ".." then here.dropLast else here ++ [name]

/-- Where names lead, taken as they are written. -/
def walk (here : Place) (names : List String) : Place :=
  names.foldl step here

/-- Where a path starts that is seen from a place: at the top if it has a root. -/
def start (here : Place) (path : PurePath) : Place :=
  if path.hasRoot then [] else here

/-- Where a path leads, taken as it is written. -/
def asWritten (here : Place) (path : PurePath) : Place :=
  (here.start path).walk path.names

/-- How a place is written. -/
def text (place : Place) : String :=
  (PurePath.mk 1 place).text

/-- From the top, a path starts at the top. -/
theorem start_nil (path : PurePath) : start [] path = [] :=
  ite_self _

end Place

/-- Whether a place is another or below it. -/
def isWithin (place root : Place) : Bool :=
  root.isPrefixOf place

/-- What is at a place. -/
inductive Node where
  | file (bytes : List UInt8)
  | directory
  /-- A symbolic link with its target as it is written. -/
  | link (target : String)
deriving DecidableEq, Repr

/-- What is at which places. -/
structure Tree where
  nodes : List (Place × Node)
deriving DecidableEq, Repr

namespace Tree

/-- What is at a place. -/
def node? (t : Tree) (place : Place) : Option Node :=
  t.nodes.lookup place

/-- The target of the link at a place, if a link is there. -/
def link? (t : Tree) (place : Place) : Option String :=
  match t.node? place with
  | some (.link target) => some target
  | _ => none

/-- Whether there is a directory at a place. -/
def isDirectory (t : Tree) (place : Place) : Bool :=
  place.isEmpty || t.node? place = some .directory ||
    t.nodes.any fun n => n.1 != place && isWithin n.1 place

end Tree

end Stencil.Files
