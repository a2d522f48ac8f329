/-!
# Paths as Text

Paths as they are written, before anything is known about files.

A path is a root and names. Of the slashes at its start, exactly two are a root
of their own kind, and any other number is the usual root. Between names any
number of slashes counts as one, and the name of a single full stop is left
out; that of two full stops stays, because what it means depends on links.

A name of a path may be wanted together with what is written after it. That is
kept as it stands, as it need not be a path without a root: after the first of
two slashes, the second is a root.

## Main definitions

* `Segment`, `segments`: The names of a path, each with what is written after it.
* `PurePath`: A root and names.
* `PurePath.ofText`: The path that is written.
* `PurePath.join`: A path seen from another.
* `PurePath.text`: How a path is written.
-/

namespace Stencil.Files

/-- A path as it is written. -/
structure PurePath where
  /-- The slashes that the path starts with: none, one or two. -/
  slashes : Nat
  names : List String
deriving DecidableEq, Repr

/-- A name of a path, and what is written after it. -/
structure Segment where
  name : String
  /-- What follows the slash after the name. -/
  rest : List Char
deriving DecidableEq, Repr

/-- What is written after the first slash. -/
def afterSlash (s : List Char) : List Char :=
  (s.dropWhile (· != '/')).drop 1

theorem length_afterSlash_lt (c : Char) (s : List Char) :
    (afterSlash (c :: s)).length < (c :: s).length := by
  have h := (List.dropWhile_sublist (p := (· != '/')) (l := c :: s)).length_le
  rw [afterSlash, List.length_drop]
  simp only [List.length_cons] at h ⊢
  omega

/-- The names between slashes, each with what is written after it; those are left
    out that name no step. -/
def segments : List Char → List Segment
  | [] => []
  | c :: s =>
    let name := String.ofList ((c :: s).takeWhile (· != '/'))
    let rest := afterSlash (c :: s)
    if name = "" || name = "." then segments rest else ⟨name, rest⟩ :: segments rest
termination_by s => s.length
decreasing_by all_goals exact length_afterSlash_lt c s

/-- The names between slashes that name a step. -/
def nameList (s : List Char) : List String :=
  (segments s).map Segment.name

namespace PurePath

/-- The path that is written. -/
def ofText (s : String) : PurePath :=
  let slashes := (s.toList.takeWhile (· == '/')).length
  ⟨if slashes = 2 then 2 else min slashes 1, nameList s.toList⟩

/-- Whether the path has a root. -/
def hasRoot (p : PurePath) : Bool :=
  p.slashes != 0

/-- The second path, seen from the first: itself if it has a root. -/
def join (p q : PurePath) : PurePath :=
  if q.hasRoot then q else ⟨p.slashes, p.names ++ q.names⟩

/-- How a path is written; the path of no steps is a full stop. -/
def text (p : PurePath) : String :=
  let s := .ofList (List.replicate p.slashes '/') ++ "/".intercalate p.names
  if s.isEmpty then "." else s

end PurePath

end Stencil.Files
