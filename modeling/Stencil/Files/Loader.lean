import Stencil.Files.Follow
import Stencil.Files.Lookup
import Stencil.Log.Message
import Stencil.Report
import Stencil.Text.Encoding

/-!
# Loaders

Where the texts of templates come from.

A loader belongs to the host and may be any function from names to texts. Two
are given here. One serves texts by exact name from a list. The other serves
files below a root directory of a tree: the name is a path seen from the root,
and wherever links take it, the place it leads to has to be the root or below
it. Whether there is something outside the root does not show.

A path that came to a circle of links leads to a place that is taken as it is
written. Such a place is compared with the root as it stands, though there may
be further links on the way to it.

## Main definitions

* `Error`: Why a loader serves nothing.
* `Loader`: A function from names to texts.
* `Loader.ofEntries`: The loader of a list of texts.
* `Directory`: A root in a tree, a limit for links, and an encoding.
* `Directory.settle`: Where a path leads, if it leads anywhere.
* `Directory.resolve`: Where a name leads.
* `Loader.ofDirectory`: The loader of the files below a root.

## Theorems

* `Directory.isWithin_of_resolve`: The place of a name is the root or below it.
-/

namespace Stencil.Files

/-- Why a loader serves nothing. -/
inductive Error where
  /-- There is no file of the name. -/
  | missing (name : String)
  /-- The name leads out of the root. -/
  | outside (name : String)
  /-- The file is not read. -/
  | unreadable (name : String) (fault : Text.ReadFault)
  /-- The name holds the null character. -/
  | badName (name : String)
  /-- The name, or a part of it, is longer than names can be. -/
  | tooLong (name : String)
  /-- Links lead in a circle. -/
  | circle (name : String)
  /-- Too many links lead to each other. -/
  | tooDeep (name : String)
  /-- No encoding has the name that files are to be read with. -/
  | unknownEncoding (encoding : String)
  /-- The name of the encoding holds the null character. -/
  | badEncoding (encoding : String)
deriving DecidableEq, Repr

/-- What a host is told; the failures of the host itself are not reported. -/
def Error.report? : Error → Option Report
  | missing name => some (.notFound ("Template file '" ++ name ++ "' does not exist."))
  | outside name => some (.notFound ("Template path '" ++ name ++ "' is outside the template root."))
  | unreadable name (.bytes fault) =>
    some (.notFound ("Template file '" ++ name ++ "' could not be read: " ++ fault.describe))
  | unreadable .. | badName _ | tooLong _ | circle _ | tooDeep _ | unknownEncoding _
  | badEncoding _ => none

/-- A function from names to texts. -/
structure Loader where
  load : String → Trace Error String

/-- The loader that serves texts by their exact names. -/
def Loader.ofEntries (entries : List (String × String)) : Loader where
  load name :=
    match entries.lookup name with
    | some text => pure text
    | none => throw (.missing name)

/-- A root in a tree, how far links are followed in it, and the encoding of the files
    below it. -/
structure Directory where
  tree : Tree
  root : Place
  /-- The most links that are followed inside each other. -/
  nestLimit : Nat
  /-- The name of the encoding. -/
  encoding : String := "utf-8"
deriving DecidableEq, Repr

/-- Whether a text holds the null character, which no system takes in a name. -/
def holdsNull (s : String) : Bool :=
  s.toList.contains '\x00'

namespace Directory

/-- Where a path leads from a place, on behalf of a name that is asked for. A
    circle that a system would not go round either, because the way is broken
    before, does no harm: what is taken as it is written is a place like any
    other. -/
def settle (d : Directory) (name : String) (here : Place) (path : PurePath) :
    Except Error Place :=
  let whole := segments path.text.toList
  let usable := whole.takeWhile fun segment => !holdsNull segment.name
  match d.tree.follow d.nestLimit [] (here.start path) usable with
  | .ok place => if usable.length < whole.length then .error (.badName name) else .ok place
  | .error .tooDeep => .error (.tooDeep name)
  | .error (.circle place) =>
    if place.any holdsNull then .error (.badName name)
    else if d.tree.lookUp place = .circle then .error (.circle name)
    else .ok place

/-- Where the root is, its own links followed. -/
def settleRoot (d : Directory) (name : String) : Except Error Place :=
  d.settle name [] ⟨1, d.root⟩

/-- Where a name leads, seen from the root. -/
def resolve (d : Directory) (name : String) : Except Error Place := do
  let root ← d.settleRoot name
  let place ← d.settle name root (.ofText name)
  if isWithin place root then return place else throw (.outside name)

/-- The text of the file that a name leads to. -/
def load (d : Directory) (name : String) : Trace Error String := do
  let place ← Trace.ofExcept (d.resolve name)
  match d.tree.lookUp place with
  | .directory | .nothing | .circle => throw (.missing name)
  | .tooLong => throw (.tooLong name)
  | .file bytes =>
    if holdsNull d.encoding then throw (.badEncoding d.encoding)
    match Text.Encoding.ofName? d.encoding with
    | none => throw (.unknownEncoding d.encoding)
    | some encoding =>
      match encoding.read bytes with
      | .error fault => throw (.unreadable name fault)
      | .ok text => do
        Logged.say 2 ("Loaded template " ++ place.text)
        return text

/-- The place of a name is the root or below it. -/
theorem isWithin_of_resolve {d : Directory} {name : String} {place : Place}
    (h : d.resolve name = .ok place) :
    ∃ root, d.settleRoot name = .ok root ∧ isWithin place root := by
  unfold resolve at h
  cases hroot : d.settleRoot name with
  | error e => simp [hroot, bind, Except.bind] at h
  | ok root =>
      refine ⟨root, rfl, ?_⟩
      simp only [hroot, bind, Except.bind, pure, Except.pure, throw, throwThe,
        MonadExceptOf.throw] at h
      -- The name has to lead somewhere, and to the root or below it.
      cases hplace : d.settle name root (.ofText name) with
      | error e => simp [hplace] at h
      | ok found =>
          by_cases hwithin : isWithin found root
          · simp only [hplace, hwithin, if_true, Except.ok.injEq] at h
            exact h ▸ hwithin
          · simp [hplace, hwithin] at h

end Directory

/-- The loader of the files below the root of a directory. -/
def Loader.ofDirectory (d : Directory) : Loader :=
  ⟨d.load⟩

end Stencil.Files
