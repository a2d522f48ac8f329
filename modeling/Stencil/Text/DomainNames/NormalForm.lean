import Stencil.Text.DomainNames.Table
import Stencil.Text.Korean.Hangul

/-!
# The Normal Form of Marked Letters

A letter with marks can be spelled in several ways: some marks are part of the
letter, and marks of different places may come in any order. In the normal form
each letter was taken apart, its marks were put in the order of their places, and
then joined with it again as far as that goes.

A mark is joined with the letter before it, over other marks, unless one of these
has its place or a higher one. What is no mark is only joined with its neighbour.

## Main definitions

* `parts?`: A character taken apart.
* `composite?`: Two characters as one.
* `normalForm`: The normal form of a text.
-/

namespace Stencil.Text.DomainNames

/-- The place of a mark on its letter; zero for what is no mark. -/
def markClass (c : Char) : Nat :=
  match markClasses.find? fun entry => inRanges entry.2 c with
  | some (place, _) => place
  | none => 0

/-- The first of the letters that begin a syllable of Korean, and how many they are. -/
def initials : Nat × Nat := (0x1100, 19)

/-- The same for the vowels. -/
def medials : Nat × Nat := (0x1161, 21)

/-- The same for the letters that end a syllable. -/
def finals : Nat × Nat := (0x11A8, 27)

/-- The same for all syllables, which are in the order of their letters. -/
def syllables : Nat × Nat := (0xAC00, initials.2 * medials.2 * (finals.2 + 1))

/-- The place of a character in a run of characters. -/
def indexIn? (run : Nat × Nat) (c : Char) : Option Nat :=
  if run.1 ≤ c.toNat ∧ c.toNat < run.1 + run.2 then some (c.toNat - run.1) else none

/-- The two letters that begin a syllable of Korean as one, or a syllable without
    a final letter and a final letter. -/
def syllable? (before c : Char) : Option Char :=
  match indexIn? initials before, indexIn? medials c, indexIn? syllables before,
      indexIn? finals c with
  | some initial, some medial, _, _ => some (Hangul.syllable initial medial 0)
  | _, _, some n, some final =>
    if n % (finals.2 + 1) = 0 then some (Char.ofNat (syllables.1 + n + final + 1)) else none
  | _, _, _, _ => none

/-- A syllable of Korean in two. -/
def syllableParts? (c : Char) : Option (Char × Char) := do
  let n ← indexIn? syllables c
  let letters := n / (finals.2 + 1)
  match n % (finals.2 + 1) with
  | 0 => return (Char.ofNat (initials.1 + letters / medials.2),
      Char.ofNat (medials.1 + letters % medials.2))
  | final + 1 => return (Char.ofNat (c.toNat - (final + 1)), Char.ofNat (finals.1 + final))

/-- The pairs of a list of which each second element stands with the one before. -/
def inPairs : List Char → List (Char × Char)
  | before :: c :: s => (before, c) :: inPairs s
  | _ => []

/-- What a character is together with the one before it. -/
def composite? (before c : Char) : Option Char :=
  match composites.lookup c.toNat with
  | some pairs => (inPairs pairs.toList).lookup before
  | none => syllable? before c

/-- A character in two, of which it is the composite. -/
def parts? (c : Char) : Option (Char × Char) :=
  let ofEntry (entry : Nat × String) : Option (Char × Char) :=
    (inPairs entry.2.toList).findSome? fun (before, whole) =>
      if whole = c then some (before, Char.ofNat entry.1) else none
  if c.toNat < 0x80 then none else composites.findSome? ofEntry <|> syllableParts? c

/-- A text with each character taken in two that can be. -/
def split (s : List Char) : List Char :=
  s.flatMap fun c =>
    match parts? c with
    | some (before, last) => [before, last]
    | none => [c]

/-- The most marks that are part of one letter. -/
def maxMarks : Nat := 3

/-- A mark behind those in front of the text that have lower places. -/
def insertMark (c : Char) : List Char → List Char
  | [] => [c]
  | d :: s =>
    if markClass d != 0 && markClass d < markClass c then d :: insertMark c s else c :: d :: s

/-- A text with the marks on each letter in the order of their places. -/
def orderMarks (s : List Char) : List Char :=
  s.foldr insertMark []

/-- A text with its characters joined; `base` is the one that others are joined
    with, and `marks` those that were not, the last of them first. -/
def compose (base : Char) (marks : List Char) : List Char → List Char
  | [] => base :: marks.reverse
  | c :: s =>
    let isNear := marks.head?.all fun d => markClass d < markClass c
    match if isNear then composite? base c else none with
    | some whole => compose whole marks s
    | none =>
      if markClass c == 0 then base :: marks.reverse ++ compose c [] s
      else compose base (c :: marks) s

/-- The normal form of a text. -/
def normalForm (s : List Char) : List Char :=
  match orderMarks (Nat.repeat split maxMarks s) with
  | [] => []
  | c :: s => compose c [] s

end Stencil.Text.DomainNames
