import Stencil.Text.CaseMates

/-!
# Classes of Characters

What a single character of a text is compared with.

A class has members: ranges of characters, and kinds of them such as digits or
what is no digit. It holds its members, or all other characters. Where case does
not count, a character belongs to a range as soon as one that differs from it in
case only does.

## Main definitions

* `CharKind`: Blanks, digits and the characters of words.
* `CharSet.Member`: A part of a class.
* `CharSet`: A class of characters.
* `CharSet.contains`: Whether a character belongs to a class.

## Theorems

* `CharSet.contains_single`, `CharSet.contains_blanks`: What simple classes hold.
-/

namespace Stencil

open Text (Extent)

/-- A kind of characters. -/
inductive CharKind where
  | blank | digit | word
deriving DecidableEq, Repr

/-- Whether a character is of a kind. -/
def CharKind.contains (kind : CharKind) (extent : Extent) (c : Char) : Bool :=
  match kind, extent with
  | blank, .all => Text.isBlank c
  | blank, .ascii => c == ' ' || ('\t' ≤ c && c ≤ '\r')
  | digit, .all => Text.isDecimalDigit c
  | digit, .ascii => c.isDigit
  | word, extent => Text.isWordChar extent c

/-- A part of a class of characters. -/
inductive CharSet.Member where
  /-- The characters from the first to the second. -/
  | range (first last : Char)
  /-- The characters that are of a kind, or those that are not. -/
  | kind (kind : CharKind) (extent : Extent) (negated : Bool)
deriving DecidableEq, Repr

/-- A class of characters: those of its members, or all others. -/
structure CharSet where
  negated : Bool
  members : List CharSet.Member
  /-- Where case does not count, which letters have one. -/
  caseless : Option Extent
deriving DecidableEq, Repr

namespace CharSet

/-- Whether a character belongs to the member. -/
def Member.contains (caseless : Option Extent) : Member → Char → Bool
  | range first last, c =>
    match caseless with
    | none => first ≤ c && c ≤ last
    | some extent => (Text.caseMates extent c).any fun d => first ≤ d && d ≤ last
  | kind k extent negated, c => k.contains extent c != negated

/-- The class of some members. -/
def of (members : List Member) : CharSet :=
  ⟨false, members, none⟩

/-- The class of all but some members. -/
def allBut (members : List Member) : CharSet :=
  ⟨true, members, none⟩

/-- Whether a character belongs to the class. -/
def contains (set : CharSet) (c : Char) : Bool :=
  set.members.any (·.contains set.caseless c) != set.negated

/-- The member with a single character. -/
def Member.char (c : Char) : Member :=
  range c c

/-- The class of a single character. -/
def single (c : Char) : CharSet :=
  of [.char c]

/-- The class of white space. -/
def blanks : CharSet :=
  of [.kind .blank .all false]

theorem contains_single {c d : Char} : (single c).contains d ↔ d = c := by
  simp only [single, of, contains, Member.char, Member.contains, List.any_cons,
    List.any_nil, Bool.or_false, bne_iff_ne, ne_eq, Bool.not_eq_false, Bool.and_eq_true,
    decide_eq_true_eq]
  exact ⟨fun h => Char.le_antisymm h.2 h.1, fun h => h ▸ ⟨Char.le_refl _, Char.le_refl _⟩⟩

@[simp] theorem contains_blanks (c : Char) : blanks.contains c = Text.isBlank c := by
  simp [blanks, of, contains, Member.contains, CharKind.contains]

end CharSet

end Stencil
