import Stencil.Pattern.CharSet

/-!
# Cursors

Where in a text a match has come to, and what its groups cover so far.

A cursor holds the characters before it, the nearest first, and those after it.
Nothing is copied when a group is closed: its span is the text from where it
starts and the text from where it stops, and the characters between the two are
taken out only when they are asked for.

## Main definitions

* `Span`: What a group covers.
* `Cursor`: A place in a text, with spans.
* `Cursor.cover`, `Cursor.span?`: Keep what a group covers, and ask for it.
* `Cursor.again?`: Pass what a group covers once more.
* `Anchor`: What a place can be asked about.
* `Cursor.Reaches`: One cursor comes after another in the same text.

## Theorems

* `Cursor.Reaches.trans`: What is reached from there is reached from here.
* `Cursor.Reaches.before_append`: The characters between two cursors.
-/

namespace Stencil.Pattern

open Text (Extent)

/-- The part of a text that comes before an end of it. -/
def before (s rest : List Char) : List Char :=
  s.take (s.length - rest.length)

/-- What a group covers: the text from where it starts, and from where it stops. -/
structure Span where
  start : List Char
  stop : List Char
deriving DecidableEq, Repr

/-- The characters of a span. -/
def Span.text (span : Span) : List Char :=
  before span.start span.stop

/-- A place in a text, and what groups cover. -/
structure Cursor where
  /-- The characters before the place, the nearest first. -/
  past : List Char
  /-- The characters after the place. -/
  rest : List Char
  /-- The numbers of groups and what they cover, the latest first. -/
  spans : List (Nat × Span)
deriving DecidableEq, Repr

namespace Cursor

/-- The cursor before a text. -/
def start (s : List Char) : Cursor :=
  ⟨[], s, []⟩

/-- What a group covers, if it took part. -/
def span? (c : Cursor) (number : Nat) : Option Span :=
  c.spans.lookup number

/-- The cursor, with what lies between another one and it as what a group covers. -/
def cover (c : Cursor) (number : Nat) (opened : Cursor) : Cursor :=
  { c with spans := (number, ⟨opened.rest, c.rest⟩) :: c.spans }

/-- The cursor so many characters before, if there are so many. -/
def back? (c : Cursor) (count : Nat) : Option Cursor :=
  if count ≤ c.past.length then
    some { c with past := c.past.drop count, rest := (c.past.take count).reverse ++ c.rest }
  else none

/-- The cursor after the given characters, if they come next. With an extent they
    need only be the same up to case. -/
def after? (caseless : Option Extent) : (chars : List Char) → Cursor → Option Cursor
  | [], c => some c
  | d :: chars, ⟨past, e :: rest, spans⟩ =>
    let isSame := match caseless with
      | none => d == e
      | some extent => Text.lower extent d == Text.lower extent e
    if isSame then after? caseless chars ⟨e :: past, rest, spans⟩ else none
  | _ :: _, ⟨_, [], _⟩ => none

/-- The cursor after what a group covers, if it took part and that comes next. -/
def again? (c : Cursor) (number : Nat) (caseless : Option Extent) : Option Cursor :=
  (c.span? number).bind fun span => c.after? caseless span.text

/-- A cursor that looked at the text around it and found `seen`, which it is to
    find or not to find. What groups cover there stays. -/
def look (c : Cursor) (wanted : Bool) (seen : Option Cursor) : Option Cursor :=
  match wanted, seen with
  | true, some d => some { c with spans := d.spans }
  | false, none => some c
  | _, _ => none

end Cursor

/-- What a place can be asked about. -/
inductive Anchor where
  /-- The start of the text. -/
  | textStart
  /-- The end of the text. -/
  | textStop
  /-- The end of the text, or a line feed before it. -/
  | lastStop
  /-- The start of a line. -/
  | lineStart
  /-- The end of a line. -/
  | lineStop
  /-- The start or end of a word. -/
  | wordEdge (extent : Extent)
  /-- Neither the start nor the end of a word, in a text that is not empty. -/
  | noWordEdge (extent : Extent)
deriving DecidableEq, Repr

/-- Whether a word starts or stops between two characters. -/
def isWordEdge (extent : Extent) (one other : Option Char) : Bool :=
  one.any (Text.isWordChar extent) != other.any (Text.isWordChar extent)

/-- Whether the cursor stands where the anchor says. -/
def Anchor.holds (anchor : Anchor) (c : Cursor) : Bool :=
  match anchor with
  | textStart => c.past.isEmpty
  | textStop => c.rest.isEmpty
  | lastStop => c.rest.isEmpty || c.rest == ['\n']
  | lineStart => c.past.head?.all (· == '\n')
  | lineStop => c.rest.head?.all (· == '\n')
  | wordEdge extent => isWordEdge extent c.past.head? c.rest.head?
  | noWordEdge extent =>
    !(c.past.isEmpty && c.rest.isEmpty) && !isWordEdge extent c.past.head? c.rest.head?

/-- One cursor comes after another in the same text, or at the same place. -/
def Cursor.Reaches (c d : Cursor) : Prop :=
  ∃ t, c.rest = t ++ d.rest ∧ d.past = t.reverse ++ c.past

namespace Cursor

theorem Reaches.refl (c : Cursor) : c.Reaches c :=
  ⟨[], rfl, rfl⟩

/-- A cursor that has only other spans stands at the same place. -/
theorem Reaches.of_eq {c d : Cursor} (hrest : c.rest = d.rest) (hpast : d.past = c.past) :
    c.Reaches d :=
  ⟨[], hrest, hpast⟩

/-- What is reached from there is reached from here. -/
theorem Reaches.trans {c d e : Cursor} (h : c.Reaches d) (h' : d.Reaches e) : c.Reaches e := by
  obtain ⟨t, hrest, hpast⟩ := h
  obtain ⟨t', hrest', hpast'⟩ := h'
  exact ⟨t ++ t', by simp [hrest, hrest'], by simp [hpast, hpast']⟩

/-- The characters between two cursors, and those after the second. -/
theorem Reaches.before_append {c d : Cursor} (h : c.Reaches d) :
    before c.rest d.rest ++ d.rest = c.rest := by
  obtain ⟨t, hrest, _⟩ := h
  simp [before, hrest]

theorem Reaches.length_le {c d : Cursor} (h : c.Reaches d) : d.rest.length ≤ c.rest.length := by
  obtain ⟨t, hrest, _⟩ := h
  simp [hrest]

theorem reaches_of_after? {caseless : Option Extent} {chars : List Char} {c d : Cursor}
    (h : after? caseless chars c = some d) : c.Reaches d := by
  fun_induction after? caseless chars c with
  | case1 c => cases h; exact .refl _
  | case2 chars past rest spans d e _ _ ih =>
      exact Reaches.trans ⟨[_], rfl, rfl⟩ (ih h)
  | case3 => cases h
  | case4 => cases h

theorem reaches_of_again? {caseless : Option Extent} {number : Nat} {c d : Cursor}
    (h : c.again? number caseless = some d) : c.Reaches d := by
  obtain ⟨span, _, hspan⟩ := Option.bind_eq_some_iff.1 h
  exact reaches_of_after? hspan

theorem reaches_of_look {wanted : Bool} {seen : Option Cursor} {c d : Cursor}
    (h : c.look wanted seen = some d) : c.Reaches d := by
  unfold look at h
  split at h
  · cases h; exact .of_eq rfl rfl
  · cases h; exact .refl _
  · cases h

end Cursor

end Stencil.Pattern
