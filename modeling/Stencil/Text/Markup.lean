/-!
# Markup

Texts in marked-up output, and the tags around them.

A text that goes into output is escaped, so that no character of it is taken for part
of a tag: angle brackets and the ampersand are replaced by entities, and so are the
quotes that end the value of an attribute. Whoever reads the output replaces the
entities by their characters again.

Tags are written by this library only. What stands in them is written as it is, so a
text that goes into the value of an attribute has to be escaped before.

## Main definitions

* `entities`: The characters that are replaced, and their entities.
* `replaced`: What stands for a character.
* `escape`: A text without special characters, shown as the given one.
* `unescape`: The text that a text with entities shows.
* `Tag`: The name and the attributes of an element.
* `Tag.around`: An element around a text.

## Theorems

* `escape_safe`: An escaped text holds no special character.
* `unescape_escape`: Entities are read back.
-/

namespace Stencil.Text

/-! ## Entities -/

/-- The characters that are replaced, each with the entity that stands for it. -/
def entities : List (Char × List Char) :=
  [('&', "&amp;".toList), ('<', "&lt;".toList), ('>', "&gt;".toList), ('"', "&quot;".toList),
    ('\'', "&#x27;".toList)]

/-- What stands for a character where the given ones are replaced. -/
def replaced (entities : List (Char × List Char)) (c : Char) : List Char :=
  (entities.lookup c).getD [c]

/-- The text with its special characters replaced by entities. -/
def escape (s : List Char) : List Char :=
  s.flatMap (replaced entities)

/-- The text with the five entities replaced by their characters, each once
    and from left to right. -/
def unescape : List Char → List Char
  | '&' :: 'a' :: 'm' :: 'p' :: ';' :: s => '&' :: unescape s
  | '&' :: 'l' :: 't' :: ';' :: s => '<' :: unescape s
  | '&' :: 'g' :: 't' :: ';' :: s => '>' :: unescape s
  | '&' :: 'q' :: 'u' :: 'o' :: 't' :: ';' :: s => '"' :: unescape s
  | '&' :: '#' :: 'x' :: '2' :: '7' :: ';' :: s => '\'' :: unescape s
  | c :: s => c :: unescape s
  | [] => []

/-- A character is replaced by its entity, or stays as it is if it has none. -/
theorem replaced_cases (entities : List (Char × List Char)) (c : Char) :
    (c, replaced entities c) ∈ entities ∨
      replaced entities c = [c] ∧ c ∉ entities.map Prod.fst := by
  unfold replaced
  cases hlookup : entities.lookup c with
  | some e =>
      obtain ⟨before, after, heq, -⟩ := List.lookup_eq_some_iff.1 hlookup
      exact .inl (by rw [heq]; simp)
  | none =>
      refine .inr ⟨rfl, fun hmem => ?_⟩
      obtain ⟨entry, hentry, rfl⟩ := List.mem_map.1 hmem
      simpa using List.lookup_eq_none_iff.1 hlookup entry hentry

/-- An escaped text holds no angle bracket and no quote. -/
theorem escape_safe {s : List Char} {c : Char} (h : c ∈ escape s) :
    c ≠ '<' ∧ c ≠ '>' ∧ c ≠ '"' ∧ c ≠ '\'' := by
  obtain ⟨d, -, hd⟩ := List.mem_flatMap.1 h
  rcases replaced_cases entities d with hentity | ⟨hself, hplain⟩
  · have hsafe : ∀ entry ∈ entities, ∀ c ∈ entry.2, c ≠ '<' ∧ c ≠ '>' ∧ c ≠ '"' ∧ c ≠ '\'' := by
      simp [entities]
    exact hsafe _ hentity c hd
  · rw [hself, List.mem_singleton] at hd
    subst hd
    simp only [entities, List.map_cons, List.map_nil, List.mem_cons, List.not_mem_nil, or_false,
      not_or] at hplain
    exact hplain.2

/-- A character that is no ampersand is read as itself. -/
theorem unescape_cons {c : Char} (h : c ≠ '&') (s : List Char) :
    unescape (c :: s) = c :: unescape s := by
  rw [unescape] <;> simp_all

/-- What stands for a character is read as the character, whatever comes after it. -/
theorem unescape_replaced (c : Char) (s : List Char) :
    unescape (replaced entities c ++ s) = c :: unescape s := by
  rcases replaced_cases entities c with hentity | ⟨hself, hplain⟩
  · generalize replaced entities c = e at hentity
    simp only [entities, List.mem_cons, List.not_mem_nil, or_false, Prod.mk.injEq] at hentity
    rcases hentity with ⟨rfl, rfl⟩ | ⟨rfl, rfl⟩ | ⟨rfl, rfl⟩ | ⟨rfl, rfl⟩ | ⟨rfl, rfl⟩
    all_goals simp [unescape]
  · rw [hself]
    refine unescape_cons ?_ s
    rintro rfl
    exact hplain (by decide)

/-- Entities are read back. -/
theorem unescape_escape (s : List Char) : unescape (escape s) = s := by
  induction s with
  | nil => simp [escape, unescape]
  | cons c s ih => rw [escape, List.flatMap_cons, unescape_replaced, ← escape, ih]

/-- A text with its special characters replaced. -/
def escapeText (s : String) : String :=
  .ofList (escape s.toList)

/-! ## Tags -/

/-- The name and the attributes of an element. -/
structure Tag where
  name : String
  attributes : List (String × String)
deriving DecidableEq, Repr

namespace Tag

/-- The tag as it is written between the angle brackets. -/
def written (t : Tag) : List Char :=
  t.name.toList ++ t.attributes.flatMap fun a =>
    ' ' :: (a.1.toList ++ '=' :: '"' :: (a.2.toList ++ ['"']))

/-- What opens the element. -/
def opening (t : Tag) : List Char :=
  '<' :: (t.written ++ ['>'])

/-- What closes the element. -/
def closing (t : Tag) : List Char :=
  '<' :: '/' :: (t.name.toList ++ ['>'])

/-- An element around a text. -/
def around (t : Tag) (content : String) : String :=
  .ofList (t.opening ++ content.toList ++ t.closing)

/-- A block of a style class. -/
def div (styleClass : String) : Tag :=
  ⟨"div", [("class", styleClass)]⟩

theorem toList_around (t : Tag) (content : String) :
    (t.around content).toList = t.opening ++ content.toList ++ t.closing :=
  String.toList_ofList

end Tag

end Stencil.Text
