import Stencil.Pattern.Basic

/-!
# Pieces of a Text

Patterns that follow each other take a text apart: each covers a piece of it.
This is how lexers use patterns.

The first fit of the patterns as a sequence decides where the pieces end. No
groups are needed for that: the cursor after each pattern is kept.

## Main definitions

* `Pattern.chains`: The fits of patterns that follow each other, with the cursors
  between them.
* `Pattern.firstChain`: The first of them that a continuation accepts.
* `Pattern.pieces?`: What each of the patterns covers.

## Theorems

* `Pattern.firstChain_eq_findSome?`: The search finds the first acceptable chain.
* `Pattern.flatten_pieces`: The pieces are what the text starts with.
-/

namespace Stencil.Pattern

/-- The fits of patterns that follow each other, in order of preference: the
    cursors after each of them. -/
def chains : List Pattern → Cursor → List (List Cursor)
  | [], _ => [[]]
  | p :: ps, c => (p.results c).flatMap fun d => (chains ps d).map (d :: ·)

/-- The first chain, in order of preference, that the continuation accepts. -/
def firstChain {α : Type} : List Pattern → Cursor → (List Cursor → Option α) → Option α
  | [], _, next => next []
  | p :: ps, c, next => p.first c fun d => firstChain ps d fun ds => next (d :: ds)

/-- The pieces of a text that end at the given cursors. -/
def cut (s : List Char) : List Cursor → List (List Char)
  | [] => []
  | d :: ds => before s d.rest :: cut d.rest ds

/-- What each of the patterns covers at the start of a text. -/
def pieces? (ps : List Pattern) (s : List Char) : Option (List (List Char)) :=
  firstChain ps (.start s) fun ds => some (cut s ds)

/-- The search finds the first acceptable chain. -/
theorem firstChain_eq_findSome? {α : Type} (ps : List Pattern) (c : Cursor)
    (next : List Cursor → Option α) :
    firstChain ps c next = (chains ps c).findSome? next := by
  induction ps generalizing c next with
  | nil => simp [firstChain, chains]
  | cons p ps ih =>
      simp only [firstChain, chains, ih, first_eq_findSome?, findSome?_flatMap,
        List.findSome?_map, Function.comp_def]

/-- What is taken apart is the first chain. -/
theorem pieces?_eq_head? (ps : List Pattern) (s : List Char) :
    pieces? ps s = (chains ps (.start s)).head?.map (cut s) := by
  rw [pieces?, firstChain_eq_findSome?]
  cases chains ps (.start s) <;> rfl

/-- The pieces that a chain ends are what the text starts with. -/
theorem flatten_cut {ps : List Pattern} {c : Cursor} {ds : List Cursor} (h : ds ∈ chains ps c) :
    (cut c.rest ds).flatten <+: c.rest ∧ (cut c.rest ds).length = ps.length := by
  induction ps generalizing c ds with
  | nil =>
      rw [List.mem_singleton.1 h]
      simp [cut]
  | cons p ps ih =>
      simp only [chains, List.mem_flatMap, List.mem_map] at h
      obtain ⟨d, hd, ds, hds, rfl⟩ := h
      obtain ⟨⟨t, ht⟩, hlen⟩ := ih hds
      refine ⟨⟨t, ?_⟩, by simp [cut, hlen]⟩
      simp [cut, ht, (reaches_of_mem_results hd).before_append]

/-- The pieces are what the text starts with, one for each pattern. -/
theorem flatten_pieces {ps : List Pattern} {s : List Char} {pieces : List (List Char)}
    (h : pieces? ps s = some pieces) : pieces.flatten <+: s ∧ pieces.length = ps.length := by
  rw [pieces?_eq_head?] at h
  obtain ⟨ds, hds, rfl⟩ := Option.map_eq_some_iff.1 h
  exact flatten_cut (List.mem_of_mem_head? hds)

end Stencil.Pattern
