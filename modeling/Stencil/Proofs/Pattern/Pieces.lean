import Mathlib.Data.List.Forall2
import Stencil.Pattern.Pieces
import Stencil.Proofs.Pattern.Covers

/-!
# What Patterns in a Row Cover

Plain patterns that follow each other, as lists of texts.

A lexer takes the first of the chains that the search finds. As with a single
pattern, neither the order of the search nor the cursors matter to the question
which texts can come out: each pattern covers its own piece, and the pieces
follow each other in the text. If anything can be taken apart like that, the
search finds a way, perhaps another one.

## Main definitions

* `CoverEach`: Patterns cover texts, one each.

## Theorems

* `coverEach_of_pieces?`: The pieces that are found are covered.
* `isSome_pieces?_of_coverEach`: Pieces are found where some are covered.
* `coverEach_cons_iff`: The first pattern covers the first text.
-/

namespace Stencil.Pattern

/-- Patterns cover texts, one each. What the groups of the patterns capture is left out. -/
def CoverEach (ps : List Pattern) (texts : List (List Char)) : Prop :=
  List.Forall₂ (fun p t => ∃ captured, Covers p t captured) ps texts

theorem coverEach_nil_iff {texts : List (List Char)} : CoverEach [] texts ↔ texts = [] :=
  List.forall₂_nil_left_iff

theorem coverEach_cons_iff {p : Pattern} {ps : List Pattern} {texts : List (List Char)} :
    CoverEach (p :: ps) texts ↔
      ∃ t rest, texts = t :: rest ∧ (∃ captured, p.Covers t captured) ∧ CoverEach ps rest := by
  rw [CoverEach, List.forall₂_cons_left_iff]
  constructor
  · rintro ⟨t, rest, hcovers, hrest, rfl⟩
    exact ⟨t, rest, rfl, hcovers, hrest⟩
  · rintro ⟨t, rest, rfl, hcovers, hrest⟩
    exact ⟨t, rest, hcovers, hrest, rfl⟩

/-- The texts between the cursors of a chain are covered, each by its own pattern. -/
theorem coverEach_cut {ps : List Pattern} (hplain : ∀ p ∈ ps, p.isPlain = true) {c : Cursor}
    {ds : List Cursor} (h : ds ∈ chains ps c) : CoverEach ps (cut c.rest ds) := by
  induction ps generalizing c ds with
  | nil =>
      rw [List.mem_singleton.1 h]
      exact .nil
  | cons p ps ih =>
      rw [List.forall_mem_cons] at hplain
      simp only [chains, List.mem_flatMap, List.mem_map] at h
      rcases h with ⟨d, hd, ds, hds, rfl⟩
      rcases exists_covers_of_mem_results hplain.1 hd with ⟨t, captured, hcovers, hrest, -⟩
      -- The piece before the first cursor is what the first pattern covers.
      have hpiece : before c.rest d.rest = t := by
        rw [hrest, before_append_self]
      rw [cut, hpiece]
      exact .cons ⟨captured, hcovers⟩ (ih hplain.2 hds)

/-- The pieces that are found are covered, and follow each other in the text. -/
theorem coverEach_of_pieces? {ps : List Pattern} (hplain : ∀ p ∈ ps, p.isPlain = true)
    {s : List Char} {texts : List (List Char)} (h : pieces? ps s = some texts) :
    CoverEach ps texts ∧ texts.flatten <+: s := by
  refine ⟨?_, (flatten_pieces h).1⟩
  rw [pieces?_eq_head?] at h
  rcases Option.map_eq_some_iff.1 h with ⟨ds, hds, rfl⟩
  exact coverEach_cut hplain (List.mem_of_mem_head? hds)

/-- Where patterns cover texts in a row, there is a chain. It need not cut the text at the same
    places, but there is one, and so the search finds one. -/
theorem chains_ne_nil_of_coverEach {ps : List Pattern} {texts : List (List Char)}
    (h : CoverEach ps texts) {c : Cursor} {rest : List Char} (hc : c.rest = texts.flatten ++ rest) :
    chains ps c ≠ [] := by
  induction h generalizing c with
  | nil => exact List.cons_ne_nil _ _
  | @cons p t ps texts hcovers h ih =>
      rcases hcovers with ⟨captured, hcovers⟩
      rw [List.flatten_cons, List.append_assoc] at hc
      rcases exists_mem_results_of_covers hcovers hc with ⟨d, hd, hrest, -⟩
      rcases List.exists_mem_of_ne_nil _ (ih hrest) with ⟨ds, hds⟩
      refine List.ne_nil_of_mem (a := d :: ds) ?_
      rw [chains]
      exact List.mem_flatMap.2 ⟨d, hd, List.mem_map.2 ⟨ds, hds, rfl⟩⟩

/-- Pieces are found where some are covered. -/
theorem isSome_pieces?_of_coverEach {ps : List Pattern} {texts : List (List Char)}
    (h : CoverEach ps texts) {s : List Char} (hs : texts.flatten <+: s) :
    (pieces? ps s).isSome = true := by
  rcases hs with ⟨rest, rfl⟩
  have hne := chains_ne_nil_of_coverEach h (c := .start (texts.flatten ++ rest)) rfl
  rw [pieces?_eq_head?, Option.isSome_map, List.isSome_head?]
  exact hne

end Stencil.Pattern
