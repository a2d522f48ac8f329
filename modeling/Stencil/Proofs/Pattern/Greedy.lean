import Stencil.Proofs.Pattern.Covers

/-!
# What Is Found First

The order in which a search tries its ways, for patterns that look at a text from
its start.

`Covers` says which texts can be covered at all. What groups capture may depend
on more than that: runs that follow each other can be cut at several places, and
it is the search that decides. A run is greedy, so it first takes all characters
of its class that come next. If what follows can be found behind them, the
search is over, and no shorter run is looked at; that is `first_run_of_longest`.
If not, the search tries shorter runs, and whatever it finds in the end is found
behind some run of the class; that is `exists_of_first_run`. The two lemmas are
one for each direction of what a pattern captures: the first follows the search
along its best way, and the second takes apart what some way has found.

## Main definitions

* `atStart?`: What the groups of the first fit at the start of a text capture.

## Theorems

* `atStart?_eq`: What is captured is what the search ends with.
* `first_run_of_longest`: The longest run is tried first.
* `exists_of_first_run`: What is found is found behind a run.
* `first_char_cons`, `exists_of_first_char`: The same for single characters.
* `first_optional`: What may be there is tried before it is left out.
* `isBlank_of_first_lastStop`: What is left at the end.
-/

namespace Stencil.Pattern

/-- What the groups of the first fit at the start of a text capture. -/
def atStart? (p : Pattern) (s : List Char) : Option (List (Option (List Char))) :=
  (p.fit? false (.start s)).map p.captures

/-- What is captured at the start of a text is what the search ends with. -/
theorem atStart?_eq (p : Pattern) (s : List Char) :
    p.atStart? s = p.first (.start s) fun d => some (p.captures d) := by
  rw [atStart?, fit?, first_eq_findSome?, first_eq_findSome?, List.map_findSome?]
  rfl

section Search

variable {α : Type} {next : Cursor → Option α} {found : α} {spans : List (Nat × Span)}

/-- A search through a run ends behind the longest one, if it can end there. Nothing shorter is
    tried then. -/
theorem first_run_of_longest {set : CharSet} {least : Nat} {c : Cursor} {t rest : List Char}
    (hc : c.rest = t ++ rest) (hset : ∀ x ∈ t, set.contains x = true) (hleast : least ≤ t.length)
    (hstop : ∀ x ∈ rest.head?, set.contains x = false)
    (hnext : next ⟨t.reverse ++ c.past, rest, c.spans⟩ = some found) :
    (run set least none).first c next = some found := by
  rcases c with ⟨past, _, spans⟩
  subst hc
  rw [first]
  induction t generalizing least past with
  | nil =>
      have hzero : least = 0 := by simpa using hleast
      cases rest with
      | nil => simpa [firstEnd, hzero] using hnext
      | cons x rest =>
          have hx : set.contains x = false := hstop x rfl
          simpa [firstEnd, hzero, hx] using hnext
  | cons x t ih =>
      rw [List.forall_mem_cons] at hset
      rw [List.length_cons] at hleast
      rw [List.reverse_cons, List.append_assoc] at hnext
      -- The run goes on with this character, and something is found behind it.
      have hfound := ih hset.2 (by omega : least - 1 ≤ t.length) (x :: past) hnext
      simp only at hfound ⊢
      rw [List.cons_append, firstEnd, if_pos (by simp [hset.1]), Option.map_none, hfound]
      rfl

/-- What a search through a run finds is found behind some run. -/
theorem exists_of_first_run {set : CharSet} {least : Nat} {most : Option Nat} {c : Cursor}
    (h : (run set least most).first c next = some found) :
    ∃ t d, c.rest = t ++ d.rest ∧ (∀ c ∈ t, set.contains c = true) ∧ least ≤ t.length ∧
      (∀ n ∈ most, t.length ≤ n) ∧ next d = some found := by
  rw [first_eq_findSome?] at h
  rcases List.exists_of_findSome?_eq_some h with ⟨d, hd, hnext⟩
  rcases exists_of_mem_runEnds hd with ⟨t, hrest, -, hset, hleast, hmost⟩
  exact ⟨t, d, hrest, hset, hleast, hmost, hnext⟩

/-- A search passes a character that comes next. -/
theorem first_char_cons (c : Char) (past rest : List Char) :
    (char c).first ⟨past, c :: rest, spans⟩ next = next ⟨c :: past, rest, spans⟩ := by
  have hc : (CharSet.single c).contains c = true := CharSet.contains_single.2 rfl
  cases rest <;> simp [char, one, first, firstEnd, hc]

/-- What a search through a character finds is found behind it. -/
theorem exists_of_first_char {x : Char} {c : Cursor} (h : (char x).first c next = some found) :
    ∃ d, c.rest = x :: d.rest ∧ next d = some found := by
  rcases exists_of_first_run h with ⟨t, d, hrest, hset, hleast, hmost, hnext⟩
  have hcovers := covers_char_iff.1 (.run hset hleast hmost)
  exact ⟨d, by rw [hrest, hcovers.1, List.singleton_append], hnext⟩

/-- What may be there is tried before it is left out. -/
theorem first_optional (p : Pattern) (c : Cursor) :
    (repeated p 0 (some 1) true).first c next = (p.first c next).or (next c) := by
  have hlimit : roundLimit 0 c = c.rest.length + 1 + 1 := by
    rw [roundLimit, Nat.zero_add]
  rw [first, hlimit]
  simp [firstRound]

/-- What is found at the end is found where at most a line feed is left. -/
theorem isBlank_of_first_lastStop {c : Cursor}
    (h : (anchor .lastStop).first c next = some found) : ∀ x ∈ c.rest, Text.isBlank x = true := by
  rw [first] at h
  split at h
  · rename_i hholds
    rw [Anchor.holds, Bool.or_eq_true, List.isEmpty_iff, beq_iff_eq] at hholds
    rcases hholds with hempty | hfeed
    · simp [hempty]
    · simp [hfeed, Text.isBlank_newline]
  · cases h

end Search

end Stencil.Pattern
