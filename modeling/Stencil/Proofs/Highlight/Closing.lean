import Stencil.Proofs.Highlight.FenceRule

/-!
# Lines That Close a Fence

What `closing?` and `content?` look for, without the cutting.

A line closes a fence of a number of backticks if it is just that many, with spaces
and tabs around them. The content of a fence is the lines up to the first that closes
it. Here both are said of the lines as a whole: how a line is cut, and which of
several lines is the one, is then a matter of what it is made of.

## Main definitions

* `Closes`: A run of backticks alone on a line.

## Theorems

* `closing?_eq`: A line is cut behind its indent and its run.
* `closing?_eq_some_iff`, `closing?_eq_none_iff_not_closes`: Which lines close a fence.
* `content?_eq_some_iff`, `content?_eq_none_iff`: Which lines are content.
-/

namespace Stencil.Highlight

/-- A line that is a run of so many backticks, up to spaces and tabs around it. A longer run does
    not close the fence. -/
def Closes (count : Nat) (line : List Char) : Prop :=
  ∃ lead trail, line = lead ++ (List.replicate count '\x60' ++ trail) ∧
    (∀ c ∈ lead, isIndent c = true) ∧ ∀ c ∈ trail, isIndent c = true

section Closing

variable {count : Nat} {line lead trail : List Char}

/-- A line is cut behind its indent and the run. -/
theorem closing?_eq (count : Nat) (line : List Char) :
    closing? count line =
      if List.replicate count '\x60' <+: line.dropWhile isIndent ∧
          ((line.dropWhile isIndent).drop count).all isIndent = true then
        some (line.takeWhile isIndent, (line.dropWhile isIndent).drop count)
      else none := by
  have hrun : List.replicate count '\x60' <+: line.dropWhile isIndent ↔
      ((line.dropWhile isIndent).take count).length = count ∧
        ((line.dropWhile isIndent).take count).all Block.isFenceChar = true := by
    rw [List.prefix_iff_eq_take, List.length_replicate]
    constructor
    · intro h
      rw [← h]
      simp [Block.isFenceChar]
    · rintro ⟨hlength, hall⟩
      rw [eq_replicate_of_isFenceChar (List.all_eq_true.1 hall), hlength]
  unfold closing?
  simp only [Bool.and_eq_true, decide_eq_true_eq, ← hrun]

/-- A line closes a fence where it can be cut into blanks, the run and blanks. It can be cut in
    one way only, because the run is not empty and has no blanks. -/
theorem closing?_eq_some_iff (hcount : 0 < count) :
    closing? count line = some (lead, trail) ↔
      line = lead ++ (List.replicate count '\x60' ++ trail) ∧
        (∀ c ∈ lead, isIndent c = true) ∧ ∀ c ∈ trail, isIndent c = true := by
  constructor
  · intro h
    have hline := eq_of_closing? h
    rw [closing?_eq] at h
    split at h
    · rename_i hcond
      rw [Option.some.injEq, Prod.mk.injEq] at h
      rcases h with ⟨rfl, rfl⟩
      rw [List.append_assoc] at hline
      exact ⟨hline, fun c hc => List.mem_takeWhile_imp hc, List.all_eq_true.1 hcond.2⟩
    · cases h
  · rintro ⟨rfl, hlead, htrail⟩
    -- The run is not empty, so the indent stops where it starts.
    have hstop : ∀ c ∈ (List.replicate count '\x60' ++ trail).head?, isIndent c = false := by
      intro c hc
      rw [List.head?_append, List.head?_replicate, if_neg (by omega)] at hc
      obtain rfl : '\x60' = c := Option.some.inj hc
      rfl
    have htake : (lead ++ (List.replicate count '\x60' ++ trail)).takeWhile isIndent = lead := by
      rw [Text.takeWhile_append_of_stop hstop, List.takeWhile_eq_self_iff.2 hlead]
    have hdrop : (lead ++ (List.replicate count '\x60' ++ trail)).dropWhile isIndent =
        List.replicate count '\x60' ++ trail := by
      rw [Text.dropWhile_append_of_stop hstop, List.dropWhile_eq_nil_iff.2 hlead, List.nil_append]
    have hrest : (List.replicate count '\x60' ++ trail).drop count = trail :=
      List.drop_left' List.length_replicate
    rw [closing?_eq, htake, hdrop, hrest,
      if_pos ⟨List.prefix_append _ _, List.all_eq_true.2 htrail⟩]

theorem closing?_eq_none_iff_not_closes (hcount : 0 < count) :
    closing? count line = none ↔ ¬ Closes count line := by
  rw [← Option.not_isSome_iff_eq_none, not_iff_not, Option.isSome_iff_exists]
  constructor
  · rintro ⟨⟨lead, trail⟩, h⟩
    exact ⟨lead, trail, (closing?_eq_some_iff hcount).1 h⟩
  · rintro ⟨lead, trail, h⟩
    exact ⟨(lead, trail), (closing?_eq_some_iff hcount).2 h⟩

/-- The content of a fence are the lines before the first that closes it, each with its
    line feed. -/
theorem content?_eq_some_iff {lines : List (List Char)} {content : List Char} :
    content? count lines = some (content, lead, trail) ↔
      ∃ inside line behind, lines = inside ++ line :: behind ∧ content = endedLines inside ∧
        closing? count line = some (lead, trail) ∧ ∀ l ∈ inside, closing? count l = none := by
  induction lines generalizing content with
  | nil => simp [content?]
  | cons line lines ih =>
      unfold content?
      cases hclosing : closing? count line with
      | some ends =>
          constructor
          · intro h
            rw [Option.some.injEq, Prod.mk.injEq] at h
            rcases h with ⟨rfl, hends⟩
            exact ⟨[], line, lines, rfl, rfl, hclosing.trans (congrArg some hends), by simp⟩
          · -- Any cut into lines that do not close and one that does is at the same line.
            rintro ⟨inside, closer, behind, hlines, rfl, hcloser, hinside⟩
            cases inside with
            | nil =>
                obtain ⟨rfl, -⟩ := List.cons.inj hlines
                rw [hclosing, Option.some.injEq] at hcloser
                rw [hcloser]
                rfl
            | cons l inside =>
                obtain ⟨rfl, -⟩ := List.cons.inj hlines
                rw [hinside line List.mem_cons_self] at hclosing
                cases hclosing
      | none =>
          constructor
          · intro h
            rcases Option.map_eq_some_iff.1 h with ⟨⟨below, ends⟩, hbelow, heq⟩
            rw [Prod.mk.injEq] at heq
            rcases heq with ⟨rfl, rfl⟩
            rcases ih.1 hbelow with ⟨inside, closer, behind, rfl, rfl, hcloser, hinside⟩
            refine ⟨line :: inside, closer, behind, rfl, ?_, hcloser, ?_⟩
            · rw [endedLines_cons]
            · rw [List.forall_mem_cons]
              exact ⟨hclosing, hinside⟩
          · rintro ⟨inside, closer, behind, hlines, rfl, hcloser, hinside⟩
            cases inside with
            | nil =>
                obtain ⟨rfl, -⟩ := List.cons.inj hlines
                rw [hclosing] at hcloser
                cases hcloser
            | cons l inside =>
                obtain ⟨rfl, rfl⟩ := List.cons.inj hlines
                rw [List.forall_mem_cons] at hinside
                rw [ih.2 ⟨inside, closer, behind, rfl, rfl, hcloser, hinside.2⟩, endedLines_cons]
                rfl

/-- There is no content where no line closes the fence. -/
theorem content?_eq_none_iff {lines : List (List Char)} :
    content? count lines = none ↔ ∀ l ∈ lines, closing? count l = none := by
  induction lines with
  | nil => simp [content?]
  | cons line lines ih =>
      unfold content?
      rw [List.forall_mem_cons]
      cases hclosing : closing? count line with
      | some ends => simp
      | none => simp [ih]

end Closing

end Stencil.Highlight
