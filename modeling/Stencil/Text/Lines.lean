import Stencil.Text.Blank

/-!
# Lines

A text as a list of lines, and back.

Only the line feed ends a line, and it stands between lines, not after each:
a text with `n` line feeds has `n + 1` lines, the empty text has one empty
line, and joining the lines of a text gives the text.

## Main definitions

* `lines`: The lines of a text.
* `unlines`: The text with the given lines.

## Theorems

* `unlines_lines`: Joining the lines of a text gives the text.
* `lines_unlines`: Joined lines are read back.
* `newline_notMem_of_mem_lines`: A line holds no line feed.
-/

namespace Stencil.Text

/-- The lines of a text. -/
def lines (s : String) : List String :=
  (s.toList.splitOn '\n').map .ofList

/-- The text with the given lines. -/
def unlines (ls : List String) : String :=
  "\n".intercalate ls

theorem lines_ne_nil (s : String) : lines s ≠ [] := by
  simp [lines, List.splitOn_ne_nil]

/-- The characters of joined lines. -/
theorem toList_unlines (ls : List String) :
    (unlines ls).toList = ['\n'].intercalate (ls.map String.toList) := by
  simp [unlines, String.toList_intercalate]

/-- The lines of a text as characters. -/
theorem map_toList_lines (s : String) : (lines s).map String.toList = s.toList.splitOn '\n' := by
  simp [lines, Function.comp_def]

/-- Joining the lines of a text gives the text. -/
theorem unlines_lines (s : String) : unlines (lines s) = s := by
  apply String.toList_inj.1
  rw [toList_unlines, map_toList_lines, List.intercalate_splitOn]

/-- Joined lines are read back, if there is a line and no line holds a line feed. -/
theorem lines_unlines {ls : List String} (hne : ls ≠ []) (h : ∀ l ∈ ls, '\n' ∉ l.toList) :
    lines (unlines ls) = ls := by
  rw [lines, toList_unlines, List.splitOn_intercalate _ (by simpa using h) (by simpa using hne)]
  simp [Function.comp_def]

theorem notMem_of_mem_splitOn {α : Type} [BEq α] [LawfulBEq α] {a : α} {s l : List α}
    (h : l ∈ s.splitOn a) : a ∉ l := by
  induction s generalizing l with
  | nil => simp_all [List.splitOn_nil]
  | cons c s ih =>
      rw [List.splitOn_cons_eq_if_modifyHead] at h
      split at h
      · rcases List.mem_cons.1 h with rfl | h
        · simp
        · exact ih h
      · -- The character goes to the front of the first part.
        rename_i hc
        cases hs : s.splitOn a with
        | nil => simp [hs] at h
        | cons m ms =>
            rw [hs] at h ih
            rcases List.mem_cons.1 h with rfl | h
            · simp only [List.mem_cons, not_or]
              exact ⟨fun he => hc (beq_iff_eq.2 he.symm), ih (List.mem_cons_self ..)⟩
            · exact ih (List.mem_cons_of_mem _ h)

/-- A line holds no line feed. -/
theorem newline_notMem_of_mem_lines {s l : String} (h : l ∈ lines s) : '\n' ∉ l.toList := by
  apply notMem_of_mem_splitOn (s := s.toList)
  rw [← map_toList_lines]
  exact List.mem_map_of_mem h

end Stencil.Text
