/-!
# Line Ends

Texts from other systems end their lines with a carriage return, or with one
and a line feed. Both become a single line feed, so that everything after
knows one line end only.

## Main definitions

* `unifyLineEnds`: The text with line feeds as its only line ends.

## Theorems

* `return_notMem_unifyLineEnds`: No carriage return is left.
* `unifyLineEnds_eq_self`: A text without carriage returns is left alone.
-/

namespace Stencil.Text

/-- Every carriage return, with the line feed after it if there is one, becomes
    a line feed. -/
def unifyLineEnds : List Char → List Char
  | '\r' :: '\n' :: s => '\n' :: unifyLineEnds s
  | c :: s => (if c = '\r' then '\n' else c) :: unifyLineEnds s
  | [] => []

/-- No carriage return is left. -/
theorem return_notMem_unifyLineEnds (s : List Char) : '\r' ∉ unifyLineEnds s := by
  fun_induction unifyLineEnds s with
  | case1 s ih => simp [ih]
  | case2 c s _ ih => split <;> simp_all [eq_comm]
  | case3 => simp

/-- A text without carriage returns is left alone. -/
theorem unifyLineEnds_eq_self {s : List Char} (h : '\r' ∉ s) : unifyLineEnds s = s := by
  fun_induction unifyLineEnds s with
  | case1 s ih => simp at h
  | case2 c s _ ih =>
      simp only [List.mem_cons, not_or] at h
      rw [if_neg (Ne.symm h.1), ih h.2]
  | case3 => rfl

end Stencil.Text
