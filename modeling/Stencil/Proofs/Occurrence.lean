import Mathlib.Data.List.Nodup

/-!
# First Occurrences

Lists in the order in which their elements first occur in another one.

A failure that names several things names each of them once, in the order in
which a reader comes to them. `eraseDups` keeps first occurrences, so what it
leaves is in that order, and stays so when some of it is left out. The order
and the members together decide a list: two lists that have the same members,
in the order of what each member is ranked by, are equal.

## Theorems

* `eq_of_pairwise_rank`: Members and order decide a list.
* `idxOf_lt_of_filter`: Leaving out others does not change which of two is first.
* `pairwise_idxOf_eraseDups`: Each once, in the order of first occurrence.
-/

namespace Stencil

variable {α : Type}

/-- Two lists with the same members, each once and in the order of their ranks, are equal. So a
    list is determined by its members where their order is given by something else. -/
theorem eq_of_pairwise_rank {rank : α → Nat} {one other : List α}
    (hone : one.Pairwise fun a b => rank a < rank b)
    (hother : other.Pairwise fun a b => rank a < rank b)
    (hmem : ∀ a, a ∈ one ↔ a ∈ other) : one = other := by
  have hnodup : ∀ {l : List α}, (l.Pairwise fun a b => rank a < rank b) → l.Nodup := by
    intro l hl
    refine hl.imp fun {a b} hab => ?_
    rintro rfl
    exact Nat.lt_irrefl _ hab
  -- They are permutations of each other, and the order leaves one permutation only.
  have hperm : one.Perm other := (List.perm_ext_iff_of_nodup (hnodup hone) (hnodup hother)).2 hmem
  refine hperm.eq_of_pairwise (fun a b _ _ hab hba => ?_) hone hother
  exact absurd hab (Nat.lt_asymm hba)

variable [BEq α] [LawfulBEq α]

/-- Leaving out other elements does not change which of two comes first. -/
theorem idxOf_lt_of_filter {l : List α} {keep : α → Bool} {a b : α}
    (ha : keep a = true) (hb : keep b = true)
    (h : (l.filter keep).idxOf a < (l.filter keep).idxOf b) : l.idxOf a < l.idxOf b := by
  induction l with
  | nil => simp at h
  | cons c l ih =>
      rw [List.idxOf_cons, List.idxOf_cons]
      by_cases hc : keep c = true
      · rw [List.filter_cons_of_pos hc, List.idxOf_cons, List.idxOf_cons] at h
        by_cases hca : (c == a) = true
        · by_cases hcb : (c == b) = true
          · simp [hcb] at h
          · simp [hca, hcb]
        · by_cases hcb : (c == b) = true
          · simp [hcb] at h
          · simp only [hca, hcb, cond_false, Nat.add_lt_add_iff_right] at h ⊢
            exact ih h
      · rw [List.filter_cons_of_neg hc] at h
        -- The element that is left out is neither of the two.
        have hca : (c == a) = false := by
          rw [beq_eq_false_iff_ne]
          rintro rfl
          exact hc ha
        have hcb : (c == b) = false := by
          rw [beq_eq_false_iff_ne]
          rintro rfl
          exact hc hb
        simp only [hca, hcb, cond_false, Nat.add_lt_add_iff_right]
        exact ih h

/-- Each once, in the order of first occurrence. -/
theorem pairwise_idxOf_eraseDups (l : List α) :
    l.eraseDups.Pairwise fun a b => l.idxOf a < l.idxOf b := by
  induction hn : l.length using Nat.strongRecOn generalizing l with
  | _ n ih =>
    cases l with
    | nil => exact List.Pairwise.nil
    | cons c l =>
        -- What is left after the first element and all others like it is shorter, but no tail of
        -- the list.
        have hshort : (l.filter fun b => !b == c).length < n := by
          rw [← hn, List.length_cons]
          exact Nat.lt_succ_of_le (List.length_filter_le ..)
        have hother : ∀ b ∈ (l.filter fun b => !b == c).eraseDups, (!b == c) = true :=
          fun b hb => (List.mem_filter.1 (List.mem_eraseDups.1 hb)).2
        -- All that is left differs from the first element, so it comes one place later.
        have hcons : ∀ b ∈ (l.filter fun b => !b == c).eraseDups,
            (c :: l).idxOf b = l.idxOf b + 1 := by
          intro b hb
          have hne : (c == b) = false := by
            have hbc := hother b hb
            rw [beq_eq_false_iff_ne]
            rintro rfl
            simp at hbc
          rw [List.idxOf_cons, hne, cond_false]
        rw [List.eraseDups_cons, List.pairwise_cons]
        constructor
        · intro b hb
          rw [hcons b hb, List.idxOf_cons_self]
          exact Nat.succ_pos _
        · refine (ih _ hshort _ rfl).imp_of_mem fun {a b} ha hb hab => ?_
          rw [hcons a ha, hcons b hb]
          exact Nat.succ_lt_succ (idxOf_lt_of_filter (hother a ha) (hother b hb) hab)

end Stencil
