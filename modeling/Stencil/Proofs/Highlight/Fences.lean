import Stencil.Proofs.Block.Outline

/-!
# Fences for Display

Which keys of a codeblock are displayed as keys, told by its lines.

For display, fences are read by rules of their own. A line that starts with
backticks opens one if a later line repeats a run of them, as many as possible
but three at least, and whatever else stands on the line is the label of the
fence. The outline of a codeblock is stricter with the line that opens a fence:
it takes all backticks as its run, and has no label but a single word. So a line
with a longer label is plain text there, and so are the lines that a display
takes for its content. In all other cases the two agree, because both let a fence
end at the first line that is its run: `Settled` describes the lines where they do,
and `shownKeys_eq` that they do.

## Main definitions

* `ticks`, `behind?`: A run of backticks, and the lines behind the line that is this run.
* `skip?`: The lines behind the fence that a line opens.
* `shownKeys`: The keys that are displayed.
* `Settled`: No line looks like the start of a fence without being one.

## Theorems

* `skip?_of_fenceRun`: A line that opens a fence of the outline opens it for display.
* `exists_skip?_of_closed`: What is displayed as a fence then is that fence.
* `shownKeys_eq`: Where lines are settled, the keys displayed are those declared.
* `shownKeys_trim`: Empty lines at both ends make no difference.
-/

namespace Stencil.Highlight

open Block (Fence Role isFenceChar fenceRun? declaredKeys roles)

/-- A run of so many backticks. -/
def ticks (count : Nat) : String :=
  .ofList (List.replicate count '\x60')

/-- The lines behind the first that is the given run. -/
def behind? (run : String) : List String → Option (List String)
  | [] => none
  | line :: lines => if line = run then some lines else behind? run lines

/-- How many backticks a line starts with. -/
def tickCount (line : String) : Nat :=
  (line.toList.takeWhile isFenceChar).length

/-- The numbers of backticks that may open a fence, of those that are there. The greatest is tried
    first. -/
def tickCounts (most : Nat) : List Nat :=
  ((List.range (most + 1)).filter (3 ≤ ·)).reverse

/-- The lines behind the fence that a line opens for display. A line that starts with three
    backticks or more opens one whenever a later line is three of them or more and nothing else,
    whatever else is on the line itself. -/
def skip? (line : String) (later : List String) : Option (List String) :=
  (tickCounts (tickCount line)).findSome? fun count => behind? (ticks count) later

theorem length_behind?_le {run : String} {lines rest : List String}
    (h : behind? run lines = some rest) : rest.length ≤ lines.length := by
  induction lines with
  | nil => cases h
  | cons line lines ih =>
      rw [behind?] at h
      rw [List.length_cons]
      split at h
      · rw [← Option.some.inj h]
        omega
      · have hle := ih h
        omega

theorem length_skip?_le {line : String} {later rest : List String}
    (h : skip? line later = some rest) : rest.length ≤ later.length := by
  rcases List.exists_of_findSome?_eq_some h with ⟨count, -, hbehind⟩
  exact length_behind?_le hbehind

/-- The keys that are displayed: declarations, but not in what is displayed as a fence. A fence
    without an end is no fence on display, and its lines are read like any others. -/
def shownKeys : List String → List String
  | [] => []
  | line :: later =>
    match _hskip : skip? line later with
    | some rest => shownKeys rest
    | none => (Role.of none line).key?.toList ++ shownKeys later
termination_by lines => lines.length
decreasing_by
  · have hle := length_skip?_le _hskip
    rw [List.length_cons]
    omega
  · rw [List.length_cons]
    omega

/-- Lines among which none looks like the start of a fence without being one: outside of
    fences, a line that starts with backticks and opens no fence is not followed by a
    line that is a run of three or more of them. -/
def Settled (lines : List String) : Prop :=
  ∀ before line after, lines = before ++ line :: after → Fence.scan none before = none →
    fenceRun? line.toList = none → ∀ count, 3 ≤ count → count ≤ tickCount line → ticks count ∉ after

/-! ## One line -/

theorem shownKeys_cons_of_skip {line : String} {later rest : List String}
    (h : skip? line later = some rest) : shownKeys (line :: later) = shownKeys rest := by
  rw [shownKeys]
  split
  · rename_i found hfound
    rw [h] at hfound
    rw [Option.some.inj hfound]
  · rename_i hnone
    rw [h] at hnone
    cases hnone

theorem shownKeys_cons_of_not_skip {line : String} {later : List String}
    (h : skip? line later = none) :
    shownKeys (line :: later) = (Role.of none line).key?.toList ++ shownKeys later := by
  rw [shownKeys]
  split
  · rename_i hsome
    rw [h] at hsome
    cases hsome
  · rfl

theorem mem_tickCounts_iff {count most : Nat} :
    count ∈ tickCounts most ↔ 3 ≤ count ∧ count ≤ most := by
  simp only [tickCounts, List.mem_reverse, List.mem_filter, List.mem_range, decide_eq_true_eq]
  omega

/-- All backticks that are there are tried first. -/
theorem tickCounts_eq_cons {most : Nat} (h : 3 ≤ most) :
    ∃ fewer, tickCounts most = most :: fewer := by
  have hlast : [most].filter (3 ≤ ·) = [most] := by
    rw [List.filter_cons_of_pos (by simpa using h), List.filter_nil]
  rw [tickCounts, List.range_succ, List.filter_append, hlast, List.reverse_append]
  exact ⟨_, rfl⟩

theorem behind?_eq_none_iff {run : String} {lines : List String} :
    behind? run lines = none ↔ run ∉ lines := by
  induction lines with
  | nil => simp [behind?]
  | cons line lines ih =>
      rw [behind?, List.mem_cons, not_or]
      by_cases h : line = run
      · simp [h]
      · rw [if_neg h, ih]
        exact ⟨fun hmem => ⟨Ne.symm h, hmem⟩, And.right⟩

theorem exists_of_behind? {run : String} {lines rest : List String}
    (h : behind? run lines = some rest) :
    ∃ content, lines = content ++ run :: rest ∧ run ∉ content := by
  induction lines with
  | nil => cases h
  | cons line lines ih =>
      rw [behind?] at h
      split at h
      · rename_i hrun
        cases h
        exact ⟨[], by rw [hrun, List.nil_append], List.not_mem_nil⟩
      · rename_i hrun
        rcases ih h with ⟨content, rfl, hcontent⟩
        refine ⟨line :: content, rfl, ?_⟩
        rw [List.mem_cons, not_or]
        exact ⟨Ne.symm hrun, hcontent⟩

/-! ## Agreement with the outline -/

theorem eq_replicate_of_isFenceChar {run : List Char} (h : ∀ c ∈ run, isFenceChar c = true) :
    run = List.replicate run.length '\x60' := by
  rw [List.eq_replicate_iff]
  exact ⟨rfl, fun c hc => by simpa [isFenceChar] using h c hc⟩

/-- The run of a fence is all backticks that its first line starts with. -/
theorem of_fenceRun {line : String} {run : List Char} (h : fenceRun? line.toList = some run) :
    3 ≤ tickCount line ∧ String.ofList run = ticks (tickCount line) := by
  rcases Block.fenceRun?_eq_some_iff.1 h with ⟨rfl, hleast, -⟩
  refine ⟨hleast, ?_⟩
  rw [ticks, tickCount, ← eq_replicate_of_isFenceChar fun c hc => List.mem_takeWhile_imp hc]

/-- A line that opens a fence of the outline opens it for display, if it is closed. -/
theorem skip?_of_fenceRun {line : String} {run : List Char} {later : List String}
    (h : fenceRun? line.toList = some run) (hclosed : .ofList run ∈ later) :
    skip? line later = behind? (.ofList run) later := by
  rcases of_fenceRun h with ⟨hleast, hrun⟩
  rcases tickCounts_eq_cons hleast with ⟨fewer, hcounts⟩
  rw [skip?, hcounts, List.findSome?_cons, ← hrun]
  cases hbehind : behind? (.ofList run) later with
  | some rest => rfl
  | none => exact absurd hclosed (behind?_eq_none_iff.1 hbehind)

/-- Lines are settled if each that starts with three backticks or more opens a fence
    wherever it stands. -/
theorem settled_of_forall {lines : List String}
    (h : ∀ line ∈ lines, 3 ≤ tickCount line → fenceRun? line.toList ≠ none) : Settled lines := by
  rintro before line after rfl - hnone count hleast hmost
  have hmem : line ∈ before ++ line :: after :=
    List.mem_append_right _ List.mem_cons_self
  exact absurd hnone (h line hmem (by omega))

theorem Settled.of_append {one other : List String} (h : Settled (one ++ other))
    (hone : Fence.scan none one = none) : Settled other := by
  intro before line after heq hbefore
  refine h (one ++ before) line after (by rw [heq, List.append_assoc]) ?_
  rw [Fence.scan_append, hone, hbefore]

/-- A line outside of fences that opens none. -/
theorem declaredKeys_cons {line : String} (hafter : Fence.after none line = none)
    (later : List String) :
    declaredKeys (line :: later) = (Role.of none line).key?.toList ++ declaredKeys later := by
  rw [declaredKeys, Block.roles_cons, hafter, declaredKeys]
  cases hkey : (Role.of none line).key? with
  | none => rw [List.filterMap_cons_none hkey, Option.toList_none, List.nil_append]
  | some key => rw [List.filterMap_cons_some hkey, Option.toList_some, List.singleton_append]

/-- A fence of the outline that is closed is displayed, up to the line that closes it. -/
theorem exists_skip?_of_closed {line : String} {run : List Char} {later : List String}
    (hrun : fenceRun? line.toList = some run) (hclosed : Fence.scan none (line :: later) = none) :
    ∃ content rest, later = content ++ .ofList run :: rest ∧ String.ofList run ∉ content ∧
      skip? line later = some rest := by
  have hopening : fenceRun? line.toList = some (String.ofList run).toList := by
    rw [hrun, String.toList_ofList]
  have hmem : String.ofList run ∈ later := by
    by_contra hnot
    rw [Fence.scan_cons, Fence.after_none_of_fenceRun hopening, Fence.scan_of_notMem hnot] at hclosed
    cases hclosed
  have hskip := skip?_of_fenceRun hrun hmem
  cases hbehind : behind? (.ofList run) later with
  | none => exact absurd hmem (behind?_eq_none_iff.1 hbehind)
  | some rest =>
      rw [hbehind] at hskip
      rcases exists_of_behind? hbehind with ⟨content, hlater, hcontent⟩
      exact ⟨content, rest, hlater, hcontent, hskip⟩

/-- In settled lines, what opens no fence of the outline is not displayed as if it did. -/
theorem Settled.skip?_eq_none {line : String} {later : List String} (h : Settled (line :: later))
    (hrun : fenceRun? line.toList = none) : skip? line later = none := by
  rw [skip?, List.findSome?_eq_none_iff]
  intro count hcount
  rw [mem_tickCounts_iff] at hcount
  rw [behind?_eq_none_iff]
  exact h [] line later rfl rfl hrun count hcount.1 hcount.2

/-- Where no line looks like the start of a fence without being one, the keys displayed are those
    declared. Both go from line to line, and over the same lines at once where there is a fence. -/
theorem shownKeys_eq {lines : List String} (hclosed : Fence.scan none lines = none)
    (hsettled : Settled lines) : shownKeys lines = declaredKeys lines := by
  induction hlen : lines.length using Nat.strongRecOn generalizing lines with
  | ind n ih =>
    cases lines with
    | nil =>
      rw [shownKeys]
      rfl
    | cons line later =>
      rw [List.length_cons] at hlen
      cases hrun : fenceRun? line.toList with
      | some run =>
          rcases exists_skip?_of_closed hrun hclosed with ⟨content, rest, rfl, hcontent, hskip⟩
          have hopening : fenceRun? line.toList = some (String.ofList run).toList := by
            rw [hrun, String.toList_ofList]
          -- The fence as a whole leaves none open, so the lines behind it are settled as well.
          have hfence : Fence.scan none (line :: (content ++ [.ofList run])) = none :=
            Fence.scan_fence hopening hcontent []
          have hsplit : line :: (content ++ .ofList run :: rest) =
              (line :: (content ++ [.ofList run])) ++ rest := by simp
          have hshort : rest.length < n := by
            rw [List.length_append, List.length_cons] at hlen
            omega
          rw [shownKeys_cons_of_skip hskip, Block.declaredKeys_fence hopening hcontent rest]
          rw [hsplit] at hsettled hclosed
          rw [Fence.scan_append, hfence] at hclosed
          exact ih _ hshort hclosed (hsettled.of_append hfence) rfl
      | none =>
          have hafter : Fence.after none line = none := by
            rw [Fence.after, hrun, Option.map_none]
          have hsettledLater : Settled later :=
            Settled.of_append (show Settled ([line] ++ later) from hsettled) hafter
          rw [Fence.scan_cons, hafter] at hclosed
          rw [shownKeys_cons_of_not_skip (hsettled.skip?_eq_none hrun), declaredKeys_cons hafter,
            ih _ (by omega) hclosed hsettledLater rfl]

/-! ## Empty lines at the ends -/

theorem ticks_ne_empty {count : Nat} (h : 3 ≤ count) : ticks count ≠ "" := by
  rw [ticks, Ne, Text.ofList_eq_empty_iff, List.replicate_eq_nil_iff]
  omega

/-- An empty line is neither a key nor the start of a fence. -/
theorem shownKeys_cons_empty (lines : List String) : shownKeys ("" :: lines) = shownKeys lines := by
  have hskip : skip? "" lines = none := rfl
  rw [shownKeys_cons_of_not_skip hskip]
  rfl

theorem behind?_concat_empty {run : String} (hrun : run ≠ "") (lines : List String) :
    behind? run (lines ++ [""]) = (behind? run lines).map (· ++ [""]) := by
  induction lines with
  | nil => exact if_neg (Ne.symm hrun)
  | cons line lines ih =>
      rw [List.cons_append, behind?, behind?]
      by_cases h : line = run
      · rw [if_pos h, if_pos h]
        rfl
      · rw [if_neg h, if_neg h, ih]

theorem skip?_concat_empty (line : String) (later : List String) :
    skip? line (later ++ [""]) = (skip? line later).map (· ++ [""]) := by
  have hleast : ∀ count ∈ tickCounts (tickCount line), 3 ≤ count :=
    fun count h => (mem_tickCounts_iff.1 h).1
  rw [skip?, skip?]
  generalize tickCounts (tickCount line) = counts at hleast
  induction counts with
  | nil => rfl
  | cons count counts ih =>
      rw [List.forall_mem_cons] at hleast
      rw [List.findSome?_cons, List.findSome?_cons,
        behind?_concat_empty (ticks_ne_empty hleast.1), ih hleast.2]
      cases behind? (ticks count) later <;> rfl

/-- Nor is it the end of a fence. -/
theorem shownKeys_concat_empty (lines : List String) :
    shownKeys (lines ++ [""]) = shownKeys lines := by
  induction hlen : lines.length using Nat.strongRecOn generalizing lines with
  | ind n ih =>
    cases lines with
    | nil => exact shownKeys_cons_empty []
    | cons line later =>
      rw [List.length_cons] at hlen
      have hconcat := skip?_concat_empty line later
      rw [List.cons_append]
      cases hskip : skip? line later with
      | some rest =>
          rw [hskip, Option.map_some] at hconcat
          have hshort := length_skip?_le hskip
          rw [shownKeys_cons_of_skip hskip, shownKeys_cons_of_skip hconcat,
            ih _ (by omega) rest rfl]
      | none =>
          rw [hskip, Option.map_none] at hconcat
          rw [shownKeys_cons_of_not_skip hskip, shownKeys_cons_of_not_skip hconcat,
            ih _ (by omega) later rfl]

/-- Empty lines at both ends make no difference. At the end this takes an induction over all the
    lines, since an empty line might have been the end of a fence. -/
theorem shownKeys_trim (lines : List String) :
    shownKeys ((lines.dropWhile (· == "")).rdropWhile (· == "")) = shownKeys lines := by
  have hstart : shownKeys (lines.dropWhile (· == "")) = shownKeys lines := by
    induction lines with
    | nil => rfl
    | cons line lines ih =>
        by_cases h : line = ""
        · rw [List.dropWhile_cons_of_pos (by simpa using h), ih, h, shownKeys_cons_empty]
        · rw [List.dropWhile_cons_of_neg (by simpa using h)]
  rw [← hstart]
  generalize lines.dropWhile (· == "") = lines
  induction lines using List.reverseRecOn with
  | nil => rfl
  | append_singleton lines line ih =>
      by_cases h : line = ""
      · rw [List.rdropWhile_concat_pos _ _ _ (by simpa using h), ih, h, shownKeys_concat_empty]
      · rw [List.rdropWhile_concat_neg _ _ _ (by simpa using h)]

end Stencil.Highlight
