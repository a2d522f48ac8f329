import Mathlib.Data.List.TakeWhile
import Stencil.Files.PurePath

/-!
# Names of Paths

Which names a path has, and that it keeps them when it is written anew.

Names lie between slashes, and two kinds of them are left out: the empty ones,
which come from slashes that follow each other, and single full stops. What is
left is made of the characters of the text, and is never one of the two. So a
path that is put together from its names, with one slash between any two, has
these names again, and so has the path of no names, although it is written as a
full stop.

## Main definitions

* `IsStep`: A name that a path can have.

## Theorems

* `of_mem_nameList`: The names of a path name steps, and are made of its characters.
* `exists_mem_nameList`: What is written in a path stands in one of its names.
* `nameList_intercalate`: Names with slashes between them are read back.
* `PurePath.nameList_text`: A path keeps its names when it is written anew.
-/

namespace Stencil.Files

/-- A name that a path can have: it holds no slash, and names a step. -/
structure IsStep (name : String) : Prop where
  ne_empty : name ≠ ""
  ne_dot : name ≠ "."
  slash_notMem : '/' ∉ name.toList

/-! ## Names between slashes -/

/-- What is written after a slash is part of the path. -/
theorem afterSlash_subset (s : List Char) : afterSlash s ⊆ s := by
  intro c hc
  exact (List.dropWhile_suffix _).subset ((List.drop_suffix _ _).subset hc)

/-- The names of a path name steps, and are made of its characters. The induction goes over the
    text from slash to slash; a name that is empty or a single full stop is left out. -/
theorem of_mem_nameList {s : List Char} {name : String} (h : name ∈ nameList s) :
    IsStep name ∧ name.toList ⊆ s := by
  rw [nameList] at h
  induction s using segments.induct with
  | case1 =>
      rw [segments] at h
      exact absurd h List.not_mem_nil
  | case2 c s first rest hskip ih =>
      rw [segments, if_pos hskip] at h
      have hlater := ih h
      exact ⟨hlater.1, fun d hd => afterSlash_subset _ (hlater.2 hd)⟩
  | case3 c s first rest hskip ih =>
      rw [segments, if_neg hskip, List.map_cons, List.mem_cons] at h
      rcases h with rfl | hmem
      · simp only [Bool.or_eq_true, decide_eq_true_eq, not_or] at hskip
        refine ⟨⟨hskip.1, hskip.2, ?_⟩, ?_⟩
        · -- The name was taken up to the first slash.
          intro hslash
          rw [String.toList_ofList] at hslash
          exact absurd (List.mem_takeWhile_imp hslash) (by decide)
        · rw [String.toList_ofList]
          exact (List.takeWhile_prefix _).subset
      · have hlater := ih hmem
        exact ⟨hlater.1, fun d hd => afterSlash_subset _ (hlater.2 hd)⟩

/-- A character other than a slash is in the first name or after it. -/
theorem mem_takeWhile_or_mem_afterSlash {s : List Char} {c : Char} (hc : c ∈ s)
    (hslash : c ≠ '/') : c ∈ s.takeWhile (· != '/') ∨ c ∈ afterSlash s := by
  induction s with
  | nil => cases hc
  | cons d s ih =>
      by_cases hd : d = '/'
      · subst hd
        exact .inr ((List.mem_cons.1 hc).resolve_left hslash)
      · have hne : (d != '/') = true := by simpa using hd
        rw [afterSlash, List.takeWhile_cons, List.dropWhile_cons, if_pos hne, if_pos hne]
        rcases List.mem_cons.1 hc with rfl | hc
        · exact .inl List.mem_cons_self
        · exact (ih hc).imp_left (List.mem_cons_of_mem _)

/-- A character that is neither a slash nor a full stop is part of a name, so what is left out of
    a path are slashes and full stops only. -/
theorem exists_mem_nameList {s : List Char} {c : Char} (hc : c ∈ s) (hslash : c ≠ '/')
    (hdot : c ≠ '.') : ∃ name ∈ nameList s, c ∈ name.toList := by
  rw [nameList]
  induction s using segments.induct with
  | case1 => cases hc
  | case2 d s first rest hskip ih =>
      rw [segments, if_pos hskip]
      -- A name that is left out has no other characters.
      rcases mem_takeWhile_or_mem_afterSlash hc hslash with hfirst | hrest
      · have hmem : c ∈ first.toList := by rwa [String.toList_ofList]
        rcases Bool.or_eq_true_iff.1 hskip with hempty | hfull
        · rw [of_decide_eq_true hempty] at hmem
          cases hmem
        · rw [of_decide_eq_true hfull] at hmem
          exact absurd (List.mem_singleton.1 hmem) hdot
      · exact ih hrest
  | case3 d s first rest hskip ih =>
      rw [segments, if_neg hskip, List.map_cons]
      rcases mem_takeWhile_or_mem_afterSlash hc hslash with hfirst | hrest
      · exact ⟨first, List.mem_cons_self, by rwa [String.toList_ofList]⟩
      · rcases ih hrest with ⟨name, hname, hmem⟩
        exact ⟨name, List.mem_cons_of_mem _ hname, hmem⟩

/-! ## Names that are put together -/

/-- Slashes at the start of a path are skipped. -/
theorem nameList_replicate_slash (n : Nat) (s : List Char) :
    nameList (List.replicate n '/' ++ s) = nameList s := by
  induction n with
  | zero => rfl
  | succ n ih =>
      rw [List.replicate_succ, List.cons_append, nameList, segments]
      simp only [List.takeWhile_cons, afterSlash, List.dropWhile_cons]
      exact ih

/-- Up to a slash, or up to the end, there is one name. The slash after it goes with it, so what
    is read next starts with the next name. -/
theorem nameList_step {name : String} (h : IsStep name) {s : List Char}
    (hs : ∀ c ∈ s.head?, c = '/') :
    nameList (name.toList ++ s) = name :: nameList (s.drop 1) := by
  have hall : ∀ c ∈ name.toList, (c != '/') = true := by
    intro c hc
    rw [bne_iff_ne]
    rintro rfl
    exact h.slash_notMem hc
  -- The name ends where it ends: a slash follows, or nothing.
  have hstop : s.takeWhile (· != '/') = [] ∧ s.dropWhile (· != '/') = s := by
    cases s with
    | nil => exact ⟨rfl, rfl⟩
    | cons c s =>
        have hc : c = '/' := hs c rfl
        subst hc
        exact ⟨rfl, rfl⟩
  have htake : (name.toList ++ s).takeWhile (· != '/') = name.toList := by
    rw [List.takeWhile_append_of_pos hall, hstop.1, List.append_nil]
  have hafter : afterSlash (name.toList ++ s) = s.drop 1 := by
    rw [afterSlash, List.dropWhile_append_of_pos hall, hstop.2]
  have hne : name.toList ++ s ≠ [] := by
    simp [h.ne_empty]
  rcases List.exists_cons_of_ne_nil hne with ⟨c, rest, hcons⟩
  rw [hcons] at htake hafter ⊢
  have hstep : ¬(name = "" ∨ name = ".") := fun hskip => hskip.elim h.ne_empty h.ne_dot
  rw [nameList, segments, htake, hafter, String.ofList_toList, if_neg (by simpa using hstep),
    List.map_cons, nameList]

/-- Names with slashes between them are read back. A name that is a step is neither empty nor a
    full stop, so none is left out. -/
theorem nameList_intercalate {names : List String} (h : ∀ name ∈ names, IsStep name) :
    nameList ("/".intercalate names).toList = names := by
  rw [String.toList_intercalate]
  induction names with
  | nil => rw [List.map_nil, List.intercalate_nil, nameList, segments, List.map_nil]
  | cons name names ih =>
      have hname := h name List.mem_cons_self
      have hlater := ih fun other hother => h other (List.mem_cons_of_mem _ hother)
      cases names with
      | nil =>
          have hstep : nameList (name.toList ++ []) = name :: nameList [] :=
            nameList_step hname (by simp)
          rw [List.append_nil] at hstep
          rw [List.map_cons, List.map_nil, List.intercalate_singleton, hstep]
          exact congrArg _ hlater
      | cons other names =>
          rw [List.map_cons, List.map_cons, List.intercalate_cons_cons, List.append_assoc,
            nameList_step hname (by simp)]
          exact congrArg _ hlater

/-- A path keeps its names when it is written anew, though its slashes and full stops may be
    fewer. -/
theorem PurePath.nameList_text {p : PurePath} (h : ∀ name ∈ p.names, IsStep name) :
    nameList p.text.toList = p.names := by
  have hwritten : nameList (List.replicate p.slashes '/' ++ ("/".intercalate p.names).toList) =
      p.names := by
    rw [nameList_replicate_slash, nameList_intercalate h]
  unfold PurePath.text
  dsimp only
  split
  · -- A path that would be written as nothing is written as a full stop.
    rename_i hempty
    have hnames : p.names = [] := by
      rw [String.isEmpty_iff, ← String.toList_inj, String.toList_append, String.toList_ofList]
        at hempty
      rw [hempty] at hwritten
      rw [← hwritten, String.toList_empty, nameList, segments, List.map_nil]
    rw [hnames]
    cbv
  · rw [String.toList_append, String.toList_ofList, hwritten]

end Stencil.Files
