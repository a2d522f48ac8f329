import Stencil.Text.Lines
import Mathlib.Data.List.DropRight

/-!
# Trimming and Lines

What is left of the lines of a text when the blanks at its ends are taken off.

A line feed is a blank, so trimming a text takes whole lines away. It never
changes a line that stays by more than its own outer blanks: once every line
is trimmed too, a trimmed text has the lines of the text itself, less the
empty ones at both ends. That is `strippedLines_strip`, and it lets the lines
of a source be compared without looking at its ends.

The two ends are treated alike but not proved alike. At the start, taking off
one blank is one step of `splitOn`; at the end, the induction runs backwards
and `exists_splitOn_concat` says what one more character does to the last
line.

## Main definitions

* `trimmedLines`: The lines of a list of characters, each trimmed.
* `strippedLines`: The same for a text.

## Theorems

* `lines_unlines_eq_flatMap`: The lines of joined texts.
* `takeWhile_append_of_stop`, `dropWhile_append_of_stop`: Where a run of a class stops.
* `trimStart_trimEnd`: The two ends do not depend on each other.
* `trim_eq_nil_iff`: Nothing is left of blanks, and only of blanks.
* `trim_eq_self_iff`: Nothing is taken off just if there is no blank at either end.
* `eq_nil_of_trim_append`: A trimmed text does not end in blanks.
* `trim_dropWhile`, `trim_rdropWhile`: Nothing changes if some blanks were taken off before.
* `trimmedLines_trim`: Trimming takes off empty lines at both ends.
* `strippedLines_strip`: The same for texts.
* `strippedLines_strip_eq_self`: Nothing is taken off between lines that are not empty.
* `ends_strippedLines_strip`: A stripped text has such lines at both ends.
-/

namespace Stencil.Text

/-! ## Joined lines -/

/-- What stands before joined lines stands before the first of them. -/
theorem append_unlines_cons (s l : String) (ls : List String) :
    s ++ unlines (l :: ls) = unlines ((s ++ l) :: ls) := by
  rw [← String.toList_inj, String.toList_append, toList_unlines, toList_unlines]
  cases ls with
  | nil => simp [String.toList_append]
  | cons m ls =>
      simp only [List.map_cons, String.toList_append, List.intercalate_cons_cons,
        List.append_assoc]

/-- The lines of joined texts are the lines of the texts. -/
theorem lines_unlines_eq_flatMap {ts : List String} (hne : ts ≠ []) :
    lines (unlines ts) = ts.flatMap lines := by
  induction ts with
  | nil => exact absurd rfl hne
  | cons t ts ih =>
      cases ts with
      | nil => simp [unlines]
      | cons u ts =>
          have hjoin : (unlines (t :: u :: ts)).toList
              = t.toList ++ '\n' :: (unlines (u :: ts)).toList := by
            rw [toList_unlines, toList_unlines, List.map_cons, List.map_cons,
              List.intercalate_cons_cons, List.append_assoc, List.singleton_append]
          rw [List.flatMap_cons, ← ih (by simp), lines, hjoin, List.splitOn_append_cons_self,
            List.map_append, lines, lines]

/-! ## Trimming -/

/-- A run of a class stops at the first character that is not of it. -/
theorem takeWhile_append_of_stop {p : Char → Bool} {t : List Char}
    (ht : ∀ c ∈ t.head?, p c = false) (s : List Char) :
    (s ++ t).takeWhile p = s.takeWhile p := by
  induction s with
  | nil =>
      cases t with
      | nil => rfl
      | cons c t => exact List.takeWhile_cons_of_neg (by simp [ht c rfl])
  | cons c s ih => simp only [List.cons_append, List.takeWhile_cons, ih]

theorem dropWhile_append_of_stop {p : Char → Bool} {t : List Char}
    (ht : ∀ c ∈ t.head?, p c = false) (s : List Char) :
    (s ++ t).dropWhile p = s.dropWhile p ++ t := by
  induction s with
  | nil =>
      cases t with
      | nil => rfl
      | cons c t => exact List.dropWhile_cons_of_neg (by simp [ht c rfl])
  | cons c s ih =>
      simp only [List.cons_append, List.dropWhile_cons, ih]
      split <;> rfl

theorem trimStart_cons_blank {c : Char} (hc : isBlank c = true) (s : List Char) :
    trimStart (c :: s) = trimStart s := by
  simp only [trimStart, List.dropWhile_cons, hc, if_true]

theorem trimStart_cons_of_not_blank {c : Char} (hc : isBlank c = false) (s : List Char) :
    trimStart (c :: s) = c :: s :=
  trimStart_eq_self (by simpa using hc)

theorem trimEnd_concat_blank {c : Char} (hc : isBlank c = true) (s : List Char) :
    trimEnd (s ++ [c]) = trimEnd s :=
  List.rdropWhile_concat_pos isBlank s c hc

theorem trimEnd_concat_of_not_blank {c : Char} (hc : isBlank c = false) (s : List Char) :
    trimEnd (s ++ [c]) = s ++ [c] :=
  List.rdropWhile_concat_neg isBlank s c (by simp [hc])

/-- What stands before a character that is no blank stays. -/
theorem trimEnd_append_cons {c : Char} (hc : isBlank c = false) (s t : List Char) :
    trimEnd (s ++ c :: t) = s ++ c :: trimEnd t := by
  induction t using List.reverseRecOn with
  | nil => exact trimEnd_concat_of_not_blank hc s
  | append_singleton t d ih =>
      have hassoc : s ++ c :: (t ++ [d]) = (s ++ c :: t) ++ [d] := by simp
      by_cases hd : isBlank d = true
      · rw [hassoc, trimEnd_concat_blank hd, trimEnd_concat_blank hd, ih]
      · have hd' : isBlank d = false := by simpa using hd
        rw [hassoc, trimEnd_concat_of_not_blank hd', trimEnd_concat_of_not_blank hd', hassoc]

theorem trimEnd_cons_of_not_blank {c : Char} (hc : isBlank c = false) (s : List Char) :
    trimEnd (c :: s) = c :: trimEnd s :=
  trimEnd_append_cons hc [] s

theorem trimStart_eq_nil_iff (s : List Char) : trimStart s = [] ↔ ∀ c ∈ s, isBlank c = true :=
  List.dropWhile_eq_nil_iff

theorem trimEnd_eq_nil_iff (s : List Char) : trimEnd s = [] ↔ ∀ c ∈ s, isBlank c = true :=
  List.rdropWhile_eq_nil_iff

/-- The blanks at one end can be taken off before or after those at the other. Only if there is
    nothing but blanks do the two ends meet. -/
theorem trimStart_trimEnd (s : List Char) : trimStart (trimEnd s) = trim s := by
  induction s with
  | nil => rfl
  | cons c s ih =>
      by_cases hc : isBlank c = true
      · -- The blank goes either way, with the others at the start or with all of them.
        by_cases hs : ∀ d ∈ s, isBlank d = true
        · have hall : ∀ d ∈ c :: s, isBlank d = true := by
            simpa [hc] using hs
          rw [trim, (trimEnd_eq_nil_iff _).2 hall, (trimStart_eq_nil_iff _).2 hall]
          rfl
        · have hne : trimEnd s ≠ [] := fun h => hs ((trimEnd_eq_nil_iff s).1 h)
          have hend : trimEnd (c :: s) = c :: trimEnd s := by
            unfold trimEnd at hne ⊢
            have hdrop : (s.reverse.dropWhile isBlank).isEmpty = false := by
              simpa using hne
            rw [List.reverse_cons, List.dropWhile_append, hdrop]
            simp
          rw [hend, trimStart_cons_blank hc, ih, trim, trim, trimStart_cons_blank hc]
      · have hc' : isBlank c = false := by simpa using hc
        rw [trim, trimStart_cons_of_not_blank hc', trimEnd_cons_of_not_blank hc',
          trimStart_cons_of_not_blank hc']

theorem trim_cons_blank {c : Char} (hc : isBlank c = true) (s : List Char) :
    trim (c :: s) = trim s := by
  rw [trim, trimStart_cons_blank hc, trim]

theorem trim_concat_blank {c : Char} (hc : isBlank c = true) (s : List Char) :
    trim (s ++ [c]) = trim s := by
  rw [← trimStart_trimEnd, trimEnd_concat_blank hc, trimStart_trimEnd]

/-- Nothing is left of blanks, and only of blanks. -/
theorem trim_eq_nil_iff (s : List Char) : trim s = [] ↔ ∀ c ∈ s, isBlank c = true := by
  rw [trim, trimEnd_eq_nil_iff, ← trimStart_eq_nil_iff s]
  constructor
  · intro h
    rw [← trimStart_eq_nil_iff, trimStart_trimStart] at h
    exact h
  · intro h
    rw [h]
    simp

/-- Nothing is added to a text that is trimmed. -/
theorem mem_of_mem_trim {s : List Char} {c : Char} (h : c ∈ trim s) : c ∈ s := by
  have hstart : c ∈ trimStart s := (trimEnd_isPrefix _).subset h
  exact (List.dropWhile_suffix isBlank).subset hstart

/-- The characters at the end of a text are those at the start of its reverse. -/
theorem getLast?_trimEnd (s : List Char) :
    (trimEnd s).getLast? = (trimStart s.reverse).head? := by
  rw [trimEnd, List.getLast?_reverse, trimStart]

/-- Nothing is trimmed off a text just if there is no blank at either end. The empty text has no
    ends. -/
theorem trim_eq_self_iff (s : List Char) :
    trim s = s ↔ (∀ c ∈ s.head?, isBlank c = false) ∧ ∀ c ∈ s.getLast?, isBlank c = false := by
  constructor
  · intro h
    constructor
    · intro c hc
      rw [← h] at hc
      exact isBlank_head_trimStart s c (head_trimEnd hc)
    · intro c hc
      rw [← h, trim, getLast?_trimEnd] at hc
      exact isBlank_head_trimStart _ c hc
  · rintro ⟨hhead, hlast⟩
    have hend : trimEnd s = s := by
      have hrev : trimStart s.reverse = s.reverse := by
        apply trimStart_eq_self
        rwa [List.head?_reverse]
      rw [trimEnd, show s.reverse.dropWhile isBlank = s.reverse from hrev, List.reverse_reverse]
    rw [trim, trimStart_eq_self hhead, hend]

/-- A trimmed text does not end in blanks. -/
theorem eq_nil_of_trim_append {s t : List Char} (h : trim (s ++ t) = s ++ t)
    (ht : ∀ c ∈ t, isBlank c = true) : t = [] := by
  rcases List.eq_nil_or_concat t with rfl | ⟨init, c, rfl⟩
  · rfl
  · have hlast := ((trim_eq_self_iff _).1 h).2 c (by simp)
    rw [ht c (by simp)] at hlast
    cases hlast

/-- Blanks that were taken off the start of a text are missing no longer once it is
    trimmed. -/
theorem trim_dropWhile {p : Char → Bool} (hp : ∀ c, p c = true → isBlank c = true)
    (s : List Char) : trim (s.dropWhile p) = trim s := by
  induction s with
  | nil => rfl
  | cons c s ih =>
      by_cases hc : p c = true
      · rw [List.dropWhile_cons_of_pos hc, ih, trim_cons_blank (hp c hc)]
      · rw [List.dropWhile_cons_of_neg hc]

theorem trim_rdropWhile {p : Char → Bool} (hp : ∀ c, p c = true → isBlank c = true)
    (s : List Char) : trim (s.rdropWhile p) = trim s := by
  induction s using List.reverseRecOn with
  | nil => rfl
  | append_singleton s c ih =>
      by_cases hc : p c = true
      · rw [List.rdropWhile_concat_pos _ _ _ hc, ih, trim_concat_blank (hp c hc)]
      · rw [List.rdropWhile_concat_neg _ _ _ hc]

/-- What is taken off the end of a text is blank. -/
theorem exists_eq_trimEnd_append (s : List Char) :
    ∃ t, s = trimEnd s ++ t ∧ ∀ c ∈ t, isBlank c = true := by
  refine ⟨(s.reverse.takeWhile isBlank).reverse, ?_, fun c hc => ?_⟩
  · rw [trimEnd, ← List.reverse_append, List.takeWhile_append_dropWhile, List.reverse_reverse]
  · exact List.mem_takeWhile_imp (List.mem_reverse.1 hc)

/-! ## Trimmed lines -/

/-- The lines of a list of characters, each trimmed. -/
def trimmedLines (s : List Char) : List (List Char) :=
  (s.splitOn '\n').map trim

/-- A line feed ends a line. -/
theorem trimmedLines_append_newline (s t : List Char) :
    trimmedLines (s ++ '\n' :: t) = trimmedLines s ++ trimmedLines t := by
  rw [trimmedLines, List.splitOn_append_cons_self, List.map_append, trimmedLines, trimmedLines]

theorem trimmedLines_nil : trimmedLines [] = [[]] := rfl

/-- A character that is no line feed goes to the front of the first line. -/
theorem exists_splitOn_cons {c : Char} (hc : c ≠ '\n') (s : List Char) :
    ∃ l ls, s.splitOn '\n' = l :: ls ∧ (c :: s).splitOn '\n' = (c :: l) :: ls := by
  rcases hs : s.splitOn '\n' with _ | ⟨l, ls⟩
  · exact absurd hs (List.splitOn_ne_nil '\n' s)
  · refine ⟨l, ls, rfl, ?_⟩
    rw [List.splitOn_cons_eq_if_modifyHead, if_neg (by simpa using hc), hs]
    rfl

/-- A character that is no line feed goes to the end of the last line. -/
theorem exists_splitOn_concat {c : Char} (hc : c ≠ '\n') (s : List Char) :
    ∃ ls l, s.splitOn '\n' = ls ++ [l] ∧ (s ++ [c]).splitOn '\n' = ls ++ [l ++ [c]] := by
  induction s with
  | nil =>
      refine ⟨[], [], rfl, ?_⟩
      rw [List.nil_append, List.splitOn_eq_singleton (by simpa using hc.symm)]
      rfl
  | cons d s ih =>
      rcases ih with ⟨ls, l, hs, hsc⟩
      rw [List.cons_append, List.splitOn_cons_eq_if_modifyHead, List.splitOn_cons_eq_if_modifyHead,
        hs, hsc]
      by_cases hd : (d == '\n') = true
      · refine ⟨[] :: ls, l, ?_, ?_⟩
        · rw [if_pos hd, List.cons_append]
        · rw [if_pos hd, List.cons_append]
      · rw [if_neg hd, if_neg hd]
        -- If there is but one line, it is the first and the last.
        cases ls with
        | nil => exact ⟨[], d :: l, rfl, rfl⟩
        | cons h t => exact ⟨(d :: h) :: t, l, rfl, rfl⟩

theorem trimmedLines_cons_blank {c : Char} (hc : isBlank c = true) (hn : c ≠ '\n')
    (s : List Char) : trimmedLines (c :: s) = trimmedLines s := by
  rcases exists_splitOn_cons hn s with ⟨l, ls, hs, hcs⟩
  rw [trimmedLines, hcs, trimmedLines, hs, List.map_cons, List.map_cons, trim_cons_blank hc]

theorem trimmedLines_concat_blank {c : Char} (hc : isBlank c = true) (hn : c ≠ '\n')
    (s : List Char) : trimmedLines (s ++ [c]) = trimmedLines s := by
  rcases exists_splitOn_concat hn s with ⟨ls, l, hs, hsc⟩
  rw [trimmedLines, hsc, trimmedLines, hs, List.map_append, List.map_append, List.map_singleton,
    List.map_singleton, trim_concat_blank hc]

theorem ne_newline_of_not_blank {c : Char} (hc : isBlank c = false) : c ≠ '\n' := by
  rintro rfl
  exact absurd hc (by decide)

/-- If a text starts with no blank, its first line is not empty. -/
theorem head_trimmedLines_ne_nil {c : Char} (hc : isBlank c = false) (s : List Char) :
    ∃ l ls, trimmedLines (c :: s) = l :: ls ∧ l ≠ [] := by
  rcases exists_splitOn_cons (ne_newline_of_not_blank hc) s with ⟨l, ls, -, hcs⟩
  refine ⟨trim (c :: l), ls.map trim, by rw [trimmedLines, hcs, List.map_cons], fun h => ?_⟩
  have hb := (trim_eq_nil_iff _).1 h c (List.mem_cons_self ..)
  rw [hc] at hb
  exact absurd hb (by decide)

/-- If a text ends with no blank, its last line is not empty. -/
theorem last_trimmedLines_ne_nil {c : Char} (hc : isBlank c = false) (s : List Char) :
    ∃ ls l, trimmedLines (s ++ [c]) = ls ++ [l] ∧ l ≠ [] := by
  rcases exists_splitOn_concat (ne_newline_of_not_blank hc) s with ⟨ls, l, -, hsc⟩
  refine ⟨ls.map trim, trim (l ++ [c]), ?_, fun h => ?_⟩
  · rw [trimmedLines, hsc, List.map_append, List.map_singleton]
  · have hb := (trim_eq_nil_iff _).1 h c (by simp)
    rw [hc] at hb
    exact absurd hb (by decide)

/-- The blanks at the start of a text are empty lines, and the indentation of the first line that
    is not empty. The indentation goes anyway when lines are stripped, so what the lines lose is
    the empty ones. -/
theorem trimmedLines_trimStart {s : List Char} (h : trimStart s ≠ []) :
    trimmedLines (trimStart s) = (trimmedLines s).dropWhile List.isEmpty := by
  induction s with
  | nil => exact absurd rfl h
  | cons c s ih =>
      by_cases hc : isBlank c = true
      · rw [trimStart_cons_blank hc] at h ⊢
        rw [ih h]
        -- A line feed ends an empty line. Another blank is lost to the line it is on.
        by_cases hn : c = '\n'
        · have hsplit : trimmedLines ('\n' :: s) = [] :: trimmedLines s :=
            trimmedLines_append_newline [] s
          rw [hn, hsplit, List.dropWhile_cons_of_pos rfl]
        · rw [trimmedLines_cons_blank hc hn]
      · have hc' : isBlank c = false := by simpa using hc
        rcases head_trimmedLines_ne_nil hc' s with ⟨l, ls, hls, hne⟩
        rw [trimStart_cons_of_not_blank hc', hls, List.dropWhile_cons_of_neg (by simpa using hne)]

/-- The blanks at the end of a text are empty lines, and what follows the last
    line that is not empty. -/
theorem trimmedLines_trimEnd {s : List Char} (h : trimEnd s ≠ []) :
    trimmedLines (trimEnd s) = (trimmedLines s).rdropWhile List.isEmpty := by
  induction s using List.reverseRecOn with
  | nil => exact absurd rfl h
  | append_singleton s c ih =>
      by_cases hc : isBlank c = true
      · rw [trimEnd_concat_blank hc] at h ⊢
        rw [ih h]
        by_cases hn : c = '\n'
        · rw [hn, trimmedLines_append_newline, trimmedLines_nil,
            List.rdropWhile_concat_pos _ _ _ rfl]
        · rw [trimmedLines_concat_blank hc hn]
      · have hc' : isBlank c = false := by simpa using hc
        rcases last_trimmedLines_ne_nil hc' s with ⟨ls, l, hls, hne⟩
        rw [trimEnd_concat_of_not_blank hc', hls,
          List.rdropWhile_concat_neg _ _ _ (by simpa using hne)]

/-- Nothing is left of a text if nothing is left of any line. -/
theorem trim_eq_nil_iff_forall_lines (s : List Char) :
    trim s = [] ↔ ∀ l ∈ trimmedLines s, l = [] := by
  induction s with
  | nil => simp [trimmedLines_nil]
  | cons c s ih =>
      by_cases hc : isBlank c = true
      · rw [trim_cons_blank hc, ih]
        by_cases hn : c = '\n'
        · rw [hn, show '\n' :: s = [] ++ '\n' :: s from rfl, trimmedLines_append_newline,
            trimmedLines_nil]
          simp
        · rw [trimmedLines_cons_blank hc hn]
      · have hc' : isBlank c = false := by simpa using hc
        rcases head_trimmedLines_ne_nil hc' s with ⟨l, ls, hls, hne⟩
        rw [hls, trim_eq_nil_iff]
        constructor
        · intro h
          exact absurd (h c (List.mem_cons_self ..)) hc
        · intro h
          exact absurd (h l (List.mem_cons_self ..)) hne

/-- Trimming a text takes off the empty lines at both ends. -/
theorem trimmedLines_trim {s : List Char} (h : trim s ≠ []) :
    trimmedLines (trim s) =
      ((trimmedLines s).dropWhile List.isEmpty).rdropWhile List.isEmpty := by
  have hstart : trimStart s ≠ [] := by
    intro hs
    rw [trim, hs] at h
    exact h rfl
  rw [trim, trimmedLines_trimEnd h, trimmedLines_trimStart hstart]

/-! ## Stripped lines of texts -/

/-- The lines of a text, each without its outer blanks. -/
def strippedLines (s : String) : List String :=
  (lines s).map strip

@[simp] theorem toList_strip (s : String) : (strip s).toList = trim s.toList :=
  String.toList_ofList

/-- Nothing is trimmed off a stripped text. -/
theorem trim_toList_of_strip {s : String} (h : strip s = s) : trim s.toList = s.toList := by
  rw [← toList_strip, h]

theorem strip_eq_empty_iff (s : String) : strip s = "" ↔ trim s.toList = [] := by
  rw [← String.toList_inj, toList_strip, String.toList_empty]

theorem strippedLines_eq (s : String) : strippedLines s = (trimmedLines s.toList).map .ofList := by
  simp [strippedLines, lines, trimmedLines, strip, Function.comp_def]

theorem strippedLines_ne_nil (s : String) : strippedLines s ≠ [] := by
  simp [strippedLines, lines_ne_nil]

theorem strip_of_mem_strippedLines {s l : String} (h : l ∈ strippedLines s) : strip l = l := by
  rcases List.mem_map.1 h with ⟨m, -, rfl⟩
  exact strip_strip m

theorem newline_notMem_strip {s : String} (h : '\n' ∉ s.toList) : '\n' ∉ (strip s).toList := by
  rw [toList_strip]
  intro hm
  exact h (List.dropWhile_suffix isBlank |>.mem ((trimEnd_isPrefix _).mem hm))

/-- A stripped line holds no line feed. -/
theorem newline_notMem_of_mem_strippedLines {s l : String} (h : l ∈ strippedLines s) :
    '\n' ∉ l.toList := by
  rcases List.mem_map.1 h with ⟨m, hm, rfl⟩
  exact newline_notMem_strip (newline_notMem_of_mem_lines hm)

/-- Whether a text is the empty one. -/
theorem ofList_eq_empty_iff (s : List Char) : String.ofList s = "" ↔ s = [] := by
  rw [← String.toList_inj, String.toList_ofList, String.toList_empty]

/-- A text is blank if its lines are. -/
theorem strip_eq_empty_iff_forall_lines (s : String) :
    strip s = "" ↔ ∀ l ∈ strippedLines s, l = "" := by
  rw [strip_eq_empty_iff, trim_eq_nil_iff_forall_lines, strippedLines_eq]
  simp only [List.forall_mem_map, ofList_eq_empty_iff]

/-- Stripping a text takes off the empty lines at both ends, and the lines between them are
    stripped as they were. -/
theorem strippedLines_strip {s : String} (h : strip s ≠ "") :
    strippedLines (strip s) =
      ((strippedLines s).dropWhile (· == "")).rdropWhile (· == "") := by
  have hempty : (fun l : List Char => String.ofList l == "") = List.isEmpty := by
    funext l
    rw [Bool.eq_iff_iff, beq_iff_eq, ofList_eq_empty_iff, List.isEmpty_iff]
  have hne : trim s.toList ≠ [] := fun hs => h ((strip_eq_empty_iff s).2 hs)
  rw [strippedLines_eq, strippedLines_eq, toList_strip, trimmedLines_trim hne, List.dropWhile_map,
    List.rdropWhile, List.rdropWhile, ← List.map_reverse, List.dropWhile_map, List.map_reverse]
  simp only [Function.comp_def, hempty]

/-- If the first and the last line are not blank, stripping takes off no line. -/
theorem strippedLines_strip_eq_self {s : String} (hfirst : (strippedLines s).head? ≠ some "")
    (hlast : (strippedLines s).getLast? ≠ some "") :
    strippedLines (strip s) = strippedLines s := by
  have hstart : (strippedLines s).dropWhile (· == "") = strippedLines s := by
    rcases hs : strippedLines s with _ | ⟨l, ls⟩
    · rfl
    · rw [hs] at hfirst
      exact List.dropWhile_cons_of_neg (by simpa using hfirst)
  have hend : (strippedLines s).rdropWhile (· == "") = strippedLines s := by
    rw [List.rdropWhile_eq_self_iff]
    intro hne he
    rw [List.getLast?_eq_some_getLast hne] at hlast
    exact hlast (by rw [beq_iff_eq.1 he])
  have hne : strip s ≠ "" := by
    intro he
    -- A blank text has blank lines only, but its first line is not blank.
    rcases hs : strippedLines s with _ | ⟨l, ls⟩
    · exact strippedLines_ne_nil s hs
    · have hl : l = "" := (strip_eq_empty_iff_forall_lines s).1 he l (by rw [hs]; simp)
      rw [hs, hl] at hfirst
      exact hfirst rfl
  rw [strippedLines_strip hne, hstart, hend]

/-- A stripped text neither starts nor ends with an empty line. -/
theorem ends_strippedLines_strip {s : String} (h : strip s ≠ "") :
    (strippedLines (strip s)).head? ≠ some "" ∧ (strippedLines (strip s)).getLast? ≠ some "" := by
  -- Stripping once more takes off nothing, so there is nothing to take off at either end.
  have hfix := strippedLines_strip (s := strip s) (by rwa [strip_strip])
  rw [strip_strip] at hfix
  generalize strippedLines (strip s) = ls at hfix
  have hprefix := List.rdropWhile_prefix (· == "") (ls.dropWhile (· == ""))
  have hsuffix := List.dropWhile_suffix (· == "") (l := ls)
  rw [← hfix] at hprefix
  have hstart : ls.dropWhile (· == "") = ls := hsuffix.eq_of_length_le hprefix.length_le
  rw [hstart] at hfix
  constructor
  · intro hhead
    rcases ls with _ | ⟨l, ls⟩
    · simp at hhead
    · have hpos := List.dropWhile_eq_self_iff.1 hstart (by simp)
      simp only [List.head?_cons, Option.some.injEq] at hhead
      simp [hhead] at hpos
  · intro hlast
    have hne : ls ≠ [] := by
      rintro rfl
      simp at hlast
    have hneg := List.rdropWhile_eq_self_iff.1 hfix.symm hne
    rw [List.getLast?_eq_some_getLast hne, Option.some.injEq] at hlast
    simp [hlast] at hneg

end Stencil.Text
