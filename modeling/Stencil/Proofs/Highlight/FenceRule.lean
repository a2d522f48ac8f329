import Stencil.Highlight.Language
import Stencil.Proofs.Text.Trim
import Stencil.Proofs.Highlight.Fences

/-!
# Fences in a Source

What the rule for fences takes of a source is what its lines say.

The lexer does not know lines. It stands at a place of the text and looks ahead
as far as its rules want, and the rule for fences looks through all that is left.
From the start of a line, what is left is lines again, each with a line feed at its
end. `fenceRule_line` says which of them the rule takes: those that `skip?` skips, which
knows lines only.

Lines here are as they stand in the source, while the outline has them without
their outer blanks. The blanks that the rule allows around the end of a fence are spaces
and tabs, so other blanks must not occur within a line.

## Main definitions

* `keys`: The keys among lexemes.
* `Indented`, `stripped`, `endedLines`: Lines as they stand in a source.
* `TakesFence`: What a fence takes, and what is left behind it.

## Theorems

* `splitOn_endedLines`, `endedLines_splitOn`: Lines and the text that they are.
* `closing?_eq_none_iff`: Which line is the end of a fence.
* `content?_endedLines`: The content of a fence, in a text and among its lines.
* `fenceRule_line`: The rule for fences, at the start of a line.
-/

namespace Stencil.Highlight

open Block (isFenceChar)

/-- The keys among lexemes. -/
def keys (ls : List Lexeme) : List String :=
  (ls.filter (·.kind = .key)).map fun l => .ofList l.text

/-- A line with no blanks in it but spaces and tabs. The rules for display know no other blanks,
    and stripping does, so on other lines the two part ways. -/
def Indented (l : List Char) : Prop :=
  ∀ c ∈ l, Text.isBlank c = true → isIndent c = true

/-- A line without its outer blanks. -/
def stripped (l : List Char) : String :=
  .ofList (Text.trim l)

/-- Lines, each with a line feed at its end. -/
def endedLines (lines : List (List Char)) : List Char :=
  lines.flatMap (· ++ ['\n'])

@[simp] theorem keys_nil : keys [] = [] := rfl

@[simp] theorem keys_append (ls ms : List Lexeme) : keys (ls ++ ms) = keys ls ++ keys ms := by
  simp [keys]

/-- Pieces of other kinds are no keys. -/
theorem keys_lexemes_cons {kind : Kind} (h : kind ≠ .key) (t : List Char)
    (pieces : List (Kind × List Char)) :
    keys (lexemes ((kind, t) :: pieces)) = keys (lexemes pieces) := by
  by_cases ht : t = []
  · simp [lexemes, ht]
  · simp [lexemes, ht, keys, h]

theorem keys_lexemes_cons_key {t : List Char} (ht : t ≠ []) (pieces : List (Kind × List Char)) :
    keys (lexemes ((.key, t) :: pieces)) = .ofList t :: keys (lexemes pieces) := by
  simp [lexemes, ht, keys]

/-! ## Blanks within a line -/

theorem isBlank_of_isIndent {c : Char} (h : isIndent c = true) : Text.isBlank c = true := by
  rw [isIndent, Bool.or_eq_true, beq_iff_eq, beq_iff_eq] at h
  rcases h with rfl | rfl
  · decide
  · decide

theorem Indented.newline_notMem {l : List Char} (h : Indented l) : '\n' ∉ l :=
  fun hmem => absurd (h _ hmem Text.isBlank_newline) (by decide)

theorem Indented.dropWhile_isIndent {l : List Char} (h : Indented l) :
    l.dropWhile isIndent = Text.trimStart l := by
  induction l with
  | nil => rfl
  | cons c l ih =>
      rw [Indented, List.forall_mem_cons] at h
      by_cases hc : isIndent c = true
      · rw [List.dropWhile_cons_of_pos hc, Text.trimStart_cons_blank (isBlank_of_isIndent hc),
          ih h.2]
      · have hblank : Text.isBlank c = false := by
          rw [Bool.eq_false_iff]
          exact fun hb => hc (h.1 hb)
        rw [List.dropWhile_cons_of_neg hc, Text.trimStart_cons_of_not_blank hblank]

theorem Indented.trim_eq {l : List Char} (h : Indented l) :
    Text.trim l = Text.trimEnd (l.dropWhile isIndent) := by
  rw [Text.trim, h.dropWhile_isIndent]

/-! ## Lines and the text that they are -/

theorem stop_newline {p : Char → Bool} (hp : p '\n' = false) (m : List Char) :
    ∀ c ∈ ('\n' :: m).head?, p c = false := by
  intro c hc
  rw [List.head?_cons, Option.mem_some_iff] at hc
  rwa [← hc]

/-- A run of a class without the line feed stays within its line. -/
theorem takeWhile_line {p : Char → Bool} (hp : p '\n' = false) (l m : List Char) :
    (l ++ '\n' :: m).takeWhile p = l.takeWhile p :=
  Text.takeWhile_append_of_stop (stop_newline hp m) l

theorem dropWhile_line {p : Char → Bool} (hp : p '\n' = false) (l m : List Char) :
    (l ++ '\n' :: m).dropWhile p = l.dropWhile p ++ '\n' :: m :=
  Text.dropWhile_append_of_stop (stop_newline hp m) l

theorem ne_newline_of_notMem {l : List Char} (h : '\n' ∉ l) : ∀ c ∈ l, (c != '\n') = true := by
  intro c hc
  rw [bne_iff_ne]
  rintro rfl
  exact h hc

/-- All that is left of a line is the line up to its end. -/
theorem takeWhile_ne_newline {l : List Char} (h : '\n' ∉ l) (m : List Char) :
    (l ++ '\n' :: m).takeWhile (· != '\n') = l := by
  rw [takeWhile_line rfl, List.takeWhile_eq_self_iff.2 (ne_newline_of_notMem h)]

theorem dropWhile_ne_newline {l : List Char} (h : '\n' ∉ l) (m : List Char) :
    (l ++ '\n' :: m).dropWhile (· != '\n') = '\n' :: m := by
  rw [dropWhile_line rfl, List.dropWhile_eq_nil_iff.2 (ne_newline_of_notMem h), List.nil_append]

/-- Lines that end with a line feed each are read back, and an empty line after them, which is
    what is left behind the last line feed. -/
theorem splitOn_endedLines {lines : List (List Char)} (h : ∀ l ∈ lines, '\n' ∉ l) :
    (endedLines lines).splitOn '\n' = lines ++ [[]] := by
  induction lines with
  | nil => rfl
  | cons l lines ih =>
      rw [List.forall_mem_cons] at h
      rw [endedLines, List.flatMap_cons, List.append_assoc, List.singleton_append,
        List.splitOn_append_cons_self, List.splitOn_eq_singleton h.1, ← endedLines, ih h.2]
      rfl

theorem endedLines_cons (l : List Char) (lines : List (List Char)) :
    endedLines (l :: lines) = l ++ '\n' :: endedLines lines := by
  rw [endedLines, List.flatMap_cons, List.append_assoc, List.singleton_append, endedLines]

/-- The lines of a text, with the line feeds between them and one at the end. -/
theorem endedLines_splitOn (s : List Char) : endedLines (s.splitOn '\n') = s ++ ['\n'] := by
  have hended : ∀ {lines : List (List Char)}, lines ≠ [] →
      endedLines lines = ['\n'].intercalate lines ++ ['\n'] := by
    intro lines hne
    induction lines with
    | nil => exact absurd rfl hne
    | cons l lines ih =>
        cases lines with
        | nil => simp [endedLines, List.intercalate]
        | cons m lines =>
            rw [endedLines_cons, ih (List.cons_ne_nil _ _)]
            simp [List.intercalate]
  rw [hended (List.splitOn_ne_nil _ _), List.intercalate_splitOn]

/-! ## Closing lines -/

theorem trimEnd_ticks {count : Nat} (hcount : 0 < count) {trail : List Char}
    (htrail : ∀ c ∈ trail, Text.isBlank c = true) :
    Text.trimEnd (List.replicate count '\x60' ++ trail) = List.replicate count '\x60' := by
  cases count with
  | zero => exact absurd hcount (Nat.lt_irrefl 0)
  | succ count =>
      rw [List.replicate_succ', List.append_assoc, List.singleton_append,
        Text.trimEnd_append_cons (by decide), (Text.trimEnd_eq_nil_iff trail).2 htrail]

/-- A line closes a fence if it is the run of the fence, but for the blanks around it. The blanks
    are those that indent, so stripping the line takes off no others. -/
theorem closing?_eq_none_iff {count : Nat} (hcount : 0 < count) {l : List Char} (hl : Indented l) :
    closing? count l = none ↔ stripped l ≠ ticks count := by
  rw [Ne, ticks, stripped, String.ofList_inj, hl.trim_eq, closing?]
  constructor
  · intro h heq
    rcases Text.exists_eq_trimEnd_append (l.dropWhile isIndent) with ⟨trail, hbody, htrail⟩
    rw [heq] at hbody
    -- Behind the indent stands the run, and behind that only blanks.
    have htake : (l.dropWhile isIndent).take count = List.replicate count '\x60' := by
      rw [hbody, List.take_left' List.length_replicate]
    have hdrop : (l.dropWhile isIndent).drop count = trail := by
      rw [hbody, List.drop_left' List.length_replicate]
    have hindent : trail.all isIndent = true := by
      rw [List.all_eq_true]
      refine fun c hc => hl c ((List.dropWhile_suffix isIndent).mem ?_) (htrail c hc)
      rw [hbody]
      exact List.mem_append_right _ hc
    rw [htake, hdrop, hindent] at h
    simp [isFenceChar] at h
  · intro h
    split
    · rename_i hcond
      simp only [Bool.and_eq_true, decide_eq_true_eq, List.all_eq_true] at hcond
      rcases hcond with ⟨⟨hlength, hrun⟩, htrail⟩
      have htake : (l.dropWhile isIndent).take count = List.replicate count '\x60' := by
        rw [eq_replicate_of_isFenceChar hrun, hlength]
      refine absurd ?_ h
      rw [← List.take_append_drop count (l.dropWhile isIndent), htake]
      exact trimEnd_ticks hcount fun c hc => isBlank_of_isIndent (htrail c hc)
    · rfl

/-- The content of a fence for display and the lines behind it, as they are and stripped. The rule
    sees the text behind the last line feed as one more line, and that is empty, so it closes
    nothing. -/
theorem content?_endedLines {count : Nat} (hcount : 0 < count) {lines : List (List Char)}
    (hlines : ∀ l ∈ lines, Indented l) :
    (∀ behind, behind? (ticks count) (lines.map stripped) = some behind →
      ∃ content before after rest,
        content? count (lines ++ [[]]) = some (content, before, after) ∧
        behind = rest.map stripped ∧ (∀ l ∈ rest, Indented l) ∧
        content ++ before ++ List.replicate count '\x60' ++ after ++ '\n' :: endedLines rest =
          endedLines lines) ∧
    (behind? (ticks count) (lines.map stripped) = none →
      content? count (lines ++ [[]]) = none) := by
  induction lines with
  | nil =>
      have hclosing : closing? count [] = none := by
        rw [closing?_eq_none_iff hcount fun _ h => absurd h List.not_mem_nil]
        rw [stripped, ticks, Ne, String.ofList_inj, Text.trim_nil, eq_comm,
          List.replicate_eq_nil_iff]
        omega
      refine ⟨fun _ h => absurd h (Option.some_ne_none _).symm, fun _ => ?_⟩
      rw [List.nil_append]
      unfold content?
      rw [hclosing]
      rfl
  | cons l lines ih =>
      rw [List.forall_mem_cons] at hlines
      have hline := closing?_eq_none_iff hcount hlines.1
      rw [List.map_cons, behind?, List.cons_append]
      unfold content?
      by_cases hrun : stripped l = ticks count
      · -- The fence ends at this line, without content.
        rw [if_pos hrun]
        refine ⟨fun behind h => ?_, fun h => absurd h (Option.some_ne_none _)⟩
        cases hclosing : closing? count l with
        | none => exact absurd hrun (hline.1 hclosing)
        | some ends =>
            refine ⟨[], ends.1, ends.2, lines, rfl, (Option.some.inj h).symm, hlines.2, ?_⟩
            rw [endedLines_cons, List.nil_append, ← eq_of_closing? hclosing]
      · rw [if_neg hrun, hline.2 hrun]
        refine ⟨fun behind h => ?_, fun h => ?_⟩
        · rcases (ih hlines.2).1 behind h with
            ⟨content, before, after, rest, hcontent, hbehind, hindented, hended⟩
          refine ⟨l ++ '\n' :: content, before, after, rest, ?_, hbehind, hindented, ?_⟩
          · rw [hcontent]
            rfl
          · rw [endedLines_cons, ← hended]
            simp only [List.append_assoc, List.cons_append]
        · rw [(ih hlines.2).2 h]
          rfl

/-! ## Fences -/

/-- What a fence for display takes, given what stands behind it: whole lines up to the one that
    closes it, without any key. -/
def TakesFence (s : List Char) (ls : List Lexeme) (behind : List String) : Prop :=
  ∃ rest, behind = rest.map stripped ∧ (∀ l ∈ rest, Indented l) ∧ keys ls = [] ∧
    spelling ls ≠ [] ∧ spelling ls ++ '\n' :: endedLines rest = s

theorem fenced?_endedLines {count : Nat} (hcount : 0 < count) (indent : List Char)
    {run info : List Char}
    (hrun : ∀ c ∈ run, isFenceChar c = true) (hle : count ≤ run.length) (hinfo : '\n' ∉ info)
    {lines : List (List Char)} (hlines : ∀ l ∈ lines, Indented l) :
    (∀ behind, behind? (ticks count) (lines.map stripped) = some behind →
      ∃ ls, fenced? indent run (info ++ '\n' :: endedLines lines) count = some ls ∧
        TakesFence (indent ++ run ++ info ++ '\n' :: endedLines lines) ls behind) ∧
    (behind? (ticks count) (lines.map stripped) = none →
      fenced? indent run (info ++ '\n' :: endedLines lines) count = none) := by
  have hfenced : fenced? indent run (info ++ '\n' :: endedLines lines) count =
      (content? count (lines ++ [[]])).map fun found =>
        lexemes [(.whitespace, indent), (.backtick, run.take count),
          (.label, run.drop count ++ info), (.whitespace, ['\n']), (.doc, found.1),
          (.whitespace, found.2.1), (.backtick, run.take count), (.whitespace, found.2.2)] := by
    rw [fenced?, takeWhile_ne_newline hinfo, dropWhile_ne_newline hinfo]
    dsimp only
    rw [splitOn_endedLines fun l hl => (hlines l hl).newline_notMem]
  have hcontent := content?_endedLines hcount hlines
  rw [hfenced]
  refine ⟨fun behind h => ?_, fun h => by rw [hcontent.2 h, Option.map_none]⟩
  rcases hcontent.1 behind h with
    ⟨content, before, after, rest, hcontent, hrest, hindented, hended⟩
  rw [hcontent]
  refine ⟨_, rfl, rest, hrest, hindented, ?_, ?_, ?_⟩
  · repeat rw [keys_lexemes_cons (by decide)]
    rfl
  · simp
  · have hopened : run.take count = List.replicate count '\x60' := by
      rw [eq_replicate_of_isFenceChar fun c hc => hrun c (List.mem_of_mem_take hc),
        List.length_take_of_le hle]
    -- The backticks beyond the run belong to the label.
    have hsplit : run = List.replicate count '\x60' ++ run.drop count := by
      rw [← hopened, List.take_append_drop]
    rw [← hended, spelling_lexemes, hopened]
    generalize run.drop count = label at hsplit
    rw [hsplit]
    simp only [List.flatMap_cons, List.flatMap_nil, List.append_nil, List.append_assoc,
      List.cons_append, List.nil_append]

/-! ## The start of a line -/

/-- Backticks that a line starts with are there before and after it is stripped. -/
theorem tickCount_stripped {l : List Char} (hl : Indented l) :
    tickCount (stripped l) = ((l.dropWhile isIndent).takeWhile isFenceChar).length := by
  rcases Text.exists_eq_trimEnd_append (l.dropWhile isIndent) with ⟨trail, hbody, htrail⟩
  have hstop : ∀ c ∈ trail.head?, isFenceChar c = false := by
    intro c hc
    have hblank := htrail c (List.mem_of_mem_head? hc)
    rw [Bool.eq_false_iff, Ne, isFenceChar, beq_iff_eq]
    rintro rfl
    exact absurd hblank (by decide)
  rw [tickCount, stripped, String.toList_ofList, hl.trim_eq]
  conv_rhs => rw [hbody, Text.takeWhile_append_of_stop hstop]

/-- The rule for fences, at the start of a line. Whether it applies, and how far it takes the
    text, is said by the lines alone: there is a run of at least three backticks that some later
    line repeats. -/
theorem fenceRule_line {l : List Char} (hl : Indented l) {lines : List (List Char)}
    (hlines : ∀ l ∈ lines, Indented l) :
    (∀ behind, skip? (stripped l) (lines.map stripped) = some behind →
      ∃ ls, fenceRule true (l ++ '\n' :: endedLines lines) = some ls ∧
        TakesFence (l ++ '\n' :: endedLines lines) ls behind) ∧
    (skip? (stripped l) (lines.map stripped) = none →
      fenceRule true (l ++ '\n' :: endedLines lines) = none) := by
  let run := (l.dropWhile isIndent).takeWhile isFenceChar
  let info := (l.dropWhile isIndent).dropWhile isFenceChar
  have hrule : fenceRule true (l ++ '\n' :: endedLines lines) =
      (tickCounts run.length).findSome?
        (fenced? (l.takeWhile isIndent) run (info ++ '\n' :: endedLines lines)) := by
    rw [fenceRule, takeWhile_line rfl, dropWhile_line rfl, takeWhile_line rfl, dropWhile_line rfl,
      if_pos rfl]
    rfl
  have hl' : l.takeWhile isIndent ++ run ++ info = l := by
    rw [List.append_assoc, List.takeWhile_append_dropWhile, List.takeWhile_append_dropWhile]
  have hinfo : '\n' ∉ info := fun hmem => hl.newline_notMem
    ((List.dropWhile_suffix _).mem ((List.dropWhile_suffix _).mem hmem))
  have hcounts : ∀ count ∈ tickCounts run.length, 0 < count ∧ count ≤ run.length := by
    intro count hcount
    rw [mem_tickCounts_iff] at hcount
    omega
  rw [skip?, tickCount_stripped hl, hrule]
  -- Both try the same runs in the same order, so the first that is repeated is the same.
  generalize tickCounts run.length = counts at hcounts
  induction counts with
  | nil => exact ⟨fun _ h => absurd h (Option.some_ne_none _).symm, fun _ => rfl⟩
  | cons count counts ih =>
      rw [List.forall_mem_cons] at hcounts
      have hfirst := fenced?_endedLines hcounts.1.1 (l.takeWhile isIndent)
        (fun c hc => List.mem_takeWhile_imp hc) hcounts.1.2 hinfo hlines
      rw [List.findSome?_cons, List.findSome?_cons]
      cases hbehind : behind? (ticks count) (lines.map stripped) with
      | none =>
          rw [hfirst.2 hbehind]
          exact ih hcounts.2
      | some found =>
          rcases hfirst.1 found hbehind with ⟨ls, hls, htakes⟩
          rw [hl'] at htakes
          rw [hls]
          refine ⟨fun behind h => ⟨ls, rfl, ?_⟩, fun h => absurd h (Option.some_ne_none _)⟩
          rwa [← Option.some.inj h]

end Stencil.Highlight
