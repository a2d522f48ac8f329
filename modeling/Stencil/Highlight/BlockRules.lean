import Stencil.Block.Line
import Stencil.Highlight.Lexeme

/-!
# Lexemes of a Codeblock

The rules by which a codeblock is taken apart for display.

A fence with its content is taken as a whole, from the opening line to the
first later line that repeats its run of backticks, where only spaces and tabs
may stand around a run. Of the backticks that open it, as many as possible are
the run; if no line repeats all of them, fewer are tried, and the rest belongs
to the label. Outside of fences a line is a declaration, if it has the form of
one, or text. A fence that is not closed is text.

## Main definitions

* `fenceRule`: A fence and its content.
* `declarationRule`: A key, a colon and a value.
* `blockRules`: The rules.

## Theorems

* `blockRules_faithful`: The rules give back what they take.
-/

namespace Stencil.Highlight

/-- The blanks within a line: spaces and tabs. -/
def isIndent (c : Char) : Bool :=
  c == ' ' || c == '\t'

/-- The indent and the trailing blanks of a line that closes a fence of `count`
    backticks, if the line does. -/
def closing? (count : Nat) (line : List Char) : Option (List Char × List Char) :=
  let rest := line.dropWhile isIndent
  let run := rest.take count
  let trail := rest.drop count
  if run.length = count && run.all Block.isFenceChar && trail.all isIndent then
    some (line.takeWhile isIndent, trail)
  else none

/-- The lines before the first that closes a fence of `count` backticks, each
    with its line feed, and the indent and the trailing blanks of that line. -/
def content? (count : Nat) : List (List Char) → Option (List Char × List Char × List Char)
  | [] => none
  | line :: lines =>
    match closing? count line with
    | some (indent, trail) => some ([], indent, trail)
    | none => (content? count lines).map fun (content, ends) => (line ++ '\n' :: content, ends)

/-- The lexemes of a fence that is opened by `count` of the backticks `run` and
    goes on with `rest`, if it is closed. -/
def fenced? (indent run rest : List Char) (count : Nat) : Option (List Lexeme) :=
  let opened := run.take count
  let label := run.drop count ++ rest.takeWhile (· != '\n')
  match rest.dropWhile (· != '\n') with
  | [] => none
  | _ :: below =>
    (content? count (below.splitOn '\n')).map fun (content, before, after) =>
      lexemes [(.whitespace, indent), (.backtick, opened), (.label, label),
        (.whitespace, ['\n']), (.doc, content), (.whitespace, before), (.backtick, opened),
        (.whitespace, after)]

/-- A fence and its content, up to the end of the line that closes it. -/
def fenceRule : Rule := fun atLineStart s =>
  let indent := s.takeWhile isIndent
  let run := (s.dropWhile isIndent).takeWhile Block.isFenceChar
  let rest := (s.dropWhile isIndent).dropWhile Block.isFenceChar
  let counts := ((List.range (run.length + 1)).filter (3 ≤ ·)).reverse
  if atLineStart then counts.findSome? (fenced? indent run rest) else none

/-- A key, a colon and a value, up to the end of the line. -/
def declarationRule : Rule := fun atLineStart s =>
  let indent := s.takeWhile isIndent
  let s := s.dropWhile isIndent
  let key := s.takeWhile Block.isKeyChar
  let s := s.dropWhile Block.isKeyChar
  match s.dropWhile isIndent with
  | ':' :: value =>
    if atLineStart && !key.isEmpty then
      some (lexemes [(.whitespace, indent), (.key, key), (.whitespace, s.takeWhile isIndent),
        (.punctuation, [':']), (.whitespace, value.takeWhile isIndent),
        (.string, (value.dropWhile isIndent).takeWhile (· != '\n'))])
    else none
  | _ => none

/-- The rules for codeblocks. -/
def blockRules : List Rule :=
  [fenceRule, declarationRule, .ofRun (· != '\n') .string, .ofChar (· == '\n') .whitespace]

theorem declarationRule_faithful : declarationRule.Faithful := by
  intro _ s ls h
  simp only [declarationRule] at h
  split at h
  · rename_i value hvalue
    split at h
    · cases h
      -- The source is its indent, the key, blanks, the colon and the value.
      have hs : s = s.takeWhile isIndent ++ ((s.dropWhile isIndent).takeWhile Block.isKeyChar ++
          (((s.dropWhile isIndent).dropWhile Block.isKeyChar).takeWhile isIndent ++
            ':' :: (value.takeWhile isIndent ++ value.dropWhile isIndent))) := by
        rw [List.takeWhile_append_dropWhile, ← hvalue, List.takeWhile_append_dropWhile,
          List.takeWhile_append_dropWhile, List.takeWhile_append_dropWhile]
      simp only [spelling_lexemes, List.flatMap_cons, List.flatMap_nil, List.append_nil]
      conv => rhs; rw [hs]
      simp only [List.prefix_append_right_inj, List.cons_append, List.nil_append,
        List.cons_prefix_cons, true_and]
      exact List.takeWhile_prefix _
    · cases h
  · cases h

/-- A line that closes a fence is its indent, the run and its trailing blanks. -/
theorem eq_of_closing? {count : Nat} {line indent trail : List Char}
    (h : closing? count line = some (indent, trail)) :
    line = indent ++ List.replicate count '\x60' ++ trail := by
  simp only [closing?] at h
  split at h
  · rename_i hrun
    cases h
    simp only [Bool.and_eq_true, decide_eq_true_eq] at hrun
    have hrep : (line.dropWhile isIndent).take count = List.replicate count '\x60' := by
      refine List.eq_replicate_iff.2 ⟨hrun.1.1, fun c hc => ?_⟩
      simpa [Block.isFenceChar] using List.all_eq_true.1 hrun.1.2 c hc
    rw [← hrep, List.append_assoc, List.take_append_drop, List.takeWhile_append_dropWhile]
  · cases h

/-- The content of a fence, the line that closes it, and what is left of the
    lines make up the lines. -/
theorem content?_isPrefix {count : Nat} {lines : List (List Char)}
    {content indent trail : List Char} (h : content? count lines = some (content, indent, trail)) :
    content ++ indent ++ List.replicate count '\x60' ++ trail <+: ['\n'].intercalate lines := by
  induction lines generalizing content with
  | nil => cases h
  | cons line lines ih =>
      unfold content? at h
      split at h
      · rename_i hclosing
        cases h
        rw [List.nil_append, ← eq_of_closing? hclosing]
        cases lines with
        | nil => simp [List.intercalate]
        | cons l ls => simp [List.intercalate, List.intersperse]
      · -- The line is content; its line feed is the one that joins it to the next.
        obtain ⟨⟨c, ends⟩, hc, heq⟩ := Option.map_eq_some_iff.1 h
        cases heq
        cases lines with
        | nil => cases hc
        | cons l ls =>
            have hrest := ih hc
            simp only [List.intercalate, List.intersperse, List.flatten_cons, List.append_assoc,
              List.cons_append, List.nil_append] at hrest ⊢
            simpa using hrest

theorem fenced?_isPrefix {indent run rest : List Char} {count : Nat} {ls : List Lexeme}
    (hrun : ∀ c ∈ run, Block.isFenceChar c) (hcount : count ≤ run.length)
    (h : fenced? indent run rest count = some ls) : spelling ls <+: indent ++ run ++ rest := by
  simp only [fenced?] at h
  split at h
  · cases h
  · rename_i c below hbelow
    obtain ⟨⟨content, before, after⟩, hcontent, rfl⟩ := Option.map_eq_some_iff.1 h
    -- What stops the opening line is its line feed.
    have hc : c = '\n' := by
      have := List.head?_dropWhile_not (p := (· != '\n')) rest
      simpa [hbelow] using this
    have hopened : run.take count = List.replicate count '\x60' := by
      refine List.eq_replicate_iff.2 ⟨by simp [hcount], fun c hc => ?_⟩
      simpa [Block.isFenceChar] using hrun c (List.mem_of_mem_take hc)
    have hlines := content?_isPrefix hcontent
    rw [List.intercalate_splitOn] at hlines
    subst hc
    have hrest : rest = rest.takeWhile (· != '\n') ++ ('\n' :: below) := by
      rw [← hbelow, List.takeWhile_append_dropWhile]
    -- Cut the source where the lexemes do, up to the content.
    have hsource : indent ++ run ++ rest =
        indent ++ (run.take count ++ (run.drop count ++ rest.takeWhile (· != '\n') ++
          (['\n'] ++ below))) := by
      conv => lhs; rw [hrest]
      simp only [List.append_assoc, List.singleton_append]
      rw [← List.append_assoc (run.take count), List.take_append_drop]
    rw [hsource]
    simp only [spelling_lexemes, List.flatMap_cons, List.flatMap_nil, List.append_nil,
      List.prefix_append_right_inj]
    rw [hopened]
    simpa using hlines

/-- A fence gives back what it takes. -/
theorem fenceRule_faithful : fenceRule.Faithful := by
  intro _ s ls h
  simp only [fenceRule] at h
  split at h
  · obtain ⟨count, hcount, hls⟩ := List.exists_of_findSome?_eq_some h
    -- No count exceeds the run that stands there.
    have hle : count ≤ ((s.dropWhile isIndent).takeWhile Block.isFenceChar).length := by
      have : count < ((s.dropWhile isIndent).takeWhile Block.isFenceChar).length + 1 := by
        simpa using (List.mem_filter.1 (List.mem_reverse.1 hcount)).1
      omega
    have := fenced?_isPrefix (fun c hc => List.all_eq_true.1 List.all_takeWhile c hc) hle hls
    simpa [List.append_assoc] using this
  · cases h

/-- The rules for codeblocks give back what they take. -/
theorem blockRules_faithful : ∀ rule ∈ blockRules, rule.Faithful := by
  intro rule hrule
  simp only [blockRules, List.mem_cons, List.not_mem_nil, or_false] at hrule
  rcases hrule with rfl | rfl | rfl | rfl
  · exact fenceRule_faithful
  · exact declarationRule_faithful
  · exact Rule.ofRun_faithful _ _
  · exact Rule.ofChar_faithful _ _

end Stencil.Highlight
