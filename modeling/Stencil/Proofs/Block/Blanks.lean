import Stencil.Proofs.Block.Outcome

/-!
# Blanks Around Lines

Which blanks of a text make no difference to the codeblock that it is.

Blanks are taken off more than once: the whole text is stripped before it is
cut into lines, and each line is stripped when it is looked at. The first of
these decides which line is the first one, and so what the line numbers of
failures mean. It could have been left out but for the empty lines at both
ends, which is `strippedLines_strip`: what is left of a text are its stripped
lines from the first that is not empty to the last. So a text may be indented
line by line, its lines may end with a carriage return, and blank lines may
stand above and below it; the outcome of parsing is the same, and with it all
line numbers.

Blank lines inside a text are not among these blanks. They are lines of a
value, or of what a fence holds.

## Theorems

* `strip_unlines_of_blank`: Blank lines at the ends of a text are stripped.
* `outcome_parse_of_strip`, `outcome_parse_of_strippedLines`: What parsing depends on.
* `outcome_parse_blanks`: Blanks around lines and around texts make no difference.
-/

namespace Stencil

namespace Text

/-! ## Blank lines at the ends -/

theorem trim_append_of_blank {s : List Char} (h : ∀ c ∈ s, isBlank c = true) (t : List Char) :
    trim (s ++ t) = trim t := by
  induction s with
  | nil => rfl
  | cons c s ih =>
      rw [List.forall_mem_cons] at h
      rw [List.cons_append, trim_cons_blank h.1, ih h.2]

theorem trim_append_blank {t : List Char} (h : ∀ c ∈ t, isBlank c = true) (s : List Char) :
    trim (s ++ t) = trim s := by
  induction t using List.reverseRecOn with
  | nil => rw [List.append_nil]
  | append_singleton t c ih =>
      have hc : isBlank c = true := h c (by simp)
      have ht : ∀ d ∈ t, isBlank d = true := fun d hd => h d (List.mem_append_left _ hd)
      rw [← List.append_assoc, trim_concat_blank hc, ih ht]

/-- A blank text has blanks only. -/
theorem isBlank_of_strip_eq_empty {s : String} (h : strip s = "") :
    ∀ c ∈ s.toList, isBlank c = true := by
  rw [← trim_eq_nil_iff, ← strip_eq_empty_iff]
  exact h

/-- A blank line above a text is stripped, and so is the line feed after it. -/
theorem strip_blank_above {s : String} (h : strip s = "") (t : String) :
    strip (s ++ "\n" ++ t) = strip t := by
  have hblank : ∀ c ∈ s.toList ++ ['\n'], isBlank c = true := by
    intro c hc
    rcases List.mem_append.1 hc with hc | hc
    · exact isBlank_of_strip_eq_empty h c hc
    · rw [List.mem_singleton.1 hc]
      exact isBlank_newline
  have hlist : (s ++ "\n" ++ t).toList = (s.toList ++ ['\n']) ++ t.toList := by
    simp [String.toList_append]
  rw [← String.toList_inj, toList_strip, toList_strip, hlist, trim_append_of_blank hblank]

/-- A blank line below a text is stripped, and so is the line feed before it. -/
theorem strip_blank_below {t : String} (h : strip t = "") (s : String) :
    strip (s ++ "\n" ++ t) = strip s := by
  have hblank : ∀ c ∈ '\n' :: t.toList, isBlank c = true := by
    rw [List.forall_mem_cons]
    exact ⟨isBlank_newline, isBlank_of_strip_eq_empty h⟩
  have hlist : (s ++ "\n" ++ t).toList = s.toList ++ '\n' :: t.toList := by
    simp [String.toList_append]
  rw [← String.toList_inj, toList_strip, toList_strip, hlist, trim_append_blank hblank]

/-- Blank lines at the ends of a text are stripped, with the line feeds that set them off. -/
theorem strip_unlines_of_blank {before ls after : List String} (hls : ls ≠ [])
    (hbefore : ∀ l ∈ before, strip l = "") (hafter : ∀ l ∈ after, strip l = "") :
    strip (unlines (before ++ ls ++ after)) = strip (unlines ls) := by
  -- The lines below are taken off from the end first, and then those above from the start.
  have hbelow : strip (unlines (ls ++ after)) = strip (unlines ls) := by
    induction after using List.reverseRecOn with
    | nil => rw [List.append_nil]
    | append_singleton after l ih =>
        have hl : strip l = "" := hafter l (by simp)
        have hrest : ∀ m ∈ after, strip m = "" := fun m hm => hafter m (List.mem_append_left _ hm)
        have hne : ls ++ after ≠ [] := List.append_ne_nil_of_left_ne_nil hls after
        have hjoin : unlines (ls ++ after ++ [l]) = unlines (ls ++ after) ++ "\n" ++ l :=
          String.intercalate_append_of_ne_nil hne (List.cons_ne_nil l [])
        rw [← List.append_assoc, hjoin, strip_blank_below hl, ih hrest]
  rw [← hbelow, List.append_assoc]
  clear hbelow
  induction before with
  | nil => rfl
  | cons l before ih =>
      rw [List.forall_mem_cons] at hbefore
      have hne : before ++ (ls ++ after) ≠ [] :=
        List.append_ne_nil_of_right_ne_nil before (List.append_ne_nil_of_left_ne_nil hls after)
      have hjoin : unlines (l :: (before ++ (ls ++ after))) =
          l ++ "\n" ++ unlines (before ++ (ls ++ after)) :=
        String.intercalate_cons_of_ne_nil hne
      rw [List.cons_append, hjoin, strip_blank_above hbefore.1, ih hbefore.2]

/-! ## The same stripped lines -/

/-- Texts with the same stripped lines are blank together, and have the same
    stripped lines when they are stripped as a whole. -/
theorem strip_congr {s t : String} (h : strippedLines s = strippedLines t) :
    (strip s = "" ↔ strip t = "") ∧
      (strip s ≠ "" → strippedLines (strip s) = strippedLines (strip t)) := by
  have hblank : strip s = "" ↔ strip t = "" := by
    rw [strip_eq_empty_iff_forall_lines, strip_eq_empty_iff_forall_lines, h]
  refine ⟨hblank, fun hs => ?_⟩
  have ht : strip t ≠ "" := fun he => hs (hblank.2 he)
  rw [strippedLines_strip hs, strippedLines_strip ht, h]

end Text

namespace Block

variable {one other : String} (debug : Bool)

/-- Parsing looks at the stripped text only. -/
theorem outcome_parse_of_strip (h : Text.strip one = Text.strip other) :
    (parse one debug).outcome = (parse other debug).outcome := by
  rw [Parser.outcome_parse_eq, Parser.outcome_parse_eq, h]

/-- Parsing looks at the stripped lines only. -/
theorem outcome_parse_of_strippedLines (h : Text.strippedLines one = Text.strippedLines other) :
    (parse one debug).outcome = (parse other debug).outcome := by
  rcases Text.strip_congr h with ⟨hblank, hlines⟩
  rw [Parser.outcome_parse_eq, Parser.outcome_parse_eq]
  by_cases hone : Text.strip one = ""
  · rw [if_pos hone, if_pos (hblank.1 hone)]
  · rw [if_neg hone, if_neg (fun hother => hone (hblank.2 hother)), hlines hone]

/-- Blanks around lines make no difference to parsing, nor do blank lines above
    and below a text: properties are the same, and so are failures with their
    line numbers and keys. -/
theorem outcome_parse_blanks :
    (∀ (one other : String) (debug : Bool),
      List.Forall₂ (fun line line' => Text.strip line = Text.strip line')
        (Text.lines one) (Text.lines other) →
      (parse one debug).outcome = (parse other debug).outcome) ∧
    ∀ (text : String) (before after : List String) (debug : Bool),
      (∀ line ∈ before, Text.strip line = "") → (∀ line ∈ after, Text.strip line = "") →
      (parse (Text.unlines (before ++ Text.lines text ++ after)) debug).outcome =
        (parse text debug).outcome := by
  constructor
  · intro one other debug h
    refine outcome_parse_of_strippedLines debug ?_
    rw [Text.strippedLines, Text.strippedLines, ← List.forall₂_eq_eq_eq,
      List.forall₂_map_left_iff, List.forall₂_map_right_iff]
    exact h
  · intro text before after debug hbefore hafter
    refine outcome_parse_of_strip debug ?_
    rw [Text.strip_unlines_of_blank (Text.lines_ne_nil text) hbefore hafter, Text.unlines_lines]

/-- A fence that is left open, in lines with an indentation and carriage returns,
    and between blank lines: it is the same failure on the same lines. -/
theorem outcome_parse_blanks_unclosed :
    let one := "a: 1\r\n\t\x60\x60\x60\r\n\u00a0b: 2"
    let other := "a: 1\n\x60\x60\x60\nb: 2"
    List.Forall₂ (fun line line' => Text.strip line = Text.strip line')
        (Text.lines one) (Text.lines other) ∧
      (parse one false).outcome = .error (.unclosedFence 2 3) ∧
      (parse other false).outcome = .error (.unclosedFence 2 3) ∧
      (parse (Text.unlines (["", "\r"] ++ Text.lines other ++ ["\u3000"])) false).outcome =
        .error (.unclosedFence 2 3) := by
  intro one other
  have hlines : List.Forall₂ (fun line line' => Text.strip line = Text.strip line')
      (Text.lines one) (Text.lines other) := by decide
  have hother : (parse other false).outcome = .error (.unclosedFence 2 3) := by
    rw [Parser.outcome_parse_eq, if_neg (by decide)]
    decide
  refine ⟨hlines, ?_, hother, ?_⟩
  · rw [outcome_parse_blanks.1 one other false hlines]
    exact hother
  · rw [outcome_parse_blanks.2 other ["", "\r"] ["\u3000"] false (by decide) (by decide)]
    exact hother

end Block

end Stencil
