import Stencil.Proofs.Highlight.Closing
import Stencil.Proofs.Highlight.Grammar

/-!
# Fences as a Pattern

The rule for fences as it is written, and that it is the rule.

The pattern has a run of backticks that is given back one by one, a body that is as
short as it can be, and at its end the run once more. A search through it goes, for
each length of the run from the longest down, through the places behind the opening
line. What follows the body has to stand at the start of a line, so within a line
nothing is found, and the search comes from line to line just as `content?` does. The
other parts have one way each that counts, because what follows a run of blanks or
the rest of a line cannot start with their characters.

The pattern is taken from its end on: the run that closes a fence, the line that
does, the content in front of it, what follows the opening run, and the fence.

## Main definitions

* `writtenFence`: The rule for fences, as it is written.
* `fenceForm`: The pattern that it stands for.
* `fencePieces?`, `takenFence?`: The pieces of a fence, for a run and at a place.

## Theorems

* `pattern_writtenFence`: How the pattern is read.
* `first_indented`: A search through the indent of a line.
* `first_closingForm`: A search for the line that closes a fence.
* `scan_content`: A search for the content of a fence goes from line to line.
* `first_openedRun`: A search for a fence with a run that opens it.
* `first_fenceForm`: A search for a fence tries the lengths of the run that opens it.
* `agree_fenceRule`: The pattern finds what the rule takes.
-/

namespace Stencil.Highlight

open Pattern (Cursor)

/-! ## How the rule is written -/

/-- A fence: blanks, at least three backticks, what is left of the line, and behind a
    body a line with the same backticks alone. -/
def writtenFence : WrittenRule :=
  ⟨"^([ \\t]*)(\x60\x7b3,\x7d)([^\\n]*)(\\n)((?s:.*?))^([ \\t]*)(\\2)([ \\t]*)$",
    .groups [.whitespace, .backtick, .label, .whitespace, .doc, .whitespace, .backtick,
      .whitespace]⟩

/-- Spaces and tabs. -/
def indentSet : CharSet :=
  .of [.char ' ', .char '\t']

/-- The end of a line that closes a fence, where its run is what the second group
    captured. -/
def runForm : List Pattern :=
  [.group 7 (.again 2 none), .group 8 (.run indentSet 0 none), .anchor .lineStop]

/-- A line that closes a fence. -/
def closingForm : List Pattern :=
  .anchor .lineStart :: .group 6 (.run indentSet 0 none) :: runForm

/-- The content of a fence, and its end. The content is lazy, so it goes up to the first line that
    closes the fence. -/
def bodyForm : List Pattern :=
  .group 5 (.repeated (.one (.allBut [])) 0 none false) :: closingForm

/-- A fence behind the run that opens it: the label, its line feed, and what stands below. -/
def openedForm : List Pattern :=
  .group 3 (.run Block.lineSet 0 none) :: .group 4 (.char '\n') :: bodyForm

/-- A fence. -/
def fenceForm : Pattern :=
  .inOrder (.anchor .lineStart :: .group 1 (.run indentSet 0 none) ::
    .group 2 (.run (.single '\x60') 3 none) :: openedForm)

theorem pattern_writtenFence : writtenFence.pattern = .ok fenceForm := rfl

/-! ## Characters and places -/

theorem contains_indentSet (c : Char) : indentSet.contains c = isIndent c := by
  simp [indentSet, CharSet.of, CharSet.contains, isIndent, contains_member_char]

theorem contains_all (c : Char) : (CharSet.allBut []).contains c = true := rfl

theorem head_dropWhile_ne_newline (s : List Char) :
    ∀ x ∈ (s.dropWhile (· != '\n')).head?, x = '\n' := by
  intro x hx
  have hhead := List.head?_dropWhile_not (· != '\n') s
  rw [Option.mem_def.1 hx] at hhead
  simpa using hhead

/-- Characters that are no line feeds come next in a text if they do in its line. -/
theorem prefix_append_iff {chars line m : List Char} (hchars : '\n' ∉ chars)
    (hm : ∀ x ∈ m.head?, x = '\n') : chars <+: line ++ m ↔ chars <+: line := by
  constructor
  · intro h
    induction chars generalizing line with
    | nil => exact List.nil_prefix
    | cons c chars ih =>
        rw [List.mem_cons, not_or] at hchars
        cases line with
        | nil =>
            rw [List.nil_append] at h
            rcases h with ⟨rest, rfl⟩
            exact absurd (hm c rfl).symm hchars.1
        | cons d line =>
            rw [List.cons_append, List.cons_prefix_cons] at h
            rw [List.cons_prefix_cons]
            exact ⟨h.1, ih hchars.2 h.2⟩
  · exact fun h => h.trans (List.prefix_append _ _)

section Search

variable {α : Type} {next : Cursor → Option α}

/-! ## The end of a fence -/

theorem isIndent_newline : isIndent '\n' = false := rfl

/-- What is left of a line behind its blanks does not start with one. -/
theorem head_dropWhile_append (line : List Char) {m : List Char} (hm : ∀ x ∈ m.head?, x = '\n') :
    ∀ x ∈ (line.dropWhile isIndent ++ m).head?, indentSet.contains x = false := by
  intro x hx
  rw [contains_indentSet]
  cases hrest : line.dropWhile isIndent with
  | nil =>
      rw [hrest, List.nil_append] at hx
      rw [hm x hx, isIndent_newline]
  | cons y rest =>
      have hhead := List.head?_dropWhile_not isIndent line
      rw [hrest, List.cons_append, List.head?_cons, Option.mem_some_iff] at hx
      rw [hrest, List.head?_cons] at hhead
      rwa [← hx]

/-- A search through the blanks at a place of a line, if what follows cannot start with one. Then
    the longest run of blanks is the only one that counts. -/
theorem first_indent {number : Nat} {c : Cursor} {line m : List Char} (hc : c.rest = line ++ m)
    (hm : ∀ x ∈ m.head?, x = '\n')
    (h : ∀ past x s, isIndent x = true →
      next (Cursor.cover ⟨past, x :: s, c.spans⟩ number c) = none) :
    (Pattern.group number (.run indentSet 0 none)).first c next =
      next ((c.pass (line.takeWhile isIndent)).cover number c) := by
  have hcut : c.rest = line.takeWhile isIndent ++ (line.dropWhile isIndent ++ m) := by
    rw [← List.append_assoc, List.takeWhile_append_dropWhile, hc]
  have hset : ∀ x ∈ line.takeWhile isIndent, indentSet.contains x = true := by
    intro x hx
    rw [contains_indentSet]
    exact List.mem_takeWhile_imp hx
  rw [Pattern.first_group, Pattern.first_run_of_forced hcut hset (head_dropWhile_append line hm),
    if_pos (Nat.zero_le _)]
  intro past x s hx
  rw [contains_indentSet] at hx
  exact h past x s hx

/-- A search from the start of a line through its indent, if what follows cannot start with a
    blank. -/
theorem first_indented {ps : List Pattern} {number : Nat} {c : Cursor} {line m : List Char}
    (hc : c.rest = line ++ m) (hm : ∀ x ∈ m.head?, x = '\n')
    (h : ∀ past x s, isIndent x = true →
      (Pattern.inOrder ps).first (Cursor.cover ⟨past, x :: s, c.spans⟩ number c) next = none) :
    (Pattern.inOrder (.anchor .lineStart :: .group number (.run indentSet 0 none) :: ps)).first
        c next =
      if startsLine c.past = true then
        (Pattern.inOrder ps).first ((c.pass (line.takeWhile isIndent)).cover number c) next
      else none := by
  have hplace : ∀ later : Cursor → Option α, (Pattern.anchor .lineStart).first c later =
      if startsLine c.past = true then later c else none := fun _ => rfl
  rw [Pattern.first_inOrder_cons, hplace, Pattern.first_inOrder_cons, first_indent hc hm h]

/-- A search for blanks up to the end of a line. It finds them if nothing else is left of the
    line. -/
theorem first_trail {number : Nat} {c : Cursor} {trail m : List Char} (hc : c.rest = trail ++ m)
    (htrail : '\n' ∉ trail) (hm : ∀ x ∈ m.head?, x = '\n') :
    (Pattern.inOrder [.group number (.run indentSet 0 none), .anchor .lineStop]).first c next =
      if trail.all isIndent = true then next ((c.pass trail).cover number c) else none := by
  have hstop : ∀ d : Cursor, (Pattern.inOrder [.anchor .lineStop]).first d next =
      if d.rest.head?.all (· == '\n') = true then next d else none := fun _ => rfl
  rw [Pattern.first_inOrder_cons, first_indent hc hm, hstop]
  · have hrest : ((c.pass (trail.takeWhile isIndent)).cover number c).rest =
        trail.dropWhile isIndent ++ m := by
      refine Cursor.rest_pass ?_
      rw [← List.append_assoc, List.takeWhile_append_dropWhile, hc]
    rw [hrest]
    by_cases hall : trail.all isIndent = true
    · have hblank := List.all_eq_true.1 hall
      rw [if_pos hall, List.takeWhile_eq_self_iff.2 hblank, List.dropWhile_eq_nil_iff.2 hblank,
        List.nil_append, if_pos]
      cases hhead : m.head? with
      | none => rfl
      | some x =>
          rw [hm x hhead]
          rfl
    · -- Something is left of the line, and it is no line feed.
      rw [if_neg hall, if_neg]
      cases hleft : trail.dropWhile isIndent with
      | nil => exact absurd (List.all_eq_true.2 (List.dropWhile_eq_nil_iff.1 hleft)) hall
      | cons x left =>
          have hmem : x ∈ trail := (List.dropWhile_suffix isIndent).mem (by simp [hleft])
          have hne : x ≠ '\n' := fun heq => htrail (heq ▸ hmem)
          simpa using hne
  · -- The end of the line is no blank that indents.
    intro past x s hx
    have hne : x ≠ '\n' := fun heq => absurd (heq ▸ hx) (by decide)
    rw [hstop, if_neg]
    simpa [Cursor.cover] using hne

section Closing

variable {count : Nat} {c : Cursor} {span : Pattern.Span} {line m : List Char}

/-- A search for the run of a fence passes it if it comes next. -/
theorem first_again_run (hspan : c.span? 2 = some span)
    (htext : span.text = List.replicate count '\x60') :
    (Pattern.inOrder runForm).first c next =
      if List.replicate count '\x60' <+: c.rest then
        (Pattern.inOrder runForm.tail).first
          ((c.pass (List.replicate count '\x60')).cover 7 c) next
      else none := by
  rw [runForm, Pattern.first_inOrder_cons, Pattern.first_group, Pattern.first_again hspan, htext,
    List.tail_cons]

/-- A search for the run of a fence up to the end of a line. The run is referred to by the number
    of the group that opened the fence, so all that is known of it is what that group covers. -/
theorem first_runForm (hspan : c.span? 2 = some span)
    (htext : span.text = List.replicate count '\x60') (hc : c.rest = line ++ m)
    (hline : '\n' ∉ line) (hm : ∀ x ∈ m.head?, x = '\n') :
    (Pattern.inOrder runForm).first c next =
      if List.replicate count '\x60' <+: line ∧ (line.drop count).all isIndent = true then
        next (c.close 6 [List.replicate count '\x60', line.drop count])
      else none := by
  have hticks : '\n' ∉ List.replicate count '\x60' := by
    intro hmem
    exact absurd (List.eq_of_mem_replicate hmem) (by decide)
  -- The run holds no line feed, so it comes next in the text if it does in the line.
  have hstarts : List.replicate count '\x60' <+: c.rest ↔ List.replicate count '\x60' <+: line := by
    rw [hc, prefix_append_iff hticks hm]
  rw [first_again_run hspan htext]
  -- The run comes next or it does not; and behind it only blanks are left of the line, or more.
  by_cases hrun : List.replicate count '\x60' <+: line
  · obtain ⟨trail, rfl⟩ := id hrun
    have hdrop : (List.replicate count '\x60' ++ trail).drop count = trail :=
      List.drop_left' List.length_replicate
    have hleft : ((c.pass (List.replicate count '\x60')).cover 7 c).rest = trail ++ m := by
      refine Cursor.rest_pass ?_
      rw [hc, List.append_assoc]
    have htrail : '\n' ∉ trail := fun hmem => hline (List.mem_append_right _ hmem)
    rw [if_pos (hstarts.2 hrun), hdrop]
    refine (first_trail hleft htrail hm).trans ?_
    by_cases hall : trail.all isIndent = true
    · rw [if_pos hall, if_pos ⟨hrun, hall⟩]
      rfl
    · rw [if_neg hall, if_neg fun h => hall h.2]
  · rw [if_neg fun h => hrun (hstarts.1 h), if_neg fun h => hrun h.1]

/-- A search for the end of a fence finds the line that closes it, and nothing else. Of the indent
    there is one length that counts, and the run has the length of the one that opened the fence. -/
theorem first_closingForm (hcount : 0 < count) (hspan : c.span? 2 = some span)
    (htext : span.text = List.replicate count '\x60') (hc : c.rest = line ++ m)
    (hline : '\n' ∉ line) (hm : ∀ x ∈ m.head?, x = '\n') :
    (Pattern.inOrder closingForm).first c next =
      if startsLine c.past = true then
        (closing? count line).bind fun ends =>
          next (c.close 5 [ends.1, List.replicate count '\x60', ends.2])
      else none := by
  have hrest : ((c.pass (line.takeWhile isIndent)).cover 6 c).rest =
      line.dropWhile isIndent ++ m := by
    refine Cursor.rest_pass ?_
    rw [← List.append_assoc, List.takeWhile_append_dropWhile, hc]
  have hnewline : '\n' ∉ line.dropWhile isIndent :=
    fun hmem => hline ((List.dropWhile_suffix _).mem hmem)
  have hspan' : ((c.pass (line.takeWhile isIndent)).cover 6 c).span? 2 = some span := hspan
  rw [closingForm, first_indented hc hm, first_runForm hspan' htext hrest hnewline hm, closing?_eq]
  · split
    · split
      · rfl
      · rfl
    · rfl
  · -- The run does not start with a blank.
    intro past x s hx
    have hplain : (Cursor.cover ⟨past, x :: s, c.spans⟩ 6 c).span? 2 = some span := hspan
    rw [first_again_run hplain htext, if_neg]
    intro hstarts
    rcases count with _ | count
    · exact absurd hcount (Nat.lt_irrefl 0)
    · have htick : '\x60' = x := (List.cons_prefix_cons.1 hstarts).1
      exact absurd (htick ▸ hx) (by decide)

end Closing

/-! ## The content of a fence -/

/-- Within a line no line starts. -/
theorem startsLine_within {line : List Char} (hline : '\n' ∉ line) (hne : line ≠ [])
    (past : List Char) : startsLine (line.reverse ++ past) = false := by
  rw [startsLine_reverse_append hne, endsLine, beq_eq_false_iff_ne]
  intro hlast
  exact hline (List.mem_of_getLast? hlast)

/-- Lines in a text are the first of them and, if there are more, a line feed and the others. -/
theorem exists_intercalate_cons (line : List Char) (lines : List (List Char)) :
    ∃ m, ['\n'].intercalate (line :: lines) = line ++ m ∧ (∀ x ∈ m.head?, x = '\n') ∧
      (lines = [] ∧ m = [] ∨ lines ≠ [] ∧ m = '\n' :: ['\n'].intercalate lines) := by
  cases lines with
  | nil => exact ⟨[], by simp, by simp, .inl ⟨rfl, rfl⟩⟩
  | cons l lines =>
      refine ⟨'\n' :: ['\n'].intercalate (l :: lines), ?_, by simp,
        .inr ⟨List.cons_ne_nil _ _, rfl⟩⟩
      rw [List.intercalate_cons_cons, List.append_assoc, List.singleton_append]

/-- A scan from the start of a line goes from line to line, if what is looked for is a line that
    closes a fence. It is lazy, so it comes to the first of them, and within a line it finds
    nothing, as what is looked for starts a line. -/
theorem scan_content {count : Nat} {spans : List (Nat × Pattern.Span)}
    {found : (past rest : List Char) → List Char × List Char → α}
    (h : ∀ past line m, '\n' ∉ line → (∀ x ∈ m.head?, x = '\n') →
      next ⟨past, line ++ m, spans⟩ =
        if startsLine past = true then (closing? count line).map (found past (line ++ m))
        else none)
    {lines : List (List Char)} (hne : lines ≠ []) (hlines : ∀ l ∈ lines, '\n' ∉ l)
    {past : List Char} (hpast : startsLine past = true) :
    Pattern.scan (.allBut []) spans next past (['\n'].intercalate lines) =
      (content? count lines).map fun ends =>
        found (ends.1.reverse ++ past) ((['\n'].intercalate lines).drop ends.1.length) ends.2 := by
  induction lines generalizing past with
  | nil => exact absurd rfl hne
  | cons line lines ih =>
      rw [List.forall_mem_cons] at hlines
      -- The line, and perhaps a line feed and further lines.
      rcases exists_intercalate_cons line lines with ⟨m, hjoin, hm, hmore⟩
      unfold content?
      rw [hjoin]
      cases hclosing : closing? count line with
      | some ends =>
          have hhere := h past line m hlines.1 hm
          rw [if_pos hpast, hclosing] at hhere
          exact Pattern.scan_of_some hhere
      | none =>
          have hwithin : ∀ one other, line = one ++ other →
              next ⟨one.reverse ++ past, other ++ m, spans⟩ = none := by
            rintro one other rfl
            rw [List.mem_append, not_or] at hlines
            rw [h _ other m hlines.1.2 hm]
            by_cases hone : one = []
            · rw [hone, List.nil_append] at hclosing
              rw [hclosing, Option.map_none, ite_self]
            · rw [startsLine_within hlines.1.1 hone, if_neg Bool.false_ne_true]
          -- Neither does the line feed at its end start one, so the scan comes to the next line.
          have hend := hwithin line [] (List.append_nil line).symm
          rw [List.nil_append] at hend
          rw [Pattern.scan_append (fun x _ => contains_all x) fun one other heq _ =>
            hwithin one other heq]
          rcases hmore with ⟨rfl, rfl⟩ | ⟨hmore, rfl⟩
          · exact hend
          · have hpast' : startsLine ('\n' :: (line.reverse ++ past)) = true := rfl
            rw [Pattern.scan, hend, Option.none_or, if_pos (contains_all _),
              ih hmore hlines.2 hpast', Option.map_map]
            congr 1
            funext ends
            simp

/-- A search through what is left of a line, if what follows starts with none of it. Of all
    lengths only the longest can go on, which is behind the whole line. -/
theorem first_lineGroup {number : Nat} {c : Cursor} {line m : List Char} (hc : c.rest = line ++ m)
    (hline : '\n' ∉ line) (hm : ∀ x ∈ m.head?, x = '\n')
    (h : ∀ past x s, x ≠ '\n' → next (Cursor.cover ⟨past, x :: s, c.spans⟩ number c) = none) :
    (Pattern.group number (.run Block.lineSet 0 none)).first c next =
      next ((c.pass line).cover number c) := by
  have hset : ∀ x ∈ line, Block.lineSet.contains x = true := by
    intro x hx
    rw [Block.contains_lineSet]
    rintro rfl
    exact hline hx
  have hstop : ∀ x ∈ m.head?, Block.lineSet.contains x = false := by
    intro x hx
    rw [← Bool.not_eq_true, Block.contains_lineSet, hm x hx]
    exact fun hne => hne rfl
  rw [Pattern.first_group, Pattern.first_run_of_forced hc hset hstop, if_pos (Nat.zero_le _)]
  exact fun past x s hx => h past x s ((Block.contains_lineSet x).1 hx)

/-- The pieces of a fence behind the run that opens it, the label first, if the opening line is
    followed by others and one of them closes the fence. -/
def openedPieces? (count : Nat) (ticks label : List Char) :
    List Char → Option (List (List Char))
  | [] => none
  | _ :: below => (content? count (below.splitOn '\n')).map fun ends =>
    [label, ['\n'], ends.1, ends.2.1, ticks, ends.2.2]

section Opened

variable {count : Nat} {c : Cursor} {span : Pattern.Span}

/-- A search for the content of a fence and its end, from the start of a line. How the lazy run of
    the content searches is the scan from above, and what it asks at each place is whether a line
    closes the fence there. -/
theorem first_bodyForm (hcount : 0 < count) (hspan : c.span? 2 = some span)
    (htext : span.text = List.replicate count '\x60') (hpast : startsLine c.past = true)
    (found : Cursor → α) :
    ((Pattern.inOrder bodyForm).first c fun d => some (found d)) =
      (content? count (c.rest.splitOn '\n')).map fun ends =>
        found (c.close 4 [ends.1, ends.2.1, List.replicate count '\x60', ends.2.2]) := by
  -- What is looked for at each place behind the opening line, and what is found there.
  let asked : Cursor → Option α := fun d =>
    (Pattern.inOrder closingForm).first (d.cover 5 c) fun e => some (found e)
  let reached : List Char → List Char → List Char × List Char → α := fun past rest ends =>
    found ((Cursor.cover ⟨past, rest, c.spans⟩ 5 c).close 5
      [ends.1, List.replicate count '\x60', ends.2])
  have hscan : ((Pattern.inOrder bodyForm).first c fun d => some (found d)) =
      Pattern.scan (.allBut []) c.spans asked c.past c.rest :=
    (Pattern.first_inOrder_cons _ _ _).trans (Pattern.first_lazy (.allBut []) c)
  have hasked : ∀ past line m, '\n' ∉ line → (∀ x ∈ m.head?, x = '\n') →
      asked ⟨past, line ++ m, c.spans⟩ =
        if startsLine past = true then (closing? count line).map (reached past (line ++ m))
        else none := by
    intro past line m hline hm
    have hspan' : (Cursor.cover ⟨past, line ++ m, c.spans⟩ 5 c).span? 2 = some span := hspan
    refine (first_closingForm hcount hspan' htext rfl hline hm).trans ?_
    cases closing? count line <;> rfl
  have hlines : ∀ l ∈ c.rest.splitOn '\n', '\n' ∉ l :=
    fun _ hl => Text.notMem_of_mem_splitOn hl
  have hcontent := scan_content hasked (List.splitOn_ne_nil '\n' c.rest) hlines hpast
  rw [List.intercalate_splitOn] at hcontent
  rw [hscan, hcontent]
  rfl

/-- What a fence takes behind the run that opens it: the rest of the line, the line feed, the
    content, and the line that closes it. -/
theorem first_openedForm (hcount : 0 < count) (hspan : c.span? 2 = some span)
    (htext : span.text = List.replicate count '\x60') {label m : List Char}
    (hc : c.rest = label ++ m) (hlabel : '\n' ∉ label) (hm : ∀ x ∈ m.head?, x = '\n')
    (found : Cursor → α) :
    ((Pattern.inOrder openedForm).first c fun d => some (found d)) =
      (openedPieces? count (List.replicate count '\x60') label m).map fun ts =>
        found (c.close 2 ts) := by
  have hnewline : ∀ d : Cursor,
      ((Pattern.inOrder (.group 4 (.char '\n') :: bodyForm)).first d fun e => some (found e)) =
        if d.rest.head? = some '\n' then
          (Pattern.inOrder bodyForm).first ((d.pass ['\n']).cover 4 d) fun e => some (found e)
        else none :=
    fun d => (Pattern.first_inOrder_cons _ _ _).trans (Pattern.first_char '\n' d)
  have hrest : ((c.pass label).cover 3 c).rest = m := Cursor.rest_pass hc
  rw [openedForm, Pattern.first_inOrder_cons, first_lineGroup hc hlabel hm, hnewline, hrest]
  · -- Behind the label there is the end of the text, and no fence, or the lines below.
    cases m with
    | nil => rfl
    | cons x below =>
        obtain rfl : x = '\n' := hm x rfl
        let d := (c.pass label).cover 3 c
        have hspan' : ((d.pass ['\n']).cover 4 d).span? 2 = some span := hspan
        have hbelow : ((d.pass ['\n']).cover 4 d).rest = below := Cursor.rest_pass hrest
        rw [List.head?_cons, if_pos rfl, first_bodyForm hcount hspan' htext rfl, hbelow,
          openedPieces?, Option.map_map]
        rfl
  · intro past x s hx
    rw [hnewline, if_neg]
    simpa [Cursor.cover] using hx

end Opened

/-- The label of a fence is on one line. -/
theorem newline_notMem_label {run rest : List Char} {count : Nat}
    (hrun : ∀ c ∈ run, Block.isFenceChar c = true) :
    '\n' ∉ run.drop count ++ rest.takeWhile (· != '\n') := by
  rw [List.mem_append, not_or]
  constructor
  · intro hmem
    exact absurd (hrun _ (List.mem_of_mem_drop hmem)) (by decide)
  · intro hmem
    exact absurd (List.mem_takeWhile_imp hmem) (by decide)

/-- A search for the backticks that open a fence tries how many they are. -/
theorem first_ticks (c : Cursor) (found : Cursor → α) :
    ((Pattern.inOrder (.group 2 (.run (.single '\x60') 3 none) :: openedForm)).first c
        fun d => some (found d)) =
      (Pattern.counts 3 (c.rest.takeWhile Block.isFenceChar).length).findSome? fun count =>
        (Pattern.inOrder openedForm).first ((c.pass (c.rest.take count)).cover 2 c)
          fun d => some (found d) := by
  have hticks : (CharSet.single '\x60').contains = Block.isFenceChar :=
    funext Block.contains_tick
  rw [Pattern.first_inOrder_cons, Pattern.first_group, Pattern.first_run_eq_findSome?, hticks]

/-- A search for a fence that is opened by so many of the backticks that come next; the others go
    to the label. The run that closes it must be as long as what was tried, and not as long as
    what is there. -/
theorem first_openedRun {c : Cursor} {run rest : List Char} {count : Nat}
    (hc : c.rest = run ++ rest) (hrun : ∀ x ∈ run, Block.isFenceChar x = true)
    (hcount : 3 ≤ count ∧ count ≤ run.length) (found : Cursor → α) :
    ((Pattern.inOrder openedForm).first ((c.pass (c.rest.take count)).cover 2 c)
        fun d => some (found d)) =
      (openedPieces? count (run.take count) (run.drop count ++ rest.takeWhile (· != '\n'))
        (rest.dropWhile (· != '\n'))).map fun ts => found (c.close 1 (run.take count :: ts)) := by
  have htake : c.rest.take count = run.take count := by
    rw [hc, List.take_append_of_le_length hcount.2]
  have hticks : run.take count = List.replicate count '\x60' := by
    rw [eq_replicate_of_isFenceChar fun x hx => hrun x (List.mem_of_mem_take hx),
      List.length_take_of_le hcount.2]
  -- What the backticks that are tried leave of the line, and what is behind it.
  have hcut : c.rest = run.take count ++
      ((run.drop count ++ rest.takeWhile (· != '\n')) ++ rest.dropWhile (· != '\n')) := by
    rw [List.append_assoc, List.takeWhile_append_dropWhile, ← List.append_assoc,
      List.take_append_drop, hc]
  have hopened : ((c.pass (run.take count)).cover 2 c).rest = _ := Cursor.rest_pass hcut
  let span : Pattern.Span := ⟨c.rest, ((c.pass (run.take count)).cover 2 c).rest⟩
  have hspan : ((c.pass (run.take count)).cover 2 c).span? 2 = some span := rfl
  have htext : span.text = List.replicate count '\x60' := by
    show Pattern.before c.rest ((c.pass (run.take count)).cover 2 c).rest = _
    rw [hopened, hcut, Pattern.before_append_self, hticks]
  rw [htake, first_openedForm (by omega) hspan htext hopened (newline_notMem_label hrun)
    (head_dropWhile_ne_newline rest), ← hticks]
  rfl

/-! ## Fences -/

/-- The pieces of a fence that is opened by so many of some backticks. -/
def fencePieces? (indent run rest : List Char) (count : Nat) : Option (List (List Char)) :=
  (openedPieces? count (run.take count) (run.drop count ++ rest.takeWhile (· != '\n'))
    (rest.dropWhile (· != '\n'))).map fun ts => indent :: run.take count :: ts

/-- A search for a fence tries the lengths of the run that opens it, the longest first. A shorter
    run is tried only when no later line repeats a longer one. -/
theorem first_fenceForm (past s : List Char) (found : Cursor → α) :
    (fenceForm.first ⟨past, s, []⟩ fun d => some (found d)) =
      if startsLine past = true then
        (Pattern.counts 3 ((s.dropWhile isIndent).takeWhile Block.isFenceChar).length).findSome?
          fun count => (fencePieces? (s.takeWhile isIndent)
            ((s.dropWhile isIndent).takeWhile Block.isFenceChar)
            ((s.dropWhile isIndent).dropWhile Block.isFenceChar) count).map fun ts =>
              found (Cursor.close 0 ⟨past, s, []⟩ ts)
      else none := by
  let c : Cursor := ⟨past, s, []⟩
  let indent := s.takeWhile isIndent
  let run := (s.dropWhile isIndent).takeWhile Block.isFenceChar
  let rest := (s.dropWhile isIndent).dropWhile Block.isFenceChar
  let d := (c.pass indent).cover 1 c
  have hc : c.rest = s ++ [] := (List.append_nil s).symm
  have hd : d.rest = run ++ rest := by
    refine (Cursor.rest_pass ?_).trans List.takeWhile_append_dropWhile.symm
    exact List.takeWhile_append_dropWhile.symm
  have hdrun : d.rest.takeWhile Block.isFenceChar = run := by
    rw [hd, List.takeWhile_append_dropWhile]
  -- Which run is tried does not change what comes after it in the line and below.
  have hcounts : (Pattern.counts 3 (d.rest.takeWhile Block.isFenceChar).length).findSome?
      (fun count => (Pattern.inOrder openedForm).first ((d.pass (d.rest.take count)).cover 2 d)
        fun e => some (found e)) =
      (Pattern.counts 3 run.length).findSome? fun count =>
        (fencePieces? indent run rest count).map fun ts => found (c.close 0 ts) := by
    rw [hdrun]
    refine Pattern.findSome?_congr fun count hcount => ?_
    rw [Pattern.mem_counts_iff] at hcount
    rw [first_openedRun hd (fun x hx => List.mem_takeWhile_imp hx) hcount, fencePieces?,
      Option.map_map]
    rfl
  rw [fenceForm, first_indented hc (by simp), first_ticks]
  · exact congrArg (fun found => if startsLine past = true then found else none) hcounts
  · -- The run does not start with a blank.
    intro past x t hx
    have hne : Block.isFenceChar x = false := by
      rw [isIndent, Bool.or_eq_true, beq_iff_eq, beq_iff_eq] at hx
      rcases hx with rfl | rfl
      · rfl
      · rfl
    rw [first_ticks]
    show (Pattern.counts 3 ((x :: t).takeWhile Block.isFenceChar).length).findSome? _ = none
    rw [List.takeWhile_cons_of_neg (by simp [hne]), List.length_nil,
      Pattern.counts_eq_nil (by omega), List.findSome?_nil]

end Search

/-- The kinds of the pieces of a fence. -/
def fenceKinds : List Kind :=
  [.whitespace, .backtick, .label, .whitespace, .doc, .whitespace, .backtick, .whitespace]

theorem fenced?_eq (indent run rest : List Char) (count : Nat) :
    fenced? indent run rest count =
      (fencePieces? indent run rest count).map fun ts => lexemes (fenceKinds.zip ts) := by
  unfold fenced? fencePieces? openedPieces?
  cases rest.dropWhile (· != '\n') with
  | nil => rfl
  | cons x below =>
      rw [Option.map_map, Option.map_map]
      rfl

theorem length_of_fencePieces? {indent run rest : List Char} {count : Nat}
    {ts : List (List Char)} (h : fencePieces? indent run rest count = some ts) :
    ts.length = fenceKinds.length := by
  rcases Option.map_eq_some_iff.1 h with ⟨later, hlater, rfl⟩
  unfold openedPieces? at hlater
  split at hlater
  · cases hlater
  · rcases Option.map_eq_some_iff.1 hlater with ⟨ends, -, rfl⟩
    rfl

/-- The pieces of the fence that starts at a place, with the longest run that some later line
    repeats. -/
def takenFence? (atLineStart : Bool) (s : List Char) : Option (List (List Char)) :=
  let run := (s.dropWhile isIndent).takeWhile Block.isFenceChar
  if atLineStart then
    (Pattern.counts 3 run.length).findSome?
      (fencePieces? (s.takeWhile isIndent) run ((s.dropWhile isIndent).dropWhile Block.isFenceChar))
  else none

/-- The pieces of a fence are those for as many as possible of the backticks, three at least,
    that a line starts with behind its indent. -/
theorem exists_of_takenFence? {atLineStart : Bool} {s : List Char} {ts : List (List Char)}
    (h : takenFence? atLineStart s = some ts) :
    atLineStart = true ∧ ∃ indent run rest count, s = indent ++ (run ++ rest) ∧
      (∀ c ∈ indent, isIndent c = true) ∧ (∀ c ∈ run, Block.isFenceChar c = true) ∧
      (∀ c ∈ rest.head?, Block.isFenceChar c = false) ∧ 3 ≤ count ∧ count ≤ run.length ∧
      fencePieces? indent run rest count = some ts ∧
      ∀ more, count < more → more ≤ run.length → fencePieces? indent run rest more = none := by
  unfold takenFence? at h
  split at h
  · rename_i hplace
    rcases Pattern.exists_of_findSome?_counts h with ⟨count, hleast, hmost, hpieces, hmore⟩
    refine ⟨hplace, _, _, _, count, ?_, fun c hc => List.mem_takeWhile_imp hc,
      fun c hc => List.mem_takeWhile_imp hc, fun c hc => ?_, hleast, hmost, hpieces, hmore⟩
    · rw [List.takeWhile_append_dropWhile, List.takeWhile_append_dropWhile]
    · have hhead := List.head?_dropWhile_not Block.isFenceChar (s.dropWhile isIndent)
      rw [Option.mem_def.1 hc] at hhead
      exact hhead
  · cases h

theorem length_of_takenFence? {atLineStart : Bool} {s : List Char} {ts : List (List Char)}
    (h : takenFence? atLineStart s = some ts) : ts.length = fenceKinds.length := by
  rcases exists_of_takenFence? h with
    ⟨-, indent, run, rest, count, -, -, -, -, -, -, hpieces, -⟩
  exact length_of_fencePieces? hpieces

theorem fenceRule_eq (atLineStart : Bool) (s : List Char) :
    fenceRule atLineStart s =
      (takenFence? atLineStart s).map fun ts => lexemes (fenceKinds.zip ts) := by
  cases atLineStart with
  | false => rfl
  | true =>
      show (Pattern.counts 3 _).findSome? (fenced? _ _ _) = (List.findSome? _ _).map _
      rw [List.map_findSome?, funext (fenced?_eq _ _ _)]
      rfl

/-- The pattern for fences finds what the rule for fences takes. -/
theorem agree_fenceRule : Agree [fenceRule] [writtenFence] := by
  refine agree_of_pieces pattern_writtenFence rfl rfl fenceRule_eq fenceRule_faithful
    (fun _ _ _ => length_of_takenFence?) fun past s found => ?_
  rw [first_fenceForm, takenFence?]
  split
  · rw [List.map_findSome?]
    rfl
  · rfl

end Stencil.Highlight
