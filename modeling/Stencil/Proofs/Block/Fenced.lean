import Stencil.Proofs.Block.Blanks
import Stencil.Proofs.Block.Joined

/-!
# What a Fence Holds

What the lines inside a fence can change, and what they cannot.

While a fence is open only one line means anything, the run that opened it.
All others continue the value, whatever they look like outside: declarations,
fences with another run, and the run with a word behind it. Two things follow,
one for a fence that is closed and one for a fence that is not.

The lines in a closed fence can be exchanged for others. Then the value that
the fence stands in has the other lines, and that is all: the same properties
come before and after it, and a source that is refused is refused for the same
reason, with later lines of a failure moved by as many as there are more. To
say which value it is, no scan of the source is needed. The parser that has
taken the lines above the fence knows it: it is the one that is growing, and
`gather_of_takeLines` says what becomes of it under any lines that follow.

A fence that is left open is reported with the line that opened it, and this
line is enough to repair the source. Its run, on a line of its own below the
source, ends the fence and leaves nothing but repeated keys to refuse; any
other line below the source is one more line in the same fence.

## Theorems

* `gather_of_takeLines`: What the lines above come to, whatever follows.
* `verdict_fence`, `verdict_exchange`: How parsing ends if there is a fence.
* `outcome_parse_content`: The content of a fence makes no difference outside of it.
* `outcome_parse_unclosed_continued`: What lines below an open fence do.
-/

namespace Stencil

namespace Text

/-! ## Lines that were joined -/

theorem strippedLines_unlines {ls : List String} (hne : ls ≠ [])
    (hfree : ∀ l ∈ ls, '\n' ∉ l.toList) : strippedLines (unlines ls) = ls.map strip := by
  rw [strippedLines, lines_unlines hne hfree]

/-- Lines below a text follow its lines. -/
theorem strippedLines_below {s : String} {ls : List String} (hfree : ∀ l ∈ ls, '\n' ∉ l.toList) :
    strippedLines (unlines (s :: ls)) = strippedLines s ++ ls.map strip := by
  rw [strippedLines, lines_unlines_eq_flatMap (List.cons_ne_nil s ls), List.flatMap_cons,
    List.map_append, strippedLines]
  have hlines : ls.flatMap lines = ls := by
    cases ls with
    | nil => rfl
    | cons l ls =>
        have hne : l :: ls ≠ [] := List.cons_ne_nil l ls
        rw [← lines_unlines_eq_flatMap hne, lines_unlines hne hfree]
  rw [hlines]

theorem notMem_map_strip {run : String} {ls : List String} (h : ∀ l ∈ ls, strip l ≠ run) :
    run ∉ ls.map strip := by
  rw [List.mem_map]
  rintro ⟨l, hl, hrun⟩
  exact h l hl hrun

/-- Below a stripped text only blank lines at the very end are stripped. So the lines of the text
    keep their numbers, whatever is written below it. -/
theorem strippedLines_strip_below {s : String} {ls : List String} (hs : strip s = s) (hne : s ≠ "")
    (hfree : ∀ l ∈ ls, '\n' ∉ l.toList) (hlast : (ls.map strip).getLast? ≠ some "") :
    strippedLines (strip (unlines (s :: ls))) = strippedLines s ++ ls.map strip := by
  have hends := ends_strippedLines_strip (s := s) (by rwa [hs])
  rw [hs] at hends
  rw [← strippedLines_below hfree]
  apply strippedLines_strip_eq_self
  · rw [strippedLines_below hfree, List.head?_append_of_ne_nil _ (strippedLines_ne_nil s)]
    exact hends.1
  · rw [strippedLines_below hfree]
    by_cases hnil : ls.map strip = []
    · rw [hnil, List.append_nil]
      exact hends.2
    · rw [List.getLast?_append_of_ne_nil _ hnil]
      exact hlast

end Text

namespace Block

/-! ## The lines above -/

namespace Parser

/-- If a fresh parser takes lines and has a property growing after them, the
    first line declares, and the properties there will be are told by what it
    has finished and what is growing. -/
theorem gather_of_takeLines {p₀ p : Parser} {before : List String} {draft : Draft}
    (hfresh : Fresh p₀) (h : (p₀.run (takeLines 1 before)).value = (.ok (), p))
    (hdraft : p.draft = some draft) :
    Started (before.map Text.strip) ∧
    p.isOpen = (Fence.scan none (before.map Text.strip)).isSome ∧
    ∀ more, gather (roles none (before.map Text.strip) ++ more) =
      prospect p.properties draft more := by
  cases before with
  | nil =>
      -- Nothing grows in a parser that has taken no line.
      rw [takeLines, run_pure, Logged.value_pure, Prod.mk.injEq] at h
      rw [← h.2, hfresh.draft_eq] at hdraft
      exact absurd hdraft (by simp)
  | cons text texts =>
      rcases exists_declaration_of_takeLines hfresh h with ⟨captured, hd⟩
      rcases takeLines_fresh hfresh hd texts with ⟨q, draft', hq, -, hamid, hprospect, -⟩
      rw [h, Prod.mk.injEq] at hq
      rw [← hq.2] at hamid hprospect
      -- The run from the start ends in one state, so the growing property is the one of the
      -- outline.
      have hsame : draft' = draft := by
        have hgrowing := hamid.draft_eq
        rw [hdraft, Option.some.injEq] at hgrowing
        exact hgrowing.symm
      rw [hsame] at hprospect
      refine ⟨⟨captured, ?_⟩, isOpen_of_amid hamid, fun more => (hprospect more).symm⟩
      rw [List.map_cons, List.head?_cons, Option.bind_some, hd]

/-- What a fence adds to the growing property. -/
theorem prospect_fence (finished : List Property) (draft : Draft) (opening run : String)
    (content : List String) (rs : List Role) :
    prospect finished draft ((opening :: (content ++ [run])).map .continues ++ rs) =
      finished ++ ⟨draft.key, Text.unlines (draft.lines ++
        opening :: (content ++ run :: further rs))⟩ :: gather rs := by
  rw [prospect, further_append, gather_append, List.cons_append, List.append_assoc,
    List.singleton_append]

end Parser

/-! ## Closed fences -/

/-- How parsing ends if there is a fence: only the lines of its content are
    counted, and only its value has them. -/
theorem verdict_fence {before content : List String} {opening run : String}
    (hstarted : Started before)
    (hclosed : Fence.scan none before = none)
    (hopening : fenceRun? opening.toList = some run.toList) (hcontent : run ∉ content)
    (rest : List String) :
    verdict (before ++ opening :: (content ++ run :: rest)) = match Fence.scan none rest with
      | some fence =>
        .error (.unclosedFence (before.length + (content.length + rest.length + 2) - fence.age)
          (before.length + (content.length + rest.length + 2)))
      | none =>
        if (declaredKeys before ++ declaredKeys rest).Nodup then
          .ok (gather (roles none before ++
            ((opening :: (content ++ [run])).map .continues ++ roles none rest)))
        else .error (.duplicateKeys
          (Parser.duplicates (declaredKeys before ++ declaredKeys rest))) := by
  -- The two lines of the fence itself are counted as well.
  have hlength : ((opening :: (content ++ run :: rest)).length : Int) =
      content.length + rest.length + 2 := by
    rw [List.length_cons, List.length_append, List.length_cons]
    omega
  have hverdict := verdict_append hstarted hclosed (opening :: (content ++ run :: rest))
  rw [Fence.scan_fence hopening hcontent, declaredKeys_fence hopening hcontent,
    roles_fence hopening hcontent, hlength] at hverdict
  exact hverdict

/-- Exchanging what a fence holds, for the outline: given what the lines above
    come to, only the value that the fence stands in is another one. -/
theorem verdict_exchange {before content other : List String} {opening run : String}
    {finished : List Property} {draft : Draft}
    (hstarted : Started before)
    (hclosed : Fence.scan none before = none)
    (hgather : ∀ more, gather (roles none before ++ more) = Parser.prospect finished draft more)
    (hopening : fenceRun? opening.toList = some run.toList) (hcontent : run ∉ content)
    (hother : run ∉ other) (rest : List String) :
    (∃ more later,
      verdict (before ++ opening :: (content ++ run :: rest)) =
        .ok (finished ++ ⟨draft.key, Text.unlines (draft.lines ++
          opening :: (content ++ run :: more))⟩ :: later) ∧
      verdict (before ++ opening :: (other ++ run :: rest)) =
        .ok (finished ++ ⟨draft.key, Text.unlines (draft.lines ++
          opening :: (other ++ run :: more))⟩ :: later)) ∨
    (∃ opened number : Int,
      verdict (before ++ opening :: (content ++ run :: rest)) =
        .error (.unclosedFence opened number) ∧
      verdict (before ++ opening :: (other ++ run :: rest)) =
        .error (.unclosedFence (opened + (other.length - content.length))
          (number + (other.length - content.length)))) ∨
    ∃ keys,
      verdict (before ++ opening :: (content ++ run :: rest)) = .error (.duplicateKeys keys) ∧
      verdict (before ++ opening :: (other ++ run :: rest)) = .error (.duplicateKeys keys) := by
  rw [verdict_fence hstarted hclosed hopening hcontent,
    verdict_fence hstarted hclosed hopening hother]
  -- Whether a later fence is left open, and which keys there are, does not depend on the content.
  rcases Fence.scan none rest with _ | fence
  · by_cases hkeys : (declaredKeys before ++ declaredKeys rest).Nodup
    · simp only [if_pos hkeys, hgather, Parser.prospect_fence]
      exact Or.inl ⟨_, _, rfl, rfl⟩
    · simp only [if_neg hkeys]
      exact Or.inr (Or.inr ⟨_, rfl, rfl⟩)
  · refine Or.inr (Or.inl ⟨_, _, rfl, ?_⟩)
    simp only [Except.error.injEq, Error.unclosedFence.injEq]
    -- Both are as far behind the last line, and only the number of lines differs.
    omega

section Around

variable {before content after : List String} {opening closing : String}

/-- A text that was put together around a fence ends as its last lines do,
    whatever the fence holds. -/
theorem getLast?_around (before content after : List String) (opening closing : String) :
    ((before ++ opening :: (content ++ closing :: after)).map Text.strip).getLast? =
      ((closing :: after).map Text.strip).getLast? := by
  rw [List.map_append, List.map_cons, List.map_append, ← List.cons_append, ← List.append_assoc,
    List.getLast?_append_of_ne_nil]
  simp

/-- A stripped text that starts with a declaration does not end with a blank line. -/
theorem getLast?_ne_empty_around {text : String} (htext : Text.strip text = text)
    (hlines : Text.lines text = before ++ opening :: (content ++ closing :: after))
    (hstarted : Started (before.map Text.strip)) :
    ((closing :: after).map Text.strip).getLast? ≠ some "" := by
  have hstripped : Text.strippedLines text =
      (before ++ opening :: (content ++ closing :: after)).map Text.strip := by
    rw [Text.strippedLines, hlines]
  have hall : Started (Text.strippedLines (Text.strip text)) := by
    rw [htext, hstripped, List.map_append]
    exact hstarted.append _
  rw [← getLast?_around before content after opening closing, ← hstripped, ← htext]
  exact (Text.ends_strippedLines_strip hall.strip_ne_empty).2

/-- With other lines in a fence, the lines of a text are still lines. -/
theorem newline_notMem_around {other : List String}
    (h : ∀ line ∈ before ++ opening :: (content ++ closing :: after), '\n' ∉ line.toList)
    (hother : ∀ line ∈ other, '\n' ∉ line.toList) :
    ∀ line ∈ before ++ opening :: (other ++ closing :: after), '\n' ∉ line.toList := by
  simp only [List.mem_append, List.mem_cons] at h ⊢
  rintro line (hline | rfl | hline | hline)
  · exact h line (Or.inl hline)
  · exact h line (Or.inr (Or.inl rfl))
  · exact hother line hline
  · exact h line (Or.inr (Or.inr (Or.inr hline)))

/-- Parsing a text that was put together around a fence looks at its lines, if
    the first one declares and the last one is not blank. -/
theorem outcome_parse_around
    (hfree : ∀ line ∈ before ++ opening :: (content ++ closing :: after), '\n' ∉ line.toList)
    (hstarted : Started (before.map Text.strip))
    (hlast : ((closing :: after).map Text.strip).getLast? ≠ some "") (debug : Bool) :
    (parse (Text.unlines (before ++ opening :: (content ++ closing :: after))) debug).outcome =
      verdict (before.map Text.strip ++ Text.strip opening ::
        (content.map Text.strip ++ Text.strip closing :: after.map Text.strip)) := by
  have hstripped : Text.strippedLines (Text.unlines
      (before ++ opening :: (content ++ closing :: after))) =
      (before ++ opening :: (content ++ closing :: after)).map Text.strip :=
    Text.strippedLines_unlines (by simp) hfree
  have hall : Started ((before ++ opening :: (content ++ closing :: after)).map Text.strip) := by
    rw [List.map_append]
    exact hstarted.append _
  -- Nothing is stripped off as a whole: the first line declares, and the last one is not blank.
  have hlines : Text.strippedLines (Text.strip (Text.unlines
      (before ++ opening :: (content ++ closing :: after)))) =
      (before ++ opening :: (content ++ closing :: after)).map Text.strip := by
    rw [← hstripped]
    apply Text.strippedLines_strip_eq_self
    · rw [hstripped]
      exact hall.head?_ne_empty
    · rw [hstripped, getLast?_around]
      exact hlast
  rw [← hlines] at hall
  rw [Parser.outcome_parse_eq, if_neg hall.strip_ne_empty, hlines]
  simp only [List.map_append, List.map_cons]

end Around

/-- The lines in a closed fence can be exchanged for others that do not hold its
    run. Either both texts are codeblocks, and only the property that was
    growing when the fence was opened has the other lines; or both leave the
    same later fence open, on lines that are moved by as many as there are more;
    or both repeat the same keys. -/
theorem outcome_parse_content {text opening run closing : String}
    {before content other after : List String} {debug : Bool} {p : Parser} {draft : Draft}
    (htext : Text.strip text = text)
    (hlines : Text.lines text = before ++ opening :: (content ++ closing :: after))
    (hbefore : (Parser.run { source := text, debug } (Parser.takeLines 1 before)).value =
      (.ok (), p))
    (houtside : p.isOpen = false) (hdraft : p.draft = some draft)
    (hopening : fenceRun? (Text.strip opening).toList = some run.toList)
    (hcontent : ∀ line ∈ content, Text.strip line ≠ run) (hclosing : Text.strip closing = run)
    (hother : ∀ line ∈ other, Text.strip line ≠ run ∧ '\n' ∉ line.toList) :
    let exchanged := Text.unlines (before ++ opening :: (other ++ closing :: after))
    (∃ more later,
      (parse text debug).outcome =
        .ok (p.properties ++ ⟨draft.key, Text.unlines (draft.lines ++
          Text.strip opening :: (content.map Text.strip ++ run :: more))⟩ :: later) ∧
      (parse exchanged debug).outcome =
        .ok (p.properties ++ ⟨draft.key, Text.unlines (draft.lines ++
          Text.strip opening :: (other.map Text.strip ++ run :: more))⟩ :: later)) ∨
    (∃ opened number : Int,
      (parse text debug).outcome = .error (.unclosedFence opened number) ∧
      (parse exchanged debug).outcome =
        .error (.unclosedFence (opened + (other.length - content.length))
          (number + (other.length - content.length)))) ∨
    ∃ keys,
      (parse text debug).outcome = .error (.duplicateKeys keys) ∧
      (parse exchanged debug).outcome = .error (.duplicateKeys keys) := by
  intro exchanged
  rcases Parser.gather_of_takeLines ⟨rfl, rfl, rfl, rfl⟩ hbefore hdraft with
    ⟨hstarted, hisOpen, hgather⟩
  -- Above the fence no other one is open, so the outline is the one from the start.
  have hclosed : Fence.scan none (before.map Text.strip) = none := by
    rw [houtside] at hisOpen
    exact Option.isNone_iff_eq_none.1 (Option.isSome_eq_false_iff.1 hisOpen.symm)
  have hsource : text = Text.unlines (before ++ opening :: (content ++ closing :: after)) := by
    rw [← hlines, Text.unlines_lines]
  -- The new lines stand between the same ends, so the text with them is stripped as well.
  have hlast := getLast?_ne_empty_around htext hlines hstarted
  have hfree : ∀ line ∈ before ++ opening :: (content ++ closing :: after),
      '\n' ∉ line.toList := by
    rw [← hlines]
    exact fun line hline => Text.newline_notMem_of_mem_lines hline
  have hfree' := newline_notMem_around hfree fun line hline => (hother line hline).2
  -- Neither the old lines nor the new ones close the fence before its time.
  have hout : run ∉ content.map Text.strip := Text.notMem_map_strip hcontent
  have hout' : run ∉ other.map Text.strip :=
    Text.notMem_map_strip fun line hline => (hother line hline).1
  have hverdict := verdict_exchange hstarted hclosed hgather hopening hout hout'
    (after.map Text.strip)
  rw [List.length_map, List.length_map, ← hclosing, ← outcome_parse_around hfree hstarted hlast
    debug, ← outcome_parse_around hfree' hstarted hlast debug, ← hsource] at hverdict
  rw [← hclosing]
  exact hverdict

/-- The content is exchanged for lines that declare a key of the text again and
    open the same fence once more: neither counts inside the fence. -/
theorem outcome_parse_content_lookalikes :
    let text := "a: 1\n\x60\x60\x60 py\n b: 2\n\x60\x60\x60\x60\n\x60\x60\x60\nc: 3"
    let content := [" b: 2", "\x60\x60\x60\x60"]
    let other := ["c: 4", "\x60\x60\x60 py", ""]
    let exchanged := Text.unlines (["a: 1"] ++ "\x60\x60\x60 py" :: (other ++
      "\x60\x60\x60" :: ["c: 3"]))
    ∃ p : Parser,
      (Parser.run { source := text, debug := false } (Parser.takeLines 1 ["a: 1"])).value =
        (.ok (), p) ∧
      p.isOpen = false ∧ p.draft = some ⟨"a", ["1"], 1⟩ ∧
      (parse text false).outcome = .ok
        [⟨"a", "1\n\x60\x60\x60 py\nb: 2\n\x60\x60\x60\x60\n\x60\x60\x60"⟩, ⟨"c", "3"⟩] ∧
      ∃ more later,
        (parse text false).outcome =
          .ok (p.properties ++ ⟨"a", Text.unlines (["1"] ++ Text.strip "\x60\x60\x60 py" ::
            (content.map Text.strip ++ "\x60\x60\x60" :: more))⟩ :: later) ∧
        (parse exchanged false).outcome =
          .ok (p.properties ++ ⟨"a", Text.unlines (["1"] ++ Text.strip "\x60\x60\x60 py" ::
            (other.map Text.strip ++ "\x60\x60\x60" :: more))⟩ :: later) := by
  intro text content other exchanged
  have hparse : (parse text false).outcome = .ok
      [⟨"a", "1\n\x60\x60\x60 py\nb: 2\n\x60\x60\x60\x60\n\x60\x60\x60"⟩, ⟨"c", "3"⟩] := by
    rw [Parser.outcome_parse_eq, if_neg (by decide)]
    decide +kernel
  have htext : Text.strip text = text := by decide
  have hlines : Text.lines text = ["a: 1"] ++ "\x60\x60\x60 py" :: (content ++
      "\x60\x60\x60" :: ["c: 3"]) := by decide
  have hother : ∀ line ∈ other, Text.strip line ≠ "\x60\x60\x60" ∧ '\n' ∉ line.toList := by decide
  have hbefore : (Parser.run { source := text, debug := false }
      (Parser.takeLines 1 ["a: 1"])).value = (.ok (), _) := rfl
  refine ⟨_, hbefore, rfl, rfl, hparse, ?_⟩
  have hcases := outcome_parse_content htext hlines hbefore rfl rfl (by decide) (by decide)
    (by decide) hother
  -- The text is a codeblock, so of the three cases only the first is left.
  rcases hcases with hok | ⟨_, _, hopen, -⟩ | ⟨_, htwice, -⟩
  · exact hok
  · rw [hparse] at hopen
    exact absurd hopen (by simp)
  · rw [hparse] at htwice
    exact absurd htwice (by simp)

/-! ## Open fences -/

/-- A run that opens a fence is a line of its own, off which nothing is stripped, for it is made
    of backticks only. -/
theorem strip_run {s : List Char} {run : String} (h : fenceRun? s = some run.toList) :
    Text.strip run = run ∧ run ≠ "" ∧ '\n' ∉ run.toList := by
  rcases fenceRun?_eq_some_iff.1 h with ⟨htakeWhile, hleast, -⟩
  have hblank : ∀ c ∈ run.toList, Text.isBlank c = false := by
    intro c hc
    rw [htakeWhile] at hc
    have htick : c = '\x60' := by simpa [isFenceChar] using List.mem_takeWhile_imp hc
    rw [htick]
    decide
  -- It is made of backticks, three at least, and none of them is a blank.
  refine ⟨?_, ?_, ?_⟩
  · rw [← String.toList_inj, Text.toList_strip, Text.trim_eq_self_iff]
    exact ⟨fun c hc => hblank c (List.mem_of_mem_head? hc),
      fun c hc => hblank c (List.mem_of_mem_getLast? hc)⟩
  · rintro rfl
    exact absurd hleast (by simp)
  · intro hnewline
    have hnot := hblank '\n' hnewline
    rw [Text.isBlank_newline] at hnot
    exact absurd hnot (by decide)

/-- Lines below an open fence are inside it, unless one of them is its run. So they do not change
    the verdict but for the number of the last line. -/
theorem verdict_continued {lines more : List String} {fence : Fence} {opened number : Int}
    (h : verdict lines = .error (.unclosedFence opened number))
    (hfence : Fence.scan none lines = some fence) (hmore : fence.run ∉ more) :
    verdict (lines ++ more) = .error (.unclosedFence opened (number + more.length)) := by
  rcases (verdict_eq_unclosedFence_iff _ _ _).1 h with ⟨hstarted, fence', hfence', rfl, rfl⟩
  obtain rfl : fence = fence' := Option.some.inj (hfence.symm.trans hfence')
  rw [verdict_eq_unclosedFence_iff, Fence.scan_append, hfence, Fence.scan_of_notMem hmore,
    List.length_append]
  refine ⟨hstarted.append more, _, rfl, ?_, ?_⟩
  · dsimp only
    omega
  · omega

/-- The run of an open fence, below all lines, ends the fence. What can still be wrong is that
    keys are repeated, which was not asked for while the fence was open. -/
theorem verdict_repaired {lines : List String} {fence : Fence} {opened number : Int}
    (h : verdict lines = .error (.unclosedFence opened number))
    (hfence : Fence.scan none lines = some fence) :
    (∃ ps, verdict (lines ++ [fence.run]) = .ok ps) ∨
      ∃ keys, verdict (lines ++ [fence.run]) = .error (.duplicateKeys keys) := by
  rcases (verdict_eq_unclosedFence_iff _ _ _).1 h with ⟨hstarted, -⟩
  have hclosed : Fence.scan none (lines ++ [fence.run]) = none := by
    rw [Fence.scan_append, hfence]
    exact Fence.after_run fence.run fence.age
  rcases hstarted.append [fence.run] with ⟨captured, hd⟩
  rw [verdict, hd]
  dsimp only
  rw [hclosed]
  dsimp only
  by_cases hkeys : (declaredKeys (lines ++ [fence.run])).Nodup
  · rw [if_pos hkeys]
    exact Or.inl ⟨_, rfl⟩
  · rw [if_neg hkeys]
    exact Or.inr ⟨_, rfl⟩

/-- Lines below a stripped text are read below its lines, if the last of them is
    not blank. -/
theorem outcome_parse_below {text : String} {more : List String} (htext : Text.strip text ≠ "")
    (hfree : ∀ line ∈ more, '\n' ∉ line.toList)
    (hlast : (more.map Text.strip).getLast? ≠ some "") (debug : Bool) :
    (parse (Text.unlines (Text.strip text :: more)) debug).outcome =
      verdict (Text.strippedLines (Text.strip text) ++ more.map Text.strip) := by
  have hlines := Text.strippedLines_strip_below (Text.strip_strip text) htext hfree hlast
  have hblank : Text.strip (Text.unlines (Text.strip text :: more)) ≠ "" := by
    intro hblank
    rw [hblank] at hlines
    have hhead := congrArg List.head? hlines
    rw [List.head?_append_of_ne_nil _ (Text.strippedLines_ne_nil _)] at hhead
    exact (Text.ends_strippedLines_strip htext).1 hhead.symm
  rw [Parser.outcome_parse_eq, if_neg hblank, hlines]

/-- A text that leaves a fence open fails for the same fence with any lines below it that are not
    its run. Lines at the end that are blank do not count, so the line at which the text ends need
    not be that of the last one; the induction takes lines off the end until one is not blank. -/
theorem exists_unclosedFence_below {text : String} {debug : Bool} {fence : Fence}
    {opened number : Int} (htext : Text.strip text ≠ "")
    (h : verdict (Text.strippedLines (Text.strip text)) = .error (.unclosedFence opened number))
    (hfence : Fence.scan none (Text.strippedLines (Text.strip text)) = some fence)
    {more : List String}
    (hmore : ∀ line ∈ more, Text.strip line ≠ fence.run ∧ '\n' ∉ line.toList) :
    ∃ later, (parse (Text.unlines (Text.strip text :: more)) debug).outcome =
      .error (.unclosedFence opened later) := by
  induction more using List.reverseRecOn with
  | nil =>
      refine ⟨number, ?_⟩
      rw [outcome_parse_below htext (by simp) (by simp), List.map_nil, List.append_nil]
      exact h
  | append_singleton more last ih =>
      by_cases hlast : Text.strip last = ""
      · -- A blank line at the end is stripped with the text.
        have hjoin : Text.unlines (Text.strip text :: (more ++ [last])) =
            Text.unlines (Text.strip text :: more) ++ "\n" ++ last :=
          String.intercalate_append_of_ne_nil (List.cons_ne_nil _ more) (List.cons_ne_nil last [])
        rw [hjoin, outcome_parse_of_strip debug (Text.strip_blank_below hlast _)]
        exact ih fun line hline => hmore line (List.mem_append_left _ hline)
      · -- Else all the lines count, and none of them is the run.
        have hnot : fence.run ∉ (more ++ [last]).map Text.strip :=
          Text.notMem_map_strip fun line hline => (hmore line hline).1
        have hend : ((more ++ [last]).map Text.strip).getLast? ≠ some "" := by
          rw [List.map_append, List.map_singleton, List.getLast?_concat, Ne, Option.some.injEq]
          exact hlast
        have hbelow := outcome_parse_below htext (fun line hline => (hmore line hline).2) hend debug
        exact ⟨_, hbelow.trans (verdict_continued h hfence hnot)⟩

/-- The report of a fence that is left open names the line that opened it, and
    that line tells what is missing: the backticks that it starts with, behind
    its indentation. With this run on a line of its own below the stripped text
    there are properties, or repeated keys; with any other lines below it the
    same line is reported. -/
theorem outcome_parse_unclosed_continued {text : String} {debug : Bool} {opened number : Int}
    (h : (parse text debug).outcome = .error (.unclosedFence opened number)) :
    ∃ (i : Nat) (line : String),
      opened = i + 1 ∧ (Text.lines (Text.strip text))[i]? = some line ∧
      let run := String.ofList ((Text.strip line).toList.takeWhile isFenceChar)
      ((∃ ps, (parse (Text.strip text ++ "\n" ++ run) debug).outcome = .ok ps) ∨
        ∃ keys, (parse (Text.strip text ++ "\n" ++ run) debug).outcome =
          .error (.duplicateKeys keys)) ∧
      ∀ more : List String, (∀ l ∈ more, Text.strip l ≠ run ∧ '\n' ∉ l.toList) →
        ∃ later, (parse (Text.unlines (Text.strip text :: more)) debug).outcome =
          .error (.unclosedFence opened later) := by
  have htext : Text.strip text ≠ "" := by
    intro hblank
    rw [Parser.outcome_parse_eq, if_pos hblank] at h
    exact absurd h (by simp)
  rw [Parser.outcome_parse_eq, if_neg htext] at h
  rcases (verdict_eq_unclosedFence_iff _ _ _).1 h with ⟨-, fence, hfence, hopened, -⟩
  rcases Fence.exists_opening hfence with ⟨i, line, hline, hage, hrun⟩
  have hnumber : opened = i + 1 := by
    rw [hopened, Text.strippedLines, List.length_map, hage]
  -- The run of the fence is what the reported line starts with.
  have hsame : String.ofList ((Text.strip line).toList.takeWhile isFenceChar) = fence.run := by
    rw [← (fenceRun?_eq_some_iff.1 hrun).1, String.ofList_toList]
  refine ⟨i, line, hnumber, hline, ?_⟩
  rw [hsame]
  dsimp only
  rcases strip_run hrun with ⟨hstrip, hne, hnewline⟩
  constructor
  · -- The run is no blank line, so it is the last line of the longer text.
    have hfree : ∀ l ∈ [fence.run], '\n' ∉ l.toList := by
      rw [List.forall_mem_singleton]
      exact hnewline
    have hend : ([fence.run].map Text.strip).getLast? ≠ some "" := by
      rw [List.map_singleton, hstrip, List.getLast?_singleton, Ne, Option.some.injEq]
      exact hne
    have hbelow := outcome_parse_below htext hfree hend debug
    rw [List.map_singleton, hstrip] at hbelow
    have hjoin : Text.strip text ++ "\n" ++ fence.run =
        Text.unlines [Text.strip text, fence.run] := rfl
    rw [hjoin, hbelow]
    exact verdict_repaired h hfence
  · exact fun more hmore => exists_unclosedFence_below htext h hfence hmore

/-- A line with an indentation and a word behind its run. -/
theorem outcome_parse_unclosed_continued_indented :
    let text := "a: 1\n \x60\x60\x60 py\nb: 2\n"
    (parse text false).outcome = .error (.unclosedFence 2 3) ∧
      ((∃ ps, (parse (Text.strip text ++ "\n" ++ "\x60\x60\x60") false).outcome = .ok ps) ∨
        ∃ keys, (parse (Text.strip text ++ "\n" ++ "\x60\x60\x60") false).outcome =
          .error (.duplicateKeys keys)) ∧
      ∃ later, (parse (Text.unlines [Text.strip text, "\x60\x60\x60\x60", ""]) false).outcome =
        .error (.unclosedFence 2 later) := by
  intro text
  have hopen : (parse text false).outcome = .error (.unclosedFence 2 3) := by
    rw [Parser.outcome_parse_eq, if_neg (by decide)]
    decide
  rcases outcome_parse_unclosed_continued hopen with ⟨i, line, hi, hline, hrepaired, hbelow⟩
  obtain rfl : i = 1 := by omega
  have hsecond : (Text.lines (Text.strip text))[1]? = some " \x60\x60\x60 py" := by decide
  obtain rfl : " \x60\x60\x60 py" = line := Option.some.inj (hsecond.symm.trans hline)
  have hrun : String.ofList ((Text.strip " \x60\x60\x60 py").toList.takeWhile isFenceChar) =
      "\x60\x60\x60" := by decide
  rw [hrun] at hrepaired hbelow
  exact ⟨hopen, hrepaired, hbelow ["\x60\x60\x60\x60", ""] (by decide)⟩

end Block

end Stencil
