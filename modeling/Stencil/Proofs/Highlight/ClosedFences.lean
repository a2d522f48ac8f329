import Mathlib.Algebra.Ring.Parity
import Stencil.Highlight.Language
import Stencil.Proofs.Highlight.BlockGrammar
import Stencil.Proofs.Highlight.Lossless

/-!
# Fences That Are Displayed

What a text is like where the lexer of codeblocks shows a fence.

Among lexemes a fence is a pair of runs of backticks, one that opens and the next one,
which closes. Where they are shown the text has a line that starts with the first run,
and a later line with nothing but the same run. Of the lines between them none has
nothing but that run.

The run that opens a fence need not be all the backticks that its line starts with.
The others are tried first, the longest run before all; but if no later line repeats
that, the lexer goes on to a shorter one, and what is left over becomes part of the
label. So a line with four backticks may be displayed as if a fence of three started
there. The run is complete just if the complete run is repeated.

A place of the text shows a fence or something without backticks (`lexemesAt_blockRules`),
and so the pairs among the lexemes of a text come from its fences, by induction on what
is left of the text (`Paired.exists_shown`).

## Main definitions

* `Paired`: A run of backticks that opens a fence, and the one that closes it.
* `ClosedFence`: A text that starts with a fence.
* `ClosedFence.Shown`: A fence is what a pair of runs shows.

## Theorems

* `Paired.of_append`, `Paired.cases`: Where a pair can be.
* `exists_of_fenceRule`: The rule for fences finds fences.
* `lexemesAt_blockRules`: What is found at a place of a codeblock.
* `Paired.exists_shown`: A pair of runs shows a fence.
* `ClosedFence.complete_iff`: When the run that opens a fence is complete.
* `exists_closedFence_of_lex`: The fences that are displayed.
-/

namespace Stencil.Highlight

/-! ## Pairs of runs -/

/-- Whether a lexeme is a run of backticks. -/
def Lexeme.isTicks (l : Lexeme) : Bool :=
  l.kind == .backtick

/-- A list is cut in one way at the first of its runs of backticks. -/
theorem split_unique {one other ls ms : List Lexeme} {l m : Lexeme}
    (hone : ∀ x ∈ one, x.isTicks = false) (hl : l.isTicks = true)
    (hother : ∀ x ∈ other, x.isTicks = false) (hm : m.isTicks = true)
    (h : one ++ l :: ls = other ++ m :: ms) : other = one ∧ m = l ∧ ms = ls := by
  induction one generalizing other with
  | nil =>
      cases other with
      | nil =>
          obtain ⟨rfl, rfl⟩ := List.cons.inj h
          exact ⟨rfl, rfl, rfl⟩
      | cons x other =>
          -- The run of the one would be among what is before that of the other.
          obtain ⟨rfl, -⟩ := List.cons.inj h
          rw [hother l List.mem_cons_self] at hl
          cases hl
  | cons x one ih =>
      rw [List.forall_mem_cons] at hone
      cases other with
      | nil =>
          obtain ⟨rfl, -⟩ := List.cons.inj h
          rw [hone.1] at hm
          cases hm
      | cons y other =>
          obtain ⟨rfl, hrest⟩ := List.cons.inj h
          rw [List.forall_mem_cons] at hother
          rcases ih hone.2 hother.2 hrest with ⟨rfl, rfl, rfl⟩
          exact ⟨rfl, rfl, rfl⟩

/-- Lexemes with runs of backticks among them can be cut at the first. -/
theorem exists_split {ls : List Lexeme} (h : 0 < ls.countP Lexeme.isTicks) :
    ∃ one l more, ls = one ++ l :: more ∧ (∀ x ∈ one, x.isTicks = false) ∧ l.isTicks = true := by
  have hfound : (ls.find? Lexeme.isTicks).isSome = true :=
    List.find?_isSome.2 (List.countP_pos_iff.1 h)
  rcases Option.isSome_iff_exists.1 hfound with ⟨l, hl⟩
  rcases List.find?_eq_some_iff_append.1 hl with ⟨hticks, one, more, rfl, hone⟩
  exact ⟨one, l, more, rfl, by simpa using hone, hticks⟩

/-- Among lexemes, a run of backticks that opens a fence and the one that closes it: the
    runs before it come in pairs, and there are none between the two. -/
structure Paired (ls before : List Lexeme) (opening : Lexeme) (middle : List Lexeme)
    (closing : Lexeme) : Prop where
  exists_eq_append : ∃ after, ls = before ++ opening :: (middle ++ closing :: after)
  even_before : Even (before.countP Lexeme.isTicks)
  opening : opening.isTicks = true
  middle : ∀ l ∈ middle, l.isTicks = false
  closing : closing.isTicks = true

namespace Paired

variable {ls before middle : List Lexeme} {opening closing : Lexeme}

/-- A pair is behind the lexemes at the front that are no runs of backticks, since it starts with
    one. -/
theorem of_append {plain : List Lexeme} (hplain : ∀ l ∈ plain, l.isTicks = false)
    (h : Paired (plain ++ ls) before opening middle closing) :
    ∃ more, before = plain ++ more ∧ Paired ls more opening middle closing := by
  induction plain generalizing before with
  | nil => exact ⟨before, rfl, h⟩
  | cons l plain ih =>
      rw [List.forall_mem_cons] at hplain
      rcases h.exists_eq_append with ⟨after, heq⟩
      cases before with
      | nil =>
          -- What opens a fence is a run of backticks, and `l` is none.
          have hl : l = opening := (List.cons.inj heq).1
          have hopening := h.opening
          rw [← hl, hplain.1] at hopening
          cases hopening
      | cons m before =>
          obtain ⟨rfl, hrest⟩ := List.cons.inj heq
          have heven := h.even_before
          rw [List.countP_cons_of_neg (by simp [hplain.1])] at heven
          rcases ih hplain.2 ⟨⟨after, hrest⟩, heven, h.opening, h.middle, h.closing⟩ with
            ⟨more, rfl, hmore⟩
          exact ⟨more, rfl, hmore⟩

/-- A pair at the front is the one that is meant, or it is before that. It cannot be that the run
    which closes it opens the one that is meant, because runs are paired from the start on. -/
theorem cases {o c : Lexeme} {between : List Lexeme} (ho : o.isTicks = true)
    (hbetween : ∀ l ∈ between, l.isTicks = false) (hc : c.isTicks = true)
    (h : Paired (o :: (between ++ c :: ls)) before opening middle closing) :
    before = [] ∧ opening = o ∧ middle = between ∧ closing = c ∨
      ∃ more, before = o :: (between ++ c :: more) ∧ Paired ls more opening middle closing := by
  rcases h.exists_eq_append with ⟨after, heq⟩
  cases before with
  | nil =>
      obtain ⟨rfl, hrest⟩ := List.cons.inj heq
      obtain ⟨rfl, rfl, -⟩ := split_unique hbetween hc h.middle h.closing hrest
      exact .inl ⟨rfl, rfl, rfl, rfl⟩
  | cons l before =>
      obtain ⟨rfl, hrest⟩ := List.cons.inj heq
      have heven := h.even_before
      rw [List.countP_cons_of_pos ho, Nat.even_add_one, Nat.not_even_iff_odd] at heven
      -- An odd number of runs are left before the opening one, and the first is `c`.
      have hpos : 0 < before.countP Lexeme.isTicks := by
        rcases heven with ⟨k, hk⟩
        omega
      rcases exists_split hpos with ⟨one, m, more, rfl, hone, hm⟩
      have hrest' : between ++ c :: ls =
          one ++ m :: (more ++ opening :: (middle ++ closing :: after)) := by
        rw [hrest]
        simp
      obtain ⟨rfl, rfl, rfl⟩ := split_unique hbetween hc hone hm hrest'
      rw [List.countP_append, List.countP_eq_zero.2 (by simpa using hbetween), Nat.zero_add,
        List.countP_cons_of_pos hc, Nat.odd_add_one, Nat.not_odd_iff_even] at heven
      exact .inr ⟨more, rfl, ⟨after, rfl⟩, heven, h.opening, h.middle, h.closing⟩

end Paired

/-! ## Fences in a text -/

/-- A text that starts with a fence: backticks, behind them a label, and on a later line the
    same backticks alone. Of the backticks that the label might start with, none could have
    been among those that open the fence. -/
structure ClosedFence (s : List Char) where
  indent : List Char
  count : Nat
  label : List Char
  later : List Char
  content : List (List Char)
  lead : List Char
  trail : List Char
  further : List (List Char)
  eq_append : s = indent ++ (List.replicate count '\x60' ++ (label ++ '\n' :: later))
  splitOn_later :
    later.splitOn '\n' = content ++ (lead ++ (List.replicate count '\x60' ++ trail)) :: further
  isIndent_of_mem : ∀ c ∈ indent ++ (lead ++ trail), isIndent c = true
  newline_notMem_label : '\n' ∉ label
  three_le_count : 3 ≤ count
  not_closes_content : ∀ line ∈ content, ¬ Closes count line
  not_closes_of_more : ∀ more, count < more →
    more ≤ count + (label.takeWhile Block.isFenceChar).length →
      ∀ line ∈ later.splitOn '\n', ¬ Closes more line

namespace ClosedFence

variable {s : List Char} (f : ClosedFence s)

/-- The run that opens the fence, and closes it. -/
def run : List Char :=
  List.replicate f.count '\x60'

/-- How many backticks the fence starts with, with those that are left to the label. It is opened
    by all of them if some later line repeats them all. -/
def complete : Nat :=
  f.count + (f.label.takeWhile Block.isFenceChar).length

/-- The lexemes of the fence. -/
def lexemes : List Lexeme :=
  Highlight.lexemes [(.whitespace, f.indent)] ++ ⟨.backtick, f.run⟩ ::
    (Highlight.lexemes [(.label, f.label), (.whitespace, ['\n']), (.doc, endedLines f.content),
      (.whitespace, f.lead)] ++ ⟨.backtick, f.run⟩ :: Highlight.lexemes [(.whitespace, f.trail)])

/-- A fence is what a pair of runs shows, behind some text. Every character of it is accounted for
    but the blanks at its end. -/
structure Shown (above : List Char) (before : List Lexeme) (opening : Lexeme)
    (middle : List Lexeme) (closing : Lexeme) : Prop where
  before : spelling before = above ++ f.indent
  opening : opening.text = f.run
  middle : spelling middle = f.label ++ '\n' :: (endedLines f.content ++ f.lead)
  closing : closing.text = f.run

/-- The run is complete just if some later line repeats the complete run. So no backtick is left
    to the label where the fence could have been closed properly. -/
theorem complete_iff :
    f.label.head? ≠ some '\x60' ↔ ∃ line ∈ f.later.splitOn '\n', Closes f.complete line := by
  constructor
  · intro hhead
    -- Nothing is left to the label, so the line that closes the fence has the complete run.
    have hcomplete : f.complete = f.count := by
      rw [complete]
      cases hlabel : f.label with
      | nil => rfl
      | cons c label =>
          rw [hlabel, List.head?_cons] at hhead
          have hc : ¬ Block.isFenceChar c = true := by
            rw [Block.isFenceChar, beq_iff_eq]
            exact fun heq => hhead (congrArg some heq)
          rw [List.takeWhile_cons_of_neg hc]
          rfl
    rw [hcomplete, f.splitOn_later]
    refine ⟨_, List.mem_append_right _ List.mem_cons_self, f.lead, f.trail, rfl, ?_, ?_⟩
    · intro c hc
      exact f.isIndent_of_mem c (by simp [hc])
    · intro c hc
      exact f.isIndent_of_mem c (by simp [hc])
  · rintro ⟨line, hline, hcloses⟩ hhead
    -- The complete run is longer then, and would have been taken.
    refine f.not_closes_of_more f.complete ?_ (Nat.le_refl _) line hline hcloses
    rw [complete]
    cases hlabel : f.label with
    | nil =>
        rw [hlabel] at hhead
        cases hhead
    | cons c label =>
        rw [hlabel, List.head?_cons, Option.some.injEq] at hhead
        rw [hhead, List.takeWhile_cons_of_pos rfl, List.length_cons]
        omega

end ClosedFence

/-! ## The rule for fences -/

/-- The pieces of a fence, by the line that closes it. -/
theorem exists_of_fencePieces? {indent run rest : List Char} {count : Nat}
    {ts : List (List Char)} (h : fencePieces? indent run rest count = some ts) :
    ∃ later inside line behind lead trail, rest.dropWhile (· != '\n') = '\n' :: later ∧
      later.splitOn '\n' = inside ++ line :: behind ∧ closing? count line = some (lead, trail) ∧
      (∀ l ∈ inside, closing? count l = none) ∧
      ts = [indent, run.take count, run.drop count ++ rest.takeWhile (· != '\n'), ['\n'],
        endedLines inside, lead, run.take count, trail] := by
  rcases Option.map_eq_some_iff.1 h with ⟨opened, hopened, rfl⟩
  unfold openedPieces? at hopened
  split at hopened
  · cases hopened
  · rename_i c later hrest
    obtain rfl : c = '\n' := head_dropWhile_ne_newline rest c (by rw [hrest]; rfl)
    rcases Option.map_eq_some_iff.1 hopened with ⟨⟨content, lead, trail⟩, hcontent, rfl⟩
    rcases content?_eq_some_iff.1 hcontent with ⟨inside, line, behind, hlater, rfl, hline, hinside⟩
    exact ⟨later, inside, line, behind, lead, trail, hrest, hlater, hline, hinside, rfl⟩

/-- There is no fence if no later line closes it. -/
theorem fencePieces?_eq_none_iff {indent run rest later : List Char} {count : Nat}
    (hrest : rest.dropWhile (· != '\n') = '\n' :: later) :
    fencePieces? indent run rest count = none ↔
      ∀ line ∈ later.splitOn '\n', closing? count line = none := by
  rw [fencePieces?, hrest, openedPieces?, Option.map_eq_none_iff, Option.map_eq_none_iff,
    content?_eq_none_iff]

theorem lexemes_append (one other : List (Kind × List Char)) :
    lexemes (one ++ other) = lexemes one ++ lexemes other := by
  rw [lexemes, lexemes, lexemes, List.filter_append, List.map_append]

theorem lexemes_cons_of_ne_nil {kind : Kind} {t : List Char} (ht : t ≠ [])
    (pieces : List (Kind × List Char)) :
    lexemes ((kind, t) :: pieces) = ⟨kind, t⟩ :: lexemes pieces := by
  simp [lexemes, ht]

/-- The pieces of a fence with their kinds, by the two runs. -/
theorem zip_fenceKinds (indent ticks label body lead trail : List Char) :
    fenceKinds.zip [indent, ticks, label, ['\n'], body, lead, ticks, trail] =
      [(Kind.whitespace, indent)] ++ (Kind.backtick, ticks) ::
        ([(Kind.label, label), (Kind.whitespace, ['\n']), (Kind.doc, body),
          (Kind.whitespace, lead)] ++ (Kind.backtick, ticks) :: [(Kind.whitespace, trail)]) := rfl

/-- Where the rule for fences applies a line starts, and the text starts with a fence. -/
theorem exists_of_fenceRule {atLineStart : Bool} {s : List Char} {ls : List Lexeme}
    (h : fenceRule atLineStart s = some ls) :
    atLineStart = true ∧ ∃ f : ClosedFence s, ls = f.lexemes := by
  rw [fenceRule_eq] at h
  rcases Option.map_eq_some_iff.1 h with ⟨ts, hts, rfl⟩
  rcases exists_of_takenFence? hts with ⟨hplace, indent, run, rest, count, rfl, hindent, hrun,
    hstop, hleast, hmost, htaken, hmore⟩
  rcases exists_of_fencePieces? htaken with
    ⟨later, inside, line, behind, lead, trail, hrest, hlater, hline, hinside, rfl⟩
  rcases (closing?_eq_some_iff (by omega)).1 hline with ⟨rfl, hlead, htrail⟩
  have hticks : run.take count = List.replicate count '\x60' := by
    rw [eq_replicate_of_isFenceChar fun c hc => hrun c (List.mem_of_mem_take hc),
      List.length_take_of_le hmost]
  let info := rest.takeWhile (· != '\n')
  -- The backticks that are left to the label are all that it starts with.
  have hleft : ((run.drop count ++ info).takeWhile Block.isFenceChar).length =
      run.length - count := by
    have hinfo : ∀ c ∈ info.head?, Block.isFenceChar c = false := by
      intro c hc
      rw [List.head?_takeWhile] at hc
      exact hstop c (Option.mem_filter_iff.1 hc).1
    rw [Text.takeWhile_append_of_stop hinfo, List.takeWhile_eq_self_iff.2, List.length_drop]
    exact fun c hc => hrun c (List.mem_of_mem_drop hc)
  let f : ClosedFence (indent ++ (run ++ rest)) :=
    { indent := indent
      count := count
      label := run.drop count ++ info
      later := later
      content := inside
      lead := lead
      trail := trail
      further := behind
      eq_append := by
        rw [← hrest, List.append_assoc, List.takeWhile_append_dropWhile, ← hticks,
          ← List.append_assoc (run.take count), List.take_append_drop]
      splitOn_later := hlater
      isIndent_of_mem := by
        simp only [List.mem_append]
        rintro c (hc | hc | hc)
        · exact hindent c hc
        · exact hlead c hc
        · exact htrail c hc
      newline_notMem_label := newline_notMem_label hrun
      three_le_count := hleast
      not_closes_content := fun l hl =>
        (closing?_eq_none_iff_not_closes (by omega)).1 (hinside l hl)
      -- A longer run was tried before, and no later line repeated it.
      not_closes_of_more := by
        intro more hlt hle l hl
        rw [hleft] at hle
        have hnone := hmore more hlt (by omega)
        rw [fencePieces?_eq_none_iff hrest] at hnone
        exact (closing?_eq_none_iff_not_closes (by omega)).1 (hnone l hl) }
  -- Both runs are shown, since they are not empty, and the other pieces if they are not.
  have hne : run.take count ≠ [] := by
    rw [← List.length_pos_iff, List.length_take_of_le hmost]
    omega
  refine ⟨hplace, f, ?_⟩
  rw [zip_fenceKinds, lexemes_append, lexemes_cons_of_ne_nil hne, lexemes_append,
    lexemes_cons_of_ne_nil hne, ClosedFence.lexemes, ClosedFence.run, hticks]

/-! ## The lexer -/

/-- Pieces of other kinds are no runs of backticks. -/
theorem isTicks_of_mem_lexemes {pieces : List (Kind × List Char)}
    (hkinds : .backtick ∉ pieces.map Prod.fst) :
    ∀ l ∈ lexemes pieces, l.isTicks = false := by
  intro l hl
  rw [Lexeme.isTicks, beq_eq_false_iff_ne]
  intro hkind
  refine hkinds ?_
  rw [← hkind]
  exact List.mem_map_of_mem (of_mem_lexemes hl).2

/-- Only the rule for fences shows backticks. All other rules show pieces of other kinds. -/
theorem isTicks_of_blockRules {rule : Rule} (hrule : rule ∈ blockRules.tail)
    {atLineStart : Bool} {s : List Char} {ls : List Lexeme} (h : rule atLineStart s = some ls) :
    ∀ l ∈ ls, l.isTicks = false := by
  simp only [blockRules, List.tail_cons, List.mem_cons, List.not_mem_nil, or_false] at hrule
  rcases hrule with rfl | rfl | rfl
  · rw [declarationRule_eq] at h
    rcases Option.map_eq_some_iff.1 h with ⟨ts, -, rfl⟩
    -- The kinds of a declaration do not include it.
    refine isTicks_of_mem_lexemes fun hmem => ?_
    rcases List.mem_map.1 hmem with ⟨⟨kind, t⟩, hp, rfl⟩
    exact absurd (List.of_mem_zip hp).1 (by decide)
  · rcases Rule.exists_of_ofRun h with ⟨t, -, rfl⟩
    simp [Lexeme.isTicks]
  · rcases Rule.exists_of_ofChar h with ⟨t, -, rfl⟩
    simp [Lexeme.isTicks]

/-- What is found at a place of a codeblock: a fence, if a line starts there, or lexemes
    without backticks. -/
theorem lexemesAt_blockRules (atLineStart : Bool) (c : Char) (s : List Char) :
    (atLineStart = true ∧ ∃ f : ClosedFence (c :: s),
        lexemesAt blockRules atLineStart c s = f.lexemes) ∨
      ∀ l ∈ lexemesAt blockRules atLineStart c s, l.isTicks = false := by
  have hfound := findSome?_eq_lexemesAt proper_blockRules noGaps_blockRules atLineStart c s
  rcases List.exists_of_findSome?_eq_some hfound with ⟨rule, hrule, hls⟩
  rcases List.mem_cons.1 hrule with rfl | hrule
  · exact .inl (exists_of_fenceRule hls)
  · exact .inr (isTicks_of_blockRules hrule hls)

section Paired

variable {ls before middle : List Lexeme} {opening closing : Lexeme}

/-- The first pair among the lexemes of a fence and those behind them shows the fence. It has two
    runs, the one that opens it and the one that closes it, so the pairs behind it are counted
    anew. -/
theorem ClosedFence.cases {s : List Char} (f : ClosedFence s)
    (h : Paired (f.lexemes ++ ls) before opening middle closing) :
    f.Shown [] before opening middle closing ∨
      ∃ more, before = f.lexemes ++ more ∧ Paired ls more opening middle closing := by
  let front := Highlight.lexemes [(.whitespace, f.indent)]
  let inside := Highlight.lexemes [(.label, f.label), (.whitespace, ['\n']),
    (.doc, endedLines f.content), (.whitespace, f.lead)]
  let back := Highlight.lexemes [(.whitespace, f.trail)]
  have hfront : ∀ l ∈ front, l.isTicks = false := isTicks_of_mem_lexemes (by simp)
  have hinside : ∀ l ∈ inside, l.isTicks = false := isTicks_of_mem_lexemes (by simp)
  have hback : ∀ l ∈ back, l.isTicks = false := isTicks_of_mem_lexemes (by simp)
  have hlexemes : ∀ more, f.lexemes ++ more =
      front ++ ⟨.backtick, f.run⟩ :: (inside ++ ⟨.backtick, f.run⟩ :: (back ++ more)) := by
    intro more
    simp [ClosedFence.lexemes, front, inside, back]
  have hrun : Lexeme.isTicks ⟨.backtick, f.run⟩ = true := rfl
  rw [hlexemes] at h
  -- Behind the indent there is the run that opens the fence, and it is the first.
  rcases Paired.of_append hfront h with ⟨behind, rfl, hbehind⟩
  rcases Paired.cases hrun hinside hrun hbehind with ⟨rfl, rfl, rfl, rfl⟩ | ⟨later, rfl, hlater⟩
  · refine .inl ⟨?_, rfl, ?_, rfl⟩
    · simp [front]
    · simp [inside]
  · rcases Paired.of_append hback hlater with ⟨more, rfl, hmore⟩
    exact .inr ⟨more, (hlexemes more).symm, hmore⟩

/-- The first pair from a place on shows a fence that starts there, or it is behind what is
    found there. -/
theorem Paired.lexemesAt_cases {atLineStart : Bool} {c : Char} {s : List Char}
    (h : Paired (lexemesAt blockRules atLineStart c s ++ ls) before opening middle closing) :
    (atLineStart = true ∧ ∃ f : ClosedFence (c :: s), f.Shown [] before opening middle closing) ∨
      ∃ more, before = lexemesAt blockRules atLineStart c s ++ more ∧
        Paired ls more opening middle closing := by
  rcases lexemesAt_blockRules atLineStart c s with ⟨hplace, f, hf⟩ | hplain
  · rw [hf] at h ⊢
    rcases f.cases h with hshown | hbehind
    · exact .inl ⟨hplace, f, hshown⟩
    · exact .inr hbehind
  · exact .inr (h.of_append hplain)

/-- A pair of runs among the lexemes from a place on shows a fence at the start of a line. Each
    step of the lexer shows a whole fence or no runs at all, so pairs are never of different
    fences. -/
theorem Paired.exists_shown {past s : List Char}
    (h : Paired (lexFrom blockRules (startsLine past) s) before opening middle closing) :
    ∃ above rest, s = above ++ rest ∧ startsLine (above.reverse ++ past) = true ∧
      ∃ f : ClosedFence rest, f.Shown above before opening middle closing := by
  induction hn : s.length using Nat.strongRecOn generalizing past s before with
  | ind n ih =>
      cases s with
      | nil =>
          rcases h.exists_eq_append with ⟨after, heq⟩
          rw [lexFrom] at heq
          exact absurd heq.symm (by simp)
      | cons c s =>
          rcases exists_lexFrom_cons blockRules_faithful (startsLine past) c s with
            ⟨left, hne, hleft, hshort, hlex⟩
          rw [hlex, ← startsLine_reverse_append hne past] at h
          rcases h.lexemesAt_cases with ⟨hplace, f, hshown⟩ | ⟨more, rfl, hmore⟩
          · exact ⟨[], c :: s, rfl, hplace, f, hshown⟩
          · -- The fence is in what is left, with what is found here above it.
            rcases ih _ (hn ▸ hshort) hmore rfl with ⟨above, rest, rfl, hplace, f, hshown⟩
            refine ⟨spelling (lexemesAt blockRules (startsLine past) c s) ++ above, rest, ?_, ?_,
              f, ?_, hshown.opening, hshown.middle, hshown.closing⟩
            · rw [List.append_assoc, hleft]
            · rwa [List.reverse_append, List.append_assoc]
            · rw [spelling_append, hshown.before, List.append_assoc]

end Paired

/-- Where a fence is displayed, a line of the text starts with the run that opens it, after
    spaces and tabs, and the first later line that has just this run between spaces and tabs
    is the line of the run that closes it. The opening run is all the backticks that stand
    there just if some later line has just those. -/
theorem exists_closedFence_of_lex {s : List Char} {before middle : List Lexeme}
    {opening closing : Lexeme}
    (h : Paired (Language.codeblock.lex s) before opening middle closing) :
    ∃ above rest, s = above ++ rest ∧ startsLine above.reverse = true ∧
      ∃ f : ClosedFence rest, f.Shown above before opening middle closing ∧
        (f.label.head? ≠ some '\x60' ↔
          ∃ line ∈ f.later.splitOn '\n', Closes f.complete line) := by
  have hlex : Paired (lexFrom blockRules (startsLine []) s) before opening middle closing := h
  rcases hlex.exists_shown with ⟨above, rest, hs, hplace, f, hshown⟩
  rw [List.append_nil] at hplace
  exact ⟨above, rest, hs, hplace, f, hshown, f.complete_iff⟩

/-- A fence of four backticks with three of them in its content. -/
theorem exists_closedFence_four :
    let text := "a: x\n\t\x60\x60\x60\x60md\n\x60\x60\x60\n\x60\x60\x60\x60 \nz".toList
    let before : List Lexeme := [⟨.key, ['a']⟩, ⟨.punctuation, [':']⟩, ⟨.whitespace, [' ']⟩,
      ⟨.string, ['x']⟩, ⟨.whitespace, ['\n']⟩, ⟨.whitespace, ['\t']⟩]
    let run : Lexeme := ⟨.backtick, List.replicate 4 '\x60'⟩
    let middle : List Lexeme := [⟨.label, ['m', 'd']⟩, ⟨.whitespace, ['\n']⟩,
      ⟨.doc, List.replicate 3 '\x60' ++ ['\n']⟩]
    Paired (Language.codeblock.lex text) before run middle run ∧
      ∃ above rest, text = above ++ rest ∧ startsLine above.reverse = true ∧
        ∃ f : ClosedFence rest, f.Shown above before run middle run ∧
          (f.label.head? ≠ some '\x60' ↔
            ∃ line ∈ f.later.splitOn '\n', Closes f.complete line) := by
  intro text before run middle
  have hpaired : Paired (Language.codeblock.lex text) before run middle run :=
    { exists_eq_append :=
        ⟨[⟨.whitespace, [' ']⟩, ⟨.whitespace, ['\n']⟩, ⟨.string, ['z']⟩], by decide +kernel⟩
      even_before := by decide
      opening := rfl
      middle := by decide
      closing := rfl }
  exact ⟨hpaired, exists_closedFence_of_lex hpaired⟩

/-- Four backticks of which only three are repeated: no later line closes the complete run,
    but a fence is displayed, and the fourth is its label. -/
theorem not_complete_of_shorter_repeated :
    let text := "a: x\n\x60\x60\x60\x60\ny\n\x60\x60\x60"
    ∃ before middle run, Paired (Language.codeblock.lexTidied text) before run middle run ∧
      spelling before = "a: x\n".toList ∧ run.text = List.replicate 3 '\x60' ∧
      (spelling middle).head? = some '\x60' ∧
      ∀ line ∈ ((tidy text.toList).splitOn '\n').drop 2, ¬ Closes 4 line := by
  intro text
  let before : List Lexeme := [⟨.key, ['a']⟩, ⟨.punctuation, [':']⟩, ⟨.whitespace, [' ']⟩,
    ⟨.string, ['x']⟩, ⟨.whitespace, ['\n']⟩]
  let run : Lexeme := ⟨.backtick, List.replicate 3 '\x60'⟩
  let middle : List Lexeme := [⟨.label, ['\x60']⟩, ⟨.whitespace, ['\n']⟩, ⟨.doc, ['y', '\n']⟩]
  have hpaired : Paired (Language.codeblock.lexTidied text) before run middle run :=
    { exists_eq_append := ⟨[⟨.whitespace, ['\n']⟩], by decide +kernel⟩
      even_before := by decide
      opening := rfl
      middle := by decide
      closing := rfl }
  have hlines : ∀ line ∈ ((tidy text.toList).splitOn '\n').drop 2, closing? 4 line = none := by
    decide +kernel
  refine ⟨before, middle, run, hpaired, rfl, rfl, rfl, fun line hline => ?_⟩
  exact (closing?_eq_none_iff_not_closes (by decide)).1 (hlines line hline)

end Stencil.Highlight
