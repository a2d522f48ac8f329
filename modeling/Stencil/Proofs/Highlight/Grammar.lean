import Stencil.Highlight.Lexeme
import Stencil.Proofs.Block.Patterns
import Stencil.Proofs.Pattern.Rows

/-!
# Lexers as They Are Written

A lexer is written as a list of patterns, each with the kinds of what it finds.

Such a lexer is a loop. At each place the patterns are tried in order, anchored
there; the first that fits is passed as a whole, and what becomes of it are
lexemes: a single one for all that was passed, or one for each group that captured
something. Where none fits, one character is passed, as white space if it is a
line feed and as an error otherwise. The loop ends at the end of the text, if
nothing fits there.

Three things that a lexer should do are not part of that. What a pattern passes
outside of its groups shows in no lexeme; a pattern that fits the empty text makes
the loop stand still; and where the patterns leave a gap there are errors. `Lexes`
is the loop as a relation, with finitely many steps, so that it can fail in
all of these ways. `Agree` compares patterns with rules, which pass just what
their lexemes spell, and from it `lexes_iff` gets the comparison of the loops.

## Main definitions

* `WrittenRule`: A pattern, and what becomes of what it fits.
* `WrittenRule.take?`: What a rule makes of a place in a text.
* `Lexes`: The lexemes that the loop comes to.
* `Agree`: Written rules and rules find the same everywhere.
* `Rule.Proper`: A rule takes something, and shows it.

## Theorems

* `Lexes.unique`: The loop comes to no more than one list of lexemes.
* `Agree.append`: Rules can be compared one by one.
* `lexes_iff`: Where rules agree, so do the lexers.
* `proper_lexFrom`: The lexemes of proper rules that leave no gaps.
-/

namespace Stencil.Highlight

open Pattern (Cursor)

/-! ## The loop -/

/-- What becomes of what a pattern fits. The lexers have rules of these two kinds and no others. -/
inductive Shown where
  /-- All of it is one lexeme. -/
  | whole (kind : Kind)
  /-- What the groups capture are lexemes. -/
  | groups (kinds : List Kind)
deriving DecidableEq, Repr

/-- The lexemes of a fit between two cursors. A group that captured nothing shows nothing, and
    empty pieces are left out. -/
def Shown.lexemes (shown : Shown) (p : Pattern) (c d : Cursor) : List Lexeme :=
  match shown with
  | whole kind => [⟨kind, Pattern.before c.rest d.rest⟩]
  | groups kinds => Highlight.lexemes (kinds.zip ((p.captures d).map (·.getD [])))

/-- A rule as it is written. The pattern is given by its source, which is read like that of any
    other pattern. -/
structure WrittenRule where
  source : String
  shown : Shown
deriving DecidableEq, Repr

/-- The pattern of a rule, in which places at the ends of the text are also at the
    ends of each line. -/
def WrittenRule.pattern (rule : WrittenRule) : Except Pattern.Error Pattern :=
  Pattern.ofSource ("(?m:" ++ rule.source ++ ")")

/-- The lexemes that a rule finds at a place, and the place behind them. -/
def WrittenRule.take? (rule : WrittenRule) (c : Cursor) : Option (List Lexeme × Cursor) :=
  match rule.pattern with
  | .error _ => none
  | .ok p => (p.fit? false c).map fun d => (rule.shown.lexemes p c d, ⟨d.past, d.rest, []⟩)

/-- What the first rule that finds something finds. -/
def takeFirst? (rules : List WrittenRule) (c : Cursor) : Option (List Lexeme × Cursor) :=
  rules.findSome? fun rule => rule.take? c

/-- The lexemes of a text from a place on, by the loop of a lexer with rules as they are written.
    It is a relation, so that it assumes neither that the loop ends nor that it comes to one
    result. -/
inductive Lexes (rules : List WrittenRule) : Cursor → List Lexeme → Prop
  /-- The first rule that fits is applied. -/
  | step {c d : Cursor} {ls more : List Lexeme} (h : takeFirst? rules c = some (ls, d))
      (hmore : Lexes rules d more) : Lexes rules c (ls ++ more)
  /-- Where no rule fits, a line feed is white space. -/
  | newline {past s : List Char} {more : List Lexeme}
      (h : takeFirst? rules ⟨past, '\n' :: s, []⟩ = none)
      (hmore : Lexes rules ⟨'\n' :: past, s, []⟩ more) :
      Lexes rules ⟨past, '\n' :: s, []⟩ (⟨.whitespace, ['\n']⟩ :: more)
  /-- Where no rule fits, any other character is an error. -/
  | stray {c : Char} {past s : List Char} {more : List Lexeme} (hc : c ≠ '\n')
      (h : takeFirst? rules ⟨past, c :: s, []⟩ = none)
      (hmore : Lexes rules ⟨c :: past, s, []⟩ more) :
      Lexes rules ⟨past, c :: s, []⟩ (⟨.error, [c]⟩ :: more)
  /-- At the end of the text, where no rule fits, there is nothing more. -/
  | stop {past : List Char} (h : takeFirst? rules ⟨past, [], []⟩ = none) :
      Lexes rules ⟨past, [], []⟩ []

/-- The loop comes to no more than one list of lexemes. At each place one case applies, and what
    the first rule that fits finds is one thing. -/
theorem Lexes.unique {rules : List WrittenRule} {c : Cursor} {ls ms : List Lexeme}
    (h : Lexes rules c ls) (h' : Lexes rules c ms) : ls = ms := by
  induction h generalizing ms with
  | step hfound hmore ih =>
      cases h' with
      | step hfound' hmore' =>
          rw [hfound, Option.some.injEq, Prod.mk.injEq] at hfound'
          rcases hfound' with ⟨rfl, rfl⟩
          rw [ih hmore']
      | newline hnone _ => exact absurd (hfound.symm.trans hnone) (Option.some_ne_none _)
      | stray _ hnone _ => exact absurd (hfound.symm.trans hnone) (Option.some_ne_none _)
      | stop hnone => exact absurd (hfound.symm.trans hnone) (Option.some_ne_none _)
  | newline hnone hmore ih =>
      cases h' with
      | step hfound _ => exact absurd (hfound.symm.trans hnone) (Option.some_ne_none _)
      | newline _ hmore' => rw [ih hmore']
      | stray hc _ _ => exact absurd rfl hc
  | stray hc hnone hmore ih =>
      cases h' with
      | step hfound _ => exact absurd (hfound.symm.trans hnone) (Option.some_ne_none _)
      | newline _ _ => exact absurd rfl hc
      | stray _ _ hmore' => rw [ih hmore']
  | stop hnone =>
      cases h' with
      | step hfound _ => exact absurd (hfound.symm.trans hnone) (Option.some_ne_none _)
      | stop _ => rfl

/-! ## Rules that agree -/

/-- Whether a line starts behind some characters, the nearest first. -/
def startsLine (past : List Char) : Bool :=
  past.head?.all (· == '\n')

/-- Written rules and rules find the same everywhere: what a written rule passes is
    what its lexemes spell. -/
def Agree (rules : List Rule) (written : List WrittenRule) : Prop :=
  ∀ past s, takeFirst? written ⟨past, s, []⟩ =
    (rules.findSome? fun rule => rule (startsLine past) s).map fun ls =>
      (ls, Cursor.pass ⟨past, s, []⟩ (spelling ls))

/-- Rules can be compared one by one, if they are tried in the same order. -/
theorem Agree.append {rules later : List Rule} {written further : List WrittenRule}
    (h : Agree rules written) (hlater : Agree later further) :
    Agree (rules ++ later) (written ++ further) := by
  intro past s
  rw [takeFirst?, List.findSome?_append, List.findSome?_append]
  show (takeFirst? written _).or (takeFirst? further _) = _
  rw [h past s, hlater past s]
  cases rules.findSome? fun rule => rule (startsLine past) s with
  | none => rfl
  | some ls => rfl

/-- A single written rule, by the search for its pattern. -/
theorem agree_singleton {rule : Rule} {written : WrittenRule} {p : Pattern}
    (hp : written.pattern = .ok p)
    (h : ∀ past s, (p.first ⟨past, s, []⟩ fun d => some (written.shown.lexemes p ⟨past, s, []⟩ d,
        (⟨d.past, d.rest, []⟩ : Cursor))) =
      (rule (startsLine past) s).map fun ls => (ls, Cursor.pass ⟨past, s, []⟩ (spelling ls))) :
    Agree [rule] [written] := by
  intro past s
  have htake : written.take? ⟨past, s, []⟩ = p.first ⟨past, s, []⟩ fun d =>
      some (written.shown.lexemes p ⟨past, s, []⟩ d, (⟨d.past, d.rest, []⟩ : Cursor)) := by
    rw [WrittenRule.take?, hp]
    show (p.fit? false _).map _ = _
    rw [Pattern.fit?, Pattern.first_eq_findSome?, Pattern.first_eq_findSome?, List.map_findSome?]
    rfl
  rw [takeFirst?, List.findSome?_cons, List.findSome?_nil, List.findSome?_cons,
    List.findSome?_nil, htake, h past s]
  cases rule (startsLine past) s with
  | none => rfl
  | some ls => rfl

/-- A written rule with groups agrees with a rule that takes pieces, if the search for its pattern
    ends with groups that cover just the pieces. What is shown of a match are its groups, one
    after the other, so nothing of it may lie between them. -/
theorem agree_of_pieces {rule : Rule} {written : WrittenRule} {p : Pattern} {kinds : List Kind}
    {taken : Bool → List Char → Option (List (List Char))} (hp : written.pattern = .ok p)
    (hshown : written.shown = .groups kinds) (hgroups : p.groups = kinds.length)
    (hrule : ∀ atLineStart s, rule atLineStart s =
      (taken atLineStart s).map fun ts => lexemes (kinds.zip ts))
    (hfaithful : rule.Faithful)
    (hlength : ∀ atLineStart s ts, taken atLineStart s = some ts → ts.length = kinds.length)
    (h : ∀ past s (found : Cursor → List Lexeme × Cursor),
      (p.first ⟨past, s, []⟩ fun d => some (found d)) =
        (taken (startsLine past) s).map fun ts => found (Cursor.close 0 ⟨past, s, []⟩ ts)) :
    Agree [rule] [written] := by
  refine agree_singleton hp fun past s => ?_
  rw [h past s fun d => (written.shown.lexemes p ⟨past, s, []⟩ d, ⟨d.past, d.rest, []⟩), hrule,
    Option.map_map]
  cases hts : taken (startsLine past) s with
  | none => rfl
  | some ts =>
      have hspelling : spelling (lexemes (kinds.zip ts)) = ts.flatten := by
        rw [spelling_lexemes, flatMap_zip (hlength _ _ _ hts)]
      have hflatten : ts.flatten <+: s := by
        rw [← hspelling]
        refine hfaithful (startsLine past) s _ ?_
        rw [hrule, hts, Option.map_some]
      -- The groups capture the pieces, and behind them the place is behind what they spell.
      have hcaptures := Pattern.captures_close (p := p) (c := ⟨past, s, []⟩) hflatten
        (hgroups.trans (hlength _ _ _ hts).symm)
      have hplace := Pattern.place_close 0 ⟨past, s, []⟩ ts
      have htexts : (ts.map some).map (fun t : Option (List Char) => t.getD []) = ts := by
        rw [List.map_map]
        exact List.map_id ts
      rw [Option.map_some, Option.map_some, hshown, Shown.lexemes, hcaptures, htexts, hplace.1,
        hplace.2, Function.comp_apply, hspelling]
      rfl

/-- A written rule with a group for each of some plain patterns agrees with the rule for
    these patterns. -/
theorem agree_ofPieces {pieces : List (Kind × Pattern)} {written : WrittenRule}
    (hbare : ∀ p ∈ pieces.map Prod.snd, p.IsBare)
    (hp : written.pattern = .ok (.inOrder (Pattern.numbered 0 (pieces.map Prod.snd))))
    (hshown : written.shown = .groups (pieces.map Prod.fst)) :
    Agree [Rule.ofPieces pieces] [written] := by
  have hlength : (pieces.map Prod.snd).length = (pieces.map Prod.fst).length := by
    rw [List.length_map, List.length_map]
  have hrule : ∀ atLineStart s, Rule.ofPieces pieces atLineStart s =
      (Pattern.pieces? (pieces.map Prod.snd) s).map fun ts =>
        lexemes ((pieces.map Prod.fst).zip ts) := fun _ _ => rfl
  refine agree_of_pieces hp hshown ((Pattern.groups_row hbare 0).trans hlength) hrule
    (Rule.ofPieces_faithful pieces)
    (fun _ s ts hts => (Pattern.flatten_pieces hts).2.trans hlength)
    fun past s found => Pattern.first_row hbare past s found

/-! ## Runs and single characters -/

theorem contains_member_char (c d : Char) :
    CharSet.Member.contains none (.char d) c = (c == d) := by
  rw [Bool.eq_iff_iff, beq_iff_eq, ← CharSet.contains_single (c := d) (d := c)]
  simp [CharSet.single, CharSet.of, CharSet.contains]

theorem contains_line (c : Char) : Block.lineSet.contains c = (c != '\n') := by
  rw [Bool.eq_iff_iff, Block.contains_lineSet, bne_iff_ne]

theorem contains_newline (c : Char) : (CharSet.single '\n').contains c = (c == '\n') := by
  rw [Bool.eq_iff_iff, CharSet.contains_single, beq_iff_eq]

/-- All of a fit is one lexeme: if a cursor is behind some characters that come next, they
    are its text. -/
theorem lexemes_whole (kind : Kind) (p : Pattern) {past s t rest : List Char}
    (hs : s = t ++ rest) :
    (Shown.whole kind).lexemes p ⟨past, s, []⟩ (Cursor.pass ⟨past, s, []⟩ t) = [⟨kind, t⟩] := by
  rw [Shown.lexemes, Cursor.rest_pass hs]
  show [(⟨kind, Pattern.before s rest⟩ : Lexeme)] = _
  rw [hs, Pattern.before_append_self]

/-- A written rule without groups agrees with the rule for its pattern as a single piece. The
    match must not be empty, since an empty piece is not shown. -/
theorem agree_ofPiece {kind : Kind} {p : Pattern} {written : WrittenRule} (hbare : p.IsBare)
    (hp : written.pattern = .ok p) (hshown : written.shown = .whole kind)
    (htake : ∀ s, ∀ d ∈ p.results (.start s), Pattern.before s d.rest ≠ []) :
    Agree [Rule.ofPieces [(kind, p)]] [written] := by
  refine agree_singleton hp fun past s => ?_
  have hpieces : Pattern.pieces? [p] s =
      (p.results (.start s)).head?.map fun d => [Pattern.before s d.rest] :=
    Pattern.first_some p (.start s) fun d => [Pattern.before s d.rest]
  rw [Pattern.first_eq_start hbare, Pattern.first_some, Rule.ofPieces]
  show _ = ((Pattern.pieces? [p] s).map _).map _
  rw [hpieces, Option.map_map, Option.map_map]
  cases hd : (p.results (.start s)).head? with
  | none => rfl
  | some d =>
      have hmem := List.mem_of_mem_head? hd
      -- What lies between the two places is passed, and it is not empty.
      let t := Pattern.before s d.rest
      have hs : s = t ++ d.rest := (Pattern.reaches_of_mem_results hmem).before_append.symm
      have hpast : d.past = t.reverse := by
        rw [Pattern.eq_pass_of_mem_results hbare hmem]
        exact List.append_nil _
      have hplace : (⟨d.past ++ past, d.rest, []⟩ : Cursor) = Cursor.pass ⟨past, s, []⟩ t := by
        rw [Cursor.pass_eq (c := ⟨past, s, []⟩) hs, hpast]
      have hlexemes : lexemes [(kind, t)] = [⟨kind, t⟩] := by
        simp [lexemes, show t ≠ [] from htake s d hmem]
      show some (written.shown.lexemes p ⟨past, s, []⟩ ⟨d.past ++ past, d.rest, []⟩,
        (⟨d.past ++ past, d.rest, []⟩ : Cursor)) =
          some (lexemes [(kind, t)], Cursor.pass ⟨past, s, []⟩ (spelling (lexemes [(kind, t)])))
      rw [hplace, hshown, lexemes_whole kind p hs, hlexemes]
      simp

/-- The longest run of a class, as it is written and as a rule. -/
theorem agree_ofRun {isPart : Char → Bool} {kind : Kind} {set : CharSet} {written : WrittenRule}
    (hset : ∀ c, set.contains c = isPart c) (hp : written.pattern = .ok (.run set 1 none))
    (hshown : written.shown = .whole kind) : Agree [Rule.ofRun isPart kind] [written] := by
  refine agree_singleton hp fun past s => ?_
  have hrun : set.contains = isPart := funext hset
  rw [hshown, Pattern.first_run_some, Rule.ofRun, hrun]
  show (if 1 ≤ (s.takeWhile isPart).length then _ else _) = _
  cases ht : s.takeWhile isPart with
  | nil => rfl
  | cons c t =>
      have hs : s = (c :: t) ++ s.dropWhile isPart := by
        rw [← ht, List.takeWhile_append_dropWhile]
      rw [if_pos (by simp), lexemes_whole kind _ hs]
      simp [Cursor.pass]

/-- A single character of a class, as it is written and as a rule. -/
theorem agree_ofChar {isPart : Char → Bool} {kind : Kind} {set : CharSet} {written : WrittenRule}
    (hset : ∀ c, set.contains c = isPart c) (hp : written.pattern = .ok (.one set))
    (hshown : written.shown = .whole kind) : Agree [Rule.ofChar isPart kind] [written] := by
  refine agree_singleton hp fun past s => ?_
  rw [hshown, Pattern.first_one]
  cases s with
  | nil => rfl
  | cons c s =>
      rw [Rule.ofChar]
      show (if set.contains c = true then _ else none) = _
      rw [hset]
      by_cases hc : isPart c = true
      · rw [if_pos hc, if_pos hc, lexemes_whole kind _ (List.singleton_append (l := s)).symm]
        rfl
      · rw [if_neg hc, if_neg hc]
        rfl

/-! ## Proper rules -/

/-- A rule takes something wherever it applies, and shows it as pieces that are neither
    empty nor errors. -/
structure Rule.Proper (rule : Rule) : Prop where
  spelling_ne_nil : ∀ {atLineStart s ls}, rule atLineStart s = some ls → spelling ls ≠ []
  of_mem : ∀ {atLineStart s ls}, rule atLineStart s = some ls →
    ∀ l ∈ ls, l.text ≠ [] ∧ l.kind ≠ .error

/-- Rules leave no gaps if one of them applies wherever something is left. Then the cases of the
    loop where no rule fits are never reached. -/
def NoGaps (rules : List Rule) : Prop :=
  ∀ atLineStart c s, ∃ rule ∈ rules, (rule atLineStart (c :: s)).isSome = true

section Proper

variable {rules : List Rule}

/-- What is found at a place is what the first rule that applies says. The lexer passes over rules
    that take nothing, and the written rules are only tried in order; where every rule takes
    something, that is the same. -/
theorem findSome?_eq_lexemesAt (hproper : ∀ rule ∈ rules, rule.Proper) (hgaps : NoGaps rules)
    (atLineStart : Bool) (c : Char) (s : List Char) :
    (rules.findSome? fun rule => rule atLineStart (c :: s)) =
      some (lexemesAt rules atLineStart c s) := by
  -- Rules that take something are not left out by the filter.
  have hfilter : (rules.findSome? fun rule => rule atLineStart (c :: s)) =
      rules.findSome? fun rule => (rule atLineStart (c :: s)).filter
        fun ls => !(spelling ls).isEmpty := by
    refine Pattern.findSome?_congr fun rule hrule => ?_
    cases hls : rule atLineStart (c :: s) with
    | none => rfl
    | some ls =>
        have hne := (hproper rule hrule).spelling_ne_nil hls
        simp [Option.filter, hne]
  have hsome : (rules.findSome? fun rule => rule atLineStart (c :: s)).isSome = true := by
    rw [List.findSome?_isSome_iff]
    exact hgaps atLineStart c s
  rcases Option.isSome_iff_exists.1 hsome with ⟨ls, hls⟩
  rw [lexemesAt, ← hfilter, hls]
  rfl

/-- Nothing is found at the end of a text. -/
theorem findSome?_nil (hproper : ∀ rule ∈ rules, rule.Proper)
    (hfaithful : ∀ rule ∈ rules, rule.Faithful) (atLineStart : Bool) :
    (rules.findSome? fun rule => rule atLineStart []) = none := by
  rw [List.findSome?_eq_none_iff]
  intro rule hrule
  cases hls : rule atLineStart [] with
  | none => rfl
  | some ls =>
      have hspelling := List.prefix_nil.1 (hfaithful rule hrule _ _ _ hls)
      exact absurd hspelling ((hproper rule hrule).spelling_ne_nil hls)

/-- A line starts behind what has just been passed if that ends one. -/
theorem startsLine_reverse_append {t : List Char} (ht : t ≠ []) (past : List Char) :
    startsLine (t.reverse ++ past) = endsLine t := by
  have hlast : t.getLast? = some (t.getLast ht) := List.getLast?_eq_some_getLast ht
  rw [startsLine, endsLine, List.head?_append, List.head?_reverse, hlast]
  rfl

/-- A step of a lexer takes something and goes on with what is left. That is less, so an induction
    over what is left goes through. -/
theorem exists_lexFrom_cons (hfaithful : ∀ rule ∈ rules, rule.Faithful) (atLineStart : Bool)
    (c : Char) (s : List Char) :
    ∃ rest, spelling (lexemesAt rules atLineStart c s) ≠ [] ∧
      spelling (lexemesAt rules atLineStart c s) ++ rest = c :: s ∧
      rest.length < (c :: s).length ∧
      lexFrom rules atLineStart (c :: s) = lexemesAt rules atLineStart c s ++
        lexFrom rules (endsLine (spelling (lexemesAt rules atLineStart c s))) rest := by
  rcases spelling_lexemesAt hfaithful atLineStart c s with ⟨⟨rest, hrest⟩, hne⟩
  refine ⟨rest, hne, hrest, ?_, lexFrom_cons rfl hne hrest⟩
  have hpos := List.length_pos_iff.2 hne
  rw [← hrest, List.length_append]
  omega

/-- Where rules agree, the loop comes to the lexemes of the lexer. Each step passes what its
    lexemes spell, so both are at the same place after it. -/
theorem lexes_lexFrom {written : List WrittenRule} (hagree : Agree rules written)
    (hfaithful : ∀ rule ∈ rules, rule.Faithful) (hproper : ∀ rule ∈ rules, rule.Proper)
    (hgaps : NoGaps rules) (past s : List Char) :
    Lexes written ⟨past, s, []⟩ (lexFrom rules (startsLine past) s) := by
  induction hn : s.length using Nat.strongRecOn generalizing past s with
  | ind n ih =>
      cases s with
      | nil =>
          rw [lexFrom]
          refine .stop ?_
          rw [hagree, findSome?_nil hproper hfaithful]
          rfl
      | cons c s =>
          rcases exists_lexFrom_cons hfaithful (startsLine past) c s with
            ⟨rest, hne, hrest, hshort, hlex⟩
          rw [hlex, ← startsLine_reverse_append hne past]
          refine .step ?_ (ih _ (hn ▸ hshort) _ rest rfl)
          -- The written rules find the same, and pass what it spells.
          rw [hagree, findSome?_eq_lexemesAt hproper hgaps, Option.map_some, Cursor.pass, ← hrest,
            List.drop_left]

/-- Where rules agree, what the loop comes to are the lexemes of the lexer. That they are reached,
    and that nothing else is, are the two halves. -/
theorem lexes_iff {written : List WrittenRule} (hagree : Agree rules written)
    (hfaithful : ∀ rule ∈ rules, rule.Faithful) (hproper : ∀ rule ∈ rules, rule.Proper)
    (hgaps : NoGaps rules) {s : List Char} {ls : List Lexeme} :
    Lexes written (.start s) ls ↔ ls = lex rules s := by
  have hlexes : Lexes written (.start s) (lex rules s) :=
    lexes_lexFrom hagree hfaithful hproper hgaps [] s
  constructor
  · exact fun h => h.unique hlexes
  · rintro rfl
    exact hlexes

/-- Proper rules that leave no gaps give lexemes that are neither empty nor errors. -/
theorem proper_lexFrom (hfaithful : ∀ rule ∈ rules, rule.Faithful)
    (hproper : ∀ rule ∈ rules, rule.Proper) (hgaps : NoGaps rules) (atLineStart : Bool)
    (s : List Char) : ∀ l ∈ lexFrom rules atLineStart s, l.text ≠ [] ∧ l.kind ≠ .error := by
  induction hn : s.length using Nat.strongRecOn generalizing atLineStart s with
  | ind n ih =>
      cases s with
      | nil => simp [lexFrom]
      | cons c s =>
          rcases exists_lexFrom_cons hfaithful atLineStart c s with ⟨rest, -, -, hshort, hlex⟩
          rw [hlex, List.forall_mem_append]
          -- The lexemes of this step are those of one rule, and that is proper.
          refine ⟨?_, ih _ (hn ▸ hshort) _ rest rfl⟩
          rcases List.exists_of_findSome?_eq_some
            (findSome?_eq_lexemesAt hproper hgaps atLineStart c s) with ⟨rule, hrule, hls⟩
          exact (hproper rule hrule).of_mem hls

end Proper

end Stencil.Highlight
