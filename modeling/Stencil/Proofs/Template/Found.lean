import Stencil.Proofs.Pattern.Covers
import Stencil.Proofs.Template.Written
import Stencil.Template.Scan

/-!
# Placeholders are Found

The registry of the three forms finds what is written, and nothing else.

Two descriptions of a placeholder meet here. The forms describe it by patterns,
which a search with backtracking fits to a place of the text, and which are
fitted a second time to what was found, for their groups. `Written` describes
it by what stands between the braces. `written_of_covers` and
`covers_of_written` translate between the two; no pattern is looked at after
that.

Since only one placeholder can be written at a place, it does not matter in
which order the forms are tried, nor which of several fits comes first: they
all cover the same text, and what they capture differs in outer blanks at most.
So the second fit cannot fail, building a placeholder cannot fail, and scanning
cannot fail. What a scan gives is then shown to be the tokens of the text, by
induction over its length, one find after the other.

## Theorems

* `written_of_covers`, `covers_of_written`: What the forms cover is what is written.
* `findAt?_standard`: What is found at a place is the placeholder written there.
* `searchFrom?_standard`: What is found first is the first placeholder.
* `scanFrom_standard`: The tokens that a scan gives are the tokens of the text.
* `outcome_tokenize_of_tiles`: The tokens of a text are what reading it gives.
* `outcome_tokenize_standard`: A template has tokens, and only these.
-/

namespace Stencil.Template

open Pattern (Captured Cursor Covers)

namespace Registry

/-! ## The parts of the forms -/

/-- The class of the characters of names. -/
theorem contains_nameSet (c : Char) :
    (CharSet.of [.range 'a' 'z', .range 'A' 'Z', .char '-']).contains c = isNameChar c := by
  have hdash : (decide ('-' ≤ c) && decide (c ≤ '-')) = (c == '-') := by
    rw [Bool.eq_iff_iff, Bool.and_eq_true, decide_eq_true_eq, decide_eq_true_eq, beq_iff_eq]
    exact ⟨fun h => Char.le_antisymm h.2 h.1, fun h => h ▸ ⟨Char.le_refl _, Char.le_refl _⟩⟩
  have hlower : (decide ('a' ≤ c) && decide (c ≤ 'z')) = c.isLower := rfl
  have hupper : (decide ('A' ≤ c) && decide (c ≤ 'Z')) = c.isUpper :=
    (Bool.decide_and _ _).symm
  simp only [CharSet.of, CharSet.contains, CharSet.Member.char, CharSet.Member.contains,
    List.any_cons, List.any_nil, Bool.or_false, Bool.bne_false, hdash, hlower, hupper]
  rw [isNameChar, ← Bool.or_assoc, Bool.or_comm c.isLower]
  rfl

theorem covers_namePattern_iff {t : List Char} {captured : Captured} :
    namePattern.Covers t captured ↔ IsName t ∧ captured = [] := by
  rw [namePattern, Pattern.covers_run_iff]
  simp only [contains_nameSet]
  constructor
  · rintro ⟨hset, hleast, -, rfl⟩
    refine ⟨⟨?_, hset⟩, rfl⟩
    rintro rfl
    exact absurd hleast (by simp)
  · rintro ⟨hname, rfl⟩
    exact ⟨hname.isNameChar, List.length_pos_iff.2 hname.ne_nil, by simp, rfl⟩

theorem covers_fallbackPattern_iff {t : List Char} {captured : Captured} :
    fallbackPattern.Covers t captured ↔ (t ≠ [] ∧ '\x7d' ∉ t) ∧ captured = [] := by
  have hset : ∀ c : Char, (CharSet.allBut [.char '\x7d']).contains c = true ↔ c ≠ '\x7d' := by
    intro c
    have hsingle := CharSet.contains_single (c := '\x7d') (d := c)
    have hnot : (CharSet.allBut [.char '\x7d']).contains c = !(CharSet.single '\x7d').contains c := by
      simp [CharSet.allBut, CharSet.single, CharSet.of, CharSet.contains]
    rw [hnot, Bool.not_eq_true', Bool.eq_false_iff, Ne, hsingle]
  rw [fallbackPattern, Pattern.covers_run_iff]
  simp only [hset]
  constructor
  · rintro ⟨hall, hleast, -, rfl⟩
    refine ⟨⟨?_, fun hmem => hall _ hmem rfl⟩, rfl⟩
    rintro rfl
    exact absurd hleast (by simp)
  · rintro ⟨⟨hne, hbrace⟩, rfl⟩
    refine ⟨?_, List.length_pos_iff.2 hne, by simp, rfl⟩
    rintro c hc rfl
    exact hbrace hc

/-- What all forms have in common: two braces and a padded name. The name is the first group that
    is captured, so it stands last in the list of captures. -/
theorem covers_bracedPattern_iff {pieces : List Pattern} {t : List Char} {captured : Captured} :
    (bracedPattern pieces).Covers t captured ↔
      ∃ name padded tail inner, IsName name ∧ Padded name padded ∧
        t = '\x7b' :: '\x7b' :: (padded ++ tail) ∧ captured = inner ++ [(1, name)] ∧
        (Pattern.inOrder (pieces ++ [.char '\x7d', .char '\x7d'])).Covers tail inner := by
  have hpieces : bracedPattern pieces = .inOrder (.char '\x7b' :: .char '\x7b' :: .blanks ::
      .group 1 namePattern :: .blanks :: (pieces ++ [.char '\x7d', .char '\x7d'])) := rfl
  rw [hpieces, Pattern.covers_inOrder_char_iff]
  simp only [Pattern.covers_inOrder_char_iff, Pattern.covers_inOrder_blanks_iff,
    Pattern.covers_inOrder_group_iff, covers_namePattern_iff]
  -- Both directions move the same parts about: the braces, the blanks around the name, the name,
  -- and what follows.
  constructor
  · rintro ⟨_, rfl, _, rfl, before, _, rfl, hbefore, name, _, _, inner, rfl, rfl,
      ⟨hname, rfl⟩, after, tail, rfl, hafter, htail⟩
    exact ⟨name, before ++ name ++ after, tail, inner, hname, ⟨hbefore, hafter⟩, by simp, rfl, htail⟩
  · rintro ⟨name, _, tail, inner, hname, @⟨before, after, hbefore, hafter⟩, rfl, rfl, htail⟩
    exact ⟨_, rfl, _, rfl, before, name ++ (after ++ tail), by simp, hbefore, name, after ++ tail,
      [], inner, rfl, rfl, ⟨hname, rfl⟩, after, tail, rfl, hafter, htail⟩

/-- All forms end with two braces. -/
theorem covers_closing_iff {t : List Char} {captured : Captured} :
    (Pattern.inOrder [.char '\x7d', .char '\x7d']).Covers t captured ↔
      t = ['\x7d', '\x7d'] ∧ captured = [] := by
  simp only [Pattern.covers_inOrder_char_iff, Pattern.covers_inOrder_nil_iff]
  constructor
  · rintro ⟨_, rfl, _, rfl, rfl, rfl⟩
    exact ⟨rfl, rfl⟩
  · rintro ⟨rfl, rfl⟩
    exact ⟨_, rfl, _, rfl, rfl, rfl⟩

/-! ## What the forms cover -/

theorem covers_required_iff {t : List Char} {captured : Captured} :
    (bracedPattern []).Covers t captured ↔
      ∃ name padded, IsName name ∧ Padded name padded ∧ t = inBraces padded ∧
        captured = [(1, name)] := by
  rw [covers_bracedPattern_iff]
  simp only [List.nil_append, covers_closing_iff]
  constructor
  · rintro ⟨name, padded, _, _, hname, hpadded, rfl, rfl, rfl, rfl⟩
    exact ⟨name, padded, hname, hpadded, rfl, rfl⟩
  · rintro ⟨name, padded, hname, hpadded, rfl, rfl⟩
    exact ⟨name, padded, _, _, hname, hpadded, rfl, rfl, rfl, rfl⟩

theorem covers_optional_iff {t : List Char} {captured : Captured} :
    (bracedPattern [.char '?', .blanks]).Covers t captured ↔
      ∃ name padded last, IsName name ∧ Padded name padded ∧
        (∀ c ∈ last, Text.isBlank c = true) ∧ t = inBraces (padded ++ '?' :: last) ∧
        captured = [(1, name)] := by
  rw [covers_bracedPattern_iff]
  simp only [List.cons_append, List.nil_append, Pattern.covers_inOrder_char_iff,
    Pattern.covers_inOrder_blanks_iff, Pattern.covers_inOrder_nil_iff]
  constructor
  · rintro ⟨name, padded, _, _, hname, hpadded, rfl, rfl, _, rfl, last, _, rfl, hlast,
      _, rfl, _, rfl, rfl, rfl⟩
    exact ⟨name, padded, last, hname, hpadded, hlast, by simp [inBraces], rfl⟩
  · rintro ⟨name, padded, last, hname, hpadded, hlast, rfl, rfl⟩
    exact ⟨name, padded, _, [], hname, hpadded, by simp [inBraces], rfl, _, rfl, last, _, rfl,
      hlast, _, rfl, _, rfl, rfl, rfl⟩

theorem covers_fallback_iff {t : List Char} {captured : Captured} :
    (bracedPattern [.char '|', .blanks, .group 2 fallbackPattern, .blanks]).Covers t captured ↔
      ∃ name padded text wide, IsName name ∧ Padded name padded ∧ (text ≠ [] ∧ '\x7d' ∉ text) ∧
        Padded text wide ∧ t = inBraces (padded ++ '|' :: wide) ∧
        captured = [(2, text), (1, name)] := by
  rw [covers_bracedPattern_iff]
  simp only [List.cons_append, List.nil_append, Pattern.covers_inOrder_char_iff,
    Pattern.covers_inOrder_blanks_iff, Pattern.covers_inOrder_group_iff,
    Pattern.covers_inOrder_nil_iff, covers_fallbackPattern_iff]
  constructor
  · rintro ⟨name, padded, _, _, hname, hpadded, rfl, rfl, _, rfl, before, _, rfl, hbefore,
      text, _, _, _, rfl, rfl, ⟨htext, rfl⟩, after, _, rfl, hafter, _, rfl, _, rfl, rfl, rfl⟩
    exact ⟨name, padded, text, _, hname, hpadded, htext, ⟨hbefore, hafter⟩, by simp [inBraces],
      rfl⟩
  · rintro ⟨name, padded, text, _, hname, hpadded, htext, @⟨before, after, hbefore, hafter⟩,
      rfl, rfl⟩
    exact ⟨name, padded, '|' :: (before ++ (text ++ (after ++ ['\x7d', '\x7d']))), [(2, text)],
      hname, hpadded, by simp [inBraces], rfl, _, rfl, before, _, rfl, hbefore, text, _, [], [],
      rfl, rfl, ⟨htext, rfl⟩, after, _, rfl, hafter, _, rfl, _, rfl, rfl, rfl⟩

/-- A text that a form covers is a placeholder, which is built from what the form captures. The
    name is trimmed once more when it is built, which does nothing to it, and so is the text of a
    fallback, which takes the blanks from it that the pattern left. -/
theorem written_of_covers {entry : Entry} (hentry : entry ∈ standard.entries) {t : List Char}
    {captured : Captured} (h : entry.pattern.Covers t captured) :
    ∃ p : Placeholder, p.Written t ∧ entry.form.placeholder
      ((List.range entry.pattern.groups).map fun i => captured.lookup (i + 1)) = .ok p := by
  simp only [standard, List.mem_cons, List.not_mem_nil, or_false] at hentry
  rcases hentry with rfl | rfl | rfl
  · rcases covers_required_iff.1 h with ⟨name, padded, hname, hpadded, rfl, rfl⟩
    refine ⟨_, ⟨padded, .required hname hpadded, rfl⟩, ?_⟩
    conv_rhs => rw [← hname.trim_eq]
    rfl
  · rcases covers_optional_iff.1 h with ⟨name, padded, last, hname, hpadded, hlast, rfl, rfl⟩
    refine ⟨_, ⟨_, .optional hname hpadded hlast, rfl⟩, ?_⟩
    conv_rhs => rw [← hname.trim_eq]
    rfl
  · rcases covers_fallback_iff.1 h with ⟨name, padded, text, wide, hname, hpadded, ⟨hne, hbrace⟩,
      hwide, rfl, rfl⟩
    -- The blanks around the captured text are none of it, whichever of them were captured.
    have hwideNe : wide ≠ [] := by
      rcases hwide with ⟨hbefore, hafter⟩
      simp [hne]
    have hwideBrace : '\x7d' ∉ wide := by
      rcases hwide with ⟨hbefore, hafter⟩
      simp only [List.mem_append, not_or]
      exact ⟨⟨fun hmem => absurd (hbefore _ hmem) (by decide), hbrace⟩,
        fun hmem => absurd (hafter _ hmem) (by decide)⟩
    refine ⟨_, ⟨_, .fallback hname hpadded hwideNe hwideBrace, rfl⟩, ?_⟩
    conv_rhs => rw [← hname.trim_eq, hwide.trim_eq]
    rfl

/-- A placeholder that is written is covered by some form: the one that builds its rule. -/
theorem covers_of_written {p : Placeholder} {t : List Char} (h : p.Written t) :
    ∃ entry ∈ standard.entries, ∃ captured, entry.pattern.Covers t captured := by
  rcases h with ⟨inner, hinner, rfl⟩
  cases hinner with
  | required hname hpadded =>
      exact ⟨_, List.mem_cons_self, _,
        covers_required_iff.2 ⟨_, _, hname, hpadded, rfl, rfl⟩⟩
  | optional hname hpadded hlast =>
      exact ⟨_, List.mem_cons_of_mem _ List.mem_cons_self, _,
        covers_optional_iff.2 ⟨_, _, _, hname, hpadded, hlast, rfl, rfl⟩⟩
  -- The pattern is free to leave all blanks to the captured text, so the blanks around it can be
  -- none.
  | @fallback name padded text hname hpadded hne hbrace =>
      have hwide : Padded text ([] ++ text ++ []) :=
        ⟨List.forall_mem_nil _, List.forall_mem_nil _⟩
      exact ⟨_, List.mem_cons_of_mem _ (List.mem_cons_of_mem _ List.mem_cons_self), _,
        covers_fallback_iff.2 ⟨_, _, _, _, hname, hpadded, ⟨hne, hbrace⟩, hwide, by simp, rfl⟩⟩

/-! ## What is found at a place -/

/-- The forms are plain, and read the same in their place as on their own. -/
theorem isPlain_of_mem_standard {entry : Entry} (h : entry ∈ standard.entries) :
    entry.pattern.isPlain = true ∧ entry.placed = entry.pattern := by
  simp only [standard, List.mem_cons, List.not_mem_nil, or_false] at h
  rcases h with rfl | rfl | rfl <;> exact ⟨rfl, rfl⟩

/-- A find is of the form that it was found by. -/
theorem identify_standard {entry : Entry} (h : entry ∈ standard.entries) (c : Cursor)
    (text : List Char) :
    identify ⟨standard.groupNames, entry.taken c, text⟩ standard.entries = .ok entry := by
  simp only [standard, List.mem_cons, List.not_mem_nil, or_false] at h
  rcases h with rfl | rfl | rfl <;> rfl

/-- What the find is built from is what stands there. -/
theorem build_standard {entry : Entry} (h : entry ∈ standard.entries) {t : List Char}
    {captured : Captured} (ht : entry.pattern.Covers t captured) (c : Cursor) :
    ∃ p : Placeholder, p.Written t ∧
      standard.build ⟨standard.groupNames, entry.taken c, t⟩ = .ok p := by
  rcases Pattern.whole?_of_covers (isPlain_of_mem_standard h).1 ht with ⟨found, hfound, hwhole⟩
  rcases written_of_covers h hfound with ⟨p, hwritten, hplaceholder⟩
  refine ⟨p, hwritten, ?_⟩
  rw [build, identify_standard h]
  simp only [bind, Except.bind, hwhole]
  exact hplaceholder

/-- What is found at a place is the placeholder that is written there, and where nothing is found,
    there is none. The patterns search and the placeholders are written by rules, so this is where
    the two meet. -/
theorem findAt?_standard (past s : List Char) :
    match standard.findAt? false past s with
    | none => ¬ StartsHole s
    | some (find, rest) => ∃ p : Placeholder, p.Written find.text ∧
        standard.build find = .ok p ∧ find.text ++ rest = s := by
  split
  · rename_i hnone
    rintro ⟨p, lexeme, hwritten, rest, rfl⟩
    -- Some form covers the placeholder, and would have been found.
    rcases covers_of_written hwritten with ⟨entry, hentry, captured, hcovers⟩
    have hfit := Pattern.isSome_fit?_of_covers hcovers (c := ⟨past, lexeme ++ rest, []⟩) rfl
    have hmiss := List.findSome?_eq_none_iff.1 hnone entry hentry
    rw [Option.map_eq_none_iff, (isPlain_of_mem_standard hentry).2] at hmiss
    rw [hmiss] at hfit
    exact absurd hfit (by simp)
  · rename_i find rest hsome
    -- The form that fits covers what it finds, and what it covers is a placeholder.
    have happend := findAt?_append hsome
    rcases List.exists_of_findSome?_eq_some hsome with ⟨entry, hentry, hmap⟩
    rcases Option.map_eq_some_iff.1 hmap with ⟨c, hfit, heq⟩
    cases heq
    rcases isPlain_of_mem_standard hentry with ⟨hplain, hplaced⟩
    rw [hplaced] at hfit
    rcases Pattern.exists_covers_of_fit? hplain hfit with ⟨t, captured, hcovers, hrest⟩
    have ht : Pattern.before s c.rest = t := by
      rw [show s = t ++ c.rest from hrest, Pattern.before_append_self]
    rw [ht] at happend ⊢
    rcases build_standard hentry hcovers c with ⟨p, hwritten, hbuild⟩
    exact ⟨p, hwritten, hbuild, happend⟩

/-! ## What is found first -/

/-- What is found first is the first placeholder: none starts before it. Where nothing is found,
    none starts anywhere. -/
theorem searchFrom?_standard (past s : List Char) :
    match standard.searchFrom? false past s with
    | none => ∀ before after, s = before ++ after → ¬ StartsHole after
    | some (before, find, rest) => ∃ p : Placeholder, p.Written find.text ∧
        standard.build find = .ok p ∧ s = before ++ (find.text ++ rest) ∧
        ∀ one other, before = one ++ other → other ≠ [] →
          ¬ StartsHole (other ++ (find.text ++ rest)) := by
  -- The place moves one character at a time, and at each a placeholder starts or none does.
  induction s generalizing past with
  | nil =>
      have hfind := findAt?_standard past []
      rw [searchFrom?]
      cases hat : standard.findAt? false past [] with
      | none =>
          intro before after heq
          rw [(List.append_eq_nil_iff.1 heq.symm).2]
          exact not_startsHole_nil
      | some found =>
          rw [hat] at hfind
          rcases hfind with ⟨p, hwritten, -, happend⟩
          exact absurd (List.append_eq_nil_iff.1 happend).1 hwritten.ne_nil
  | cons c s ih =>
      have hfind := findAt?_standard past (c :: s)
      rw [searchFrom?]
      cases hat : standard.findAt? false past (c :: s) with
      | some found =>
          rw [hat] at hfind
          rcases hfind with ⟨p, hwritten, hbuild, happend⟩
          refine ⟨p, hwritten, hbuild, happend.symm, ?_⟩
          intro one other hnil hne
          exact absurd (List.append_eq_nil_iff.1 hnil.symm).2 hne
      | none =>
          rw [hat] at hfind
          have hlater := ih (c :: past)
          cases hsearch : standard.searchFrom? false (c :: past) s with
          | none =>
              rw [hsearch] at hlater
              intro before after heq
              -- The place is this one, or one of those after it.
              rcases before with _ | ⟨d, before⟩
              · rw [List.nil_append] at heq
                rw [← heq]
                exact hfind
              · exact hlater before after (List.cons.inj heq).2
          | some found =>
              rw [hsearch] at hlater
              rcases hlater with ⟨p, hwritten, hbuild, hs, hfree⟩
              refine ⟨p, hwritten, hbuild, by rw [hs, List.cons_append], ?_⟩
              intro one other heq hne
              rcases one with _ | ⟨d, one⟩
              · rw [List.nil_append] at heq
                rw [← heq, List.cons_append, ← hs]
                exact hfind
              · exact hfree one other (List.cons.inj heq).2 hne

/-! ## What a scan gives -/

/-- A text in front of tokens, unless it is empty, is one more token. For the tokens to tile it
    must not come before another text, and no placeholder may start in it. -/
theorem tiles_textTokens {before rest : List Char} {tokens : List Token}
    (hnext : ∀ token ∈ tokens.head?, token.placeholder?.isSome = true)
    (hfree : ∀ one other, before = one ++ other → other ≠ [] → ¬ StartsHole (other ++ rest))
    (h : Tiles tokens rest) : Tiles (textTokens before ++ tokens) (before ++ rest) := by
  by_cases hempty : before = []
  · subst hempty
    exact h
  · have hcontent : String.ofList before ≠ "" := by
      rwa [Ne, Text.ofList_eq_empty_iff]
    have htokens : textTokens before = [.text (.ofList before)] := by
      rw [textTokens, if_neg (by simpa using hempty)]
    have htext : Tiles (.text (.ofList before) :: tokens) ((String.ofList before).toList ++ rest) :=
      .text hcontent hnext (by simpa using hfree) h
    rw [htokens]
    simpa using htext

/-- A scan gives tokens, and these are the tokens of the text. The forms with two braces always
    build what they find, so a scan does not fail. -/
theorem scanFrom_standard (past s : List Char) :
    ∃ tokens, standard.scanFrom false past s = .ok tokens ∧ Tiles tokens s := by
  induction hlen : s.length using Nat.strong_induction_on generalizing past s with
  | _ n ih =>
    have hsearch := searchFrom?_standard past s
    rw [scanFrom]
    split
    · -- Nothing is found any more, so all that is left is text.
      rename_i hnone
      rw [hnone] at hsearch
      refine ⟨textTokens s, rfl, ?_⟩
      have htiles : Tiles (textTokens s ++ []) (s ++ []) :=
        tiles_textTokens (by simp) (by simpa using fun one other heq _ => hsearch one other heq)
          .nil
      simpa using htiles
    · rename_i before find rest hsome
      rw [hsome] at hsearch
      rcases hsearch with ⟨p, hwritten, hbuild, hs, hfree⟩
      have hempty : find.text.isEmpty = false := by
        simpa using hwritten.ne_nil
      -- The find covers something, so less is left than before.
      have hshort : rest.length < n := by
        have hpos := List.length_pos_iff.2 hwritten.ne_nil
        have hsplit := congrArg List.length hs
        rw [List.length_append, List.length_append] at hsplit
        omega
      rcases ih rest.length hshort (find.text.reverse ++ (before.reverse ++ past)) rest rfl with
        ⟨tokens, hscan, htiles⟩
      refine ⟨textTokens before ++ .hole p :: tokens, ?_, ?_⟩
      · -- The scan goes on behind the find, which it need not cover anything to leave.
        rw [hbuild, hempty]
        simp only [bind, Except.bind, hscan, pure, Except.pure]
      · rw [hs]
        exact tiles_textTokens (by simp [Token.placeholder?]) hfree (.hole hwritten htiles)

/-- Reading a template gives tokens, and these are the tokens of its text
    without outer blanks. -/
theorem exists_outcome_tokenize (text : String) :
    ∃ tokens, (standard.tokenize text).outcome = .ok tokens ∧
      Tiles tokens (Text.trim text.toList) := by
  rcases scanFrom_standard [] (Text.trim text.toList) with ⟨tokens, hscan, htiles⟩
  exact ⟨tokens, by rw [outcome_tokenize, scan, hscan], htiles⟩

/-- The tokens of a text are what reading it gives. -/
theorem outcome_tokenize_of_tiles {text : String} {tokens : List Token}
    (h : Tiles tokens (Text.trim text.toList)) :
    (standard.tokenize text).outcome = .ok tokens := by
  rcases exists_outcome_tokenize text with ⟨found, hfound, htiles⟩
  rw [hfound, htiles.unique h]

/-- A template has tokens, which are those of its text without outer blanks:
    one lexeme for each token, no text next to another, and no start of a
    placeholder within a text. There is only one list of such tokens. -/
theorem outcome_tokenize_standard (text : String) :
    ∃ tokens, (standard.tokenize text).outcome = .ok tokens ∧
      Tiles tokens (Text.trim text.toList) ∧
      ∀ other, Tiles other (Text.trim text.toList) → other = tokens := by
  rcases exists_outcome_tokenize text with ⟨tokens, htokens, htiles⟩
  exact ⟨tokens, htokens, htiles, fun other hother => hother.unique htiles⟩

end Registry

end Stencil.Template
