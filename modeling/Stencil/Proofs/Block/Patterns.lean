import Stencil.Pattern.Source
import Stencil.Proofs.Block.Outline
import Stencil.Proofs.Pattern.Greedy

/-!
# Lines as Patterns

What declarations and openings of fences are made of, and the patterns that they
can be looked for with.

`declaration?` and `fenceRun?` cut a line at fixed places: a key ends where its
characters end, and the run of a fence where its backticks do. A pattern can be
fitted in more ways than one. Blanks in front of a value may be left to the value,
and backticks at the end of a run to the word behind it. The search tries the
longest runs first. On a trimmed line these fit whenever anything does, so the
search comes to the same places.

## Main definitions

* `Declares`: A key, a colon and a value.
* `OpensFence`: Backticks, and no more than one word.
* `declarationPattern`, `fencePattern`: The patterns.

## Theorems

* `declaration?_eq_some_iff_declares`, `fenceRun?_eq_some_iff_opensFence`: What is captured by
  cutting.
* `Declares.not_opensFence`: No line does both.
* `ofSource_declarationPattern`, `ofSource_fencePattern`: How the patterns are written.
* `atStart?_declarationPattern_iff`, `atStart?_fencePattern_iff`: What is captured by searching.
-/

namespace Stencil.Block

open Pattern

/-! ## What lines are made of -/

/-- A line that declares: a key, perhaps blanks, a colon, and behind further blanks
    a value without a line feed. -/
structure Declares (s key value : List Char) : Prop where
  key_ne_nil : key ≠ []
  mem_key : ∀ c ∈ key, ('a' ≤ c ∧ c ≤ 'z') ∨ c = '-'
  exists_cut : ∃ blanks lead, s = key ++ (blanks ++ ':' :: (lead ++ value)) ∧
    (∀ c ∈ blanks, Text.isBlank c = true) ∧ ∀ c ∈ lead, Text.isBlank c = true
  head_value : ∀ c ∈ value.head?, Text.isBlank c = false
  newline_notMem : '\n' ∉ value

/-- A line that opens a fence: all the backticks that it starts with, at least three,
    and behind them no more than one word. -/
structure OpensFence (s ticks : List Char) : Prop where
  three_le : 3 ≤ ticks.length
  mem_ticks : ∀ c ∈ ticks, c = '\x60'
  exists_cut : ∃ rest, s = ticks ++ rest ∧ (∀ c ∈ rest.head?, c ≠ '\x60') ∧
    ∀ c ∈ Text.trim rest, Text.isBlank c = false

/-- What is captured as a declaration is what the line declares. The one side cuts the line with
    runs of classes, and the other is the grammar of a line. -/
theorem declaration?_eq_some_iff_declares {s key value : List Char} :
    declaration? s = some (key, value) ↔ Declares s key value := by
  rw [declaration?_eq_some_iff]
  constructor
  · rintro ⟨hne, hkey, blanks, rest, hblanks, rfl, rfl, hn⟩
    -- What is skipped in front of the value and the value make up the rest.
    have hcut : rest.takeWhile Text.isBlank ++ Text.trimStart rest = rest :=
      List.takeWhile_append_dropWhile
    refine ⟨hne, fun c hc => (isKeyChar_iff c).1 (hkey c hc), ?_,
      Text.isBlank_head_trimStart rest, hn⟩
    exact ⟨blanks, _, by rw [hcut], hblanks, fun _ hc => List.mem_takeWhile_imp hc⟩
  · rintro ⟨hne, hkey, ⟨blanks, lead, rfl, hblanks, hlead⟩, hvalue, hn⟩
    refine ⟨hne, fun c hc => (isKeyChar_iff c).2 (hkey c hc), blanks, _, hblanks, rfl, ?_, hn⟩
    rw [Text.trimStart, List.dropWhile_append_of_pos hlead]
    exact (Text.trimStart_eq_self hvalue).symm

/-- What is captured as the run of a fence is what the line opens a fence with: all backticks that
    it starts with, as long as they are three and only one word follows. -/
theorem fenceRun?_eq_some_iff_opensFence {s ticks : List Char} :
    fenceRun? s = some ticks ↔ OpensFence s ticks := by
  have htick : ∀ c, isFenceChar c = true ↔ c = '\x60' := fun c => by rw [isFenceChar, beq_iff_eq]
  rw [fenceRun?_eq_some_iff]
  constructor
  · rintro ⟨rfl, hleast, hinfo⟩
    refine ⟨hleast, fun c hc => (htick c).1 (List.mem_takeWhile_imp hc), s.dropWhile isFenceChar,
      List.takeWhile_append_dropWhile.symm, ?_, ?_⟩
    · -- The run is cut where it ends, so what comes next is no backtick.
      intro c hc
      have hhead := List.head?_dropWhile_not isFenceChar s
      rw [Option.mem_def.1 hc] at hhead
      rw [Ne, ← htick, Bool.not_eq_true]
      exact hhead
    · intro c hc
      rw [← Bool.not_eq_true]
      exact List.any_eq_false.1 hinfo c hc
  · rintro ⟨hleast, hticks, rest, rfl, hstop, hinfo⟩
    have hrun : ∀ c ∈ ticks, isFenceChar c = true := fun c hc => (htick c).2 (hticks c hc)
    have hend : ∀ c ∈ rest.head?, isFenceChar c = false := by
      intro c hc
      rw [← Bool.not_eq_true, htick]
      exact hstop c hc
    rw [Text.takeWhile_append_of_stop hend, List.takeWhile_eq_self_iff.2 hrun,
      Text.dropWhile_append_of_stop hend, List.dropWhile_eq_nil_iff.2 hrun, List.nil_append,
      List.any_eq_false]
    refine ⟨rfl, hleast, fun c hc => ?_⟩
    rw [hinfo c hc]
    exact Bool.false_ne_true

theorem Declares.unique {s key value key' value' : List Char} (h : Declares s key value)
    (h' : Declares s key' value') : key = key' ∧ value = value' := by
  have hsome := declaration?_eq_some_iff_declares.2 h
  rw [declaration?_eq_some_iff_declares.2 h', Option.some.injEq, Prod.mk.injEq] at hsome
  exact ⟨hsome.1.symm, hsome.2.symm⟩

theorem OpensFence.unique {s ticks ticks' : List Char} (h : OpensFence s ticks)
    (h' : OpensFence s ticks') : ticks = ticks' := by
  have hsome := fenceRun?_eq_some_iff_opensFence.2 h
  rw [fenceRun?_eq_some_iff_opensFence.2 h', Option.some.injEq] at hsome
  exact hsome.symm

/-- No line declares and opens a fence. -/
theorem Declares.not_opensFence {s key value ticks : List Char} (h : Declares s key value) :
    ¬ OpensFence s ticks := by
  intro hopens
  have hnone := not_declaration_of_fenceRun (fenceRun?_eq_some_iff_opensFence.2 hopens)
  rw [declaration?_eq_some_iff_declares.2 h] at hnone
  cases hnone

/-! ## The patterns -/

/-- The characters of keys. -/
def keySet : CharSet :=
  .of [.range 'a' 'z', .char '-']

/-- All characters but blanks. -/
def wordSet : CharSet :=
  .allBut [.kind .blank .all false]

/-- All characters but line feeds. -/
def lineSet : CharSet :=
  .allBut [.char '\n']

/-- A key, a colon, and a value, with blanks around the colon. -/
def declarationPattern : Pattern :=
  inOrder [anchor .textStart, group 1 (run keySet 1 none), blanks, char ':', blanks,
    group 2 (run lineSet 0 none), anchor .lastStop]

/-- At least three backticks, and perhaps a word. -/
def fencePattern : Pattern :=
  inOrder [anchor .textStart, group 1 (run (.single '\x60') 3 none),
    repeated (inOrder [blanks, run wordSet 1 none]) 0 (some 1) true, blanks, anchor .lastStop]

theorem ofSource_declarationPattern :
    ofSource "^([a-z\\-]+)\\s*:\\s*(.*)$" = .ok declarationPattern := rfl

theorem ofSource_fencePattern :
    ofSource "^(\x60\x7b3,\x7d)(?:\\s*[^\\s]+)?\\s*$" = .ok fencePattern := rfl

/-! ## Their characters -/

theorem contains_keySet (c : Char) : keySet.contains c = isKeyChar c := by
  rw [Bool.eq_iff_iff, isKeyChar_iff]
  have hdash : ('-' ≤ c ∧ c ≤ '-') ↔ c = '-' :=
    ⟨fun h => Char.le_antisymm h.2 h.1, fun h => h ▸ ⟨Char.le_refl _, Char.le_refl _⟩⟩
  simp [keySet, CharSet.of, CharSet.contains, CharSet.Member.char, CharSet.Member.contains, hdash]

theorem contains_wordSet (c : Char) : wordSet.contains c = !Text.isBlank c := by
  simp [wordSet, CharSet.allBut, CharSet.contains, CharSet.Member.contains, CharKind.contains]

theorem contains_lineSet (c : Char) : lineSet.contains c = true ↔ c ≠ '\n' := by
  have hsingle : lineSet.contains c = !(CharSet.single '\n').contains c := by
    simp [lineSet, CharSet.single, CharSet.of, CharSet.allBut, CharSet.contains]
  rw [hsingle, Bool.not_eq_true', ← Bool.not_eq_true, CharSet.contains_single]

theorem contains_tick (c : Char) : (CharSet.single '\x60').contains c = isFenceChar c := by
  rw [Bool.eq_iff_iff, CharSet.contains_single, isFenceChar, beq_iff_eq]

/-! ## Declarations -/

/-- What declares is captured: the key as it is, and the value without the blanks in
    front of it. -/
theorem Declares.atStart?_eq {s key value : List Char} (h : Declares s key value) :
    declarationPattern.atStart? s = some [some key, some value] := by
  rcases h with ⟨hne, hkey, ⟨blanks, lead, rfl, hblanks, hlead⟩, hvalue, hn⟩
  rw [Pattern.atStart?_eq]
  -- Each run is as long as it can be, and what comes behind it fits.
  show (run keySet 1 none).first _ _ = some _
  refine first_run_of_longest rfl ?_ (List.length_pos_iff.2 hne) ?_ ?_
  · exact fun c hc => (contains_keySet c).trans ((isKeyChar_iff c).2 (hkey c hc))
  · exact fun c hc => (contains_keySet c).trans (isKeyChar_head_cut hblanks _ c hc)
  show Pattern.blanks.first _ _ = some _
  -- No blank and no colon is part of a key, and the colon is no blank.
  refine first_run_of_longest (t := blanks) rfl ?_ (Nat.zero_le _) ?_ ?_
  · exact fun c hc => (CharSet.contains_blanks c).trans (hblanks c hc)
  · simp [isBlank_colon]
  show (char ':').first _ _ = some _
  rw [first_char_cons]
  show Pattern.blanks.first _ _ = some _
  refine first_run_of_longest (t := lead) rfl ?_ (Nat.zero_le _) ?_ ?_
  · exact fun c hc => (CharSet.contains_blanks c).trans (hlead c hc)
  · exact fun c hc => (CharSet.contains_blanks c).trans (hvalue c hc)
  show (run lineSet 0 none).first _ _ = some _
  refine first_run_of_longest (List.append_nil _).symm ?_ (Nat.zero_le _) (by simp) ?_
  · rintro c hc
    rw [contains_lineSet]
    rintro rfl
    exact hn hc
  -- The text ends here, so the search ends with what the two groups cover.
  show some [some (before (key ++ _) _), some (before value [])] = _
  rw [before_append_self, before, List.length_nil, Nat.sub_zero, List.take_length]

/-- A trimmed line in which something is captured declares. Nothing follows the value on a trimmed
    line, so the last anchor holds at the end of the line. -/
theorem exists_declares_of_atStart? {s : List Char} (hs : Text.trim s = s)
    {captured : List (Option (List Char))} (h : declarationPattern.atStart? s = some captured) :
    ∃ key value, Declares s key value := by
  rw [Pattern.atStart?_eq] at h
  -- The search has passed each part of the pattern, and each covers some part of the line.
  rcases exists_of_first_run (h : (run keySet 1 none).first _ _ = _) with
    ⟨key, c, hc, hkey, hleast, -, h⟩
  rcases exists_of_first_run (h : Pattern.blanks.first _ _ = _) with
    ⟨blanks, d, hd, hblanks, -, -, h⟩
  rcases exists_of_first_char (h : (char ':').first _ _ = _) with ⟨e, he, h⟩
  rcases exists_of_first_run (h : Pattern.blanks.first _ _ = _) with
    ⟨lead, f, hf, hlead, -, -, h⟩
  rcases exists_of_first_run (h : (run lineSet 0 none).first _ _ = _) with
    ⟨value, g, hg, hvalue, -, -, h⟩
  have hstop : ∀ x ∈ g.rest, Text.isBlank x = true :=
    isBlank_of_first_lastStop (c := g.cover 2 f) h
  have hcut : s = (key ++ (blanks ++ ':' :: (lead ++ value))) ++ g.rest := by
    have hs : s = key ++ c.rest := hc
    rw [hs, show c.rest = _ from hd, he, hf, hg]
    simp
  -- On a trimmed line nothing is left behind the value.
  have hend : g.rest = [] := by
    rw [hcut] at hs
    exact Text.eq_nil_of_trim_append hs hstop
  rw [hend, List.append_nil] at hcut
  have hsome : declaration? s = some (key, Text.trimStart (lead ++ value)) := by
    rw [declaration?_eq_some_iff]
    refine ⟨List.length_pos_iff.1 hleast, ?_, blanks, lead ++ value, ?_, hcut, rfl, ?_⟩
    · exact fun x hx => (contains_keySet x).symm.trans (hkey x hx)
    · exact fun x hx => (CharSet.contains_blanks x).symm.trans (hblanks x hx)
    · rw [Text.trimStart, List.dropWhile_append_of_pos fun x hx =>
        (CharSet.contains_blanks x).symm.trans (hlead x hx)]
      intro hmem
      exact (contains_lineSet _).1 (hvalue _ ((List.dropWhile_suffix _).mem hmem)) rfl
  exact ⟨_, _, declaration?_eq_some_iff_declares.1 hsome⟩

/-- What the pattern of declarations captures in a trimmed line is what the line
    declares. -/
theorem atStart?_declarationPattern_iff {s : List Char} (hs : Text.trim s = s)
    {captured : List (Option (List Char))} :
    declarationPattern.atStart? s = some captured ↔
      ∃ key value, captured = [some key, some value] ∧ Declares s key value := by
  constructor
  · intro h
    rcases exists_declares_of_atStart? hs h with ⟨key, value, hdecl⟩
    rw [hdecl.atStart?_eq, Option.some.injEq] at h
    exact ⟨key, value, h.symm, hdecl⟩
  · rintro ⟨key, value, rfl, hdecl⟩
    exact hdecl.atStart?_eq

/-! ## Fences -/

/-- What is behind the run of a trimmed line that opens a fence: nothing, or a word,
    perhaps with blanks in front of it. -/
theorem OpensFence.exists_word {s ticks : List Char} (hs : Text.trim s = s)
    (h : OpensFence s ticks) :
    ∃ gap word, s = ticks ++ (gap ++ word) ∧ (∀ c ∈ (gap ++ word).head?, c ≠ '\x60') ∧
      (∀ c ∈ gap, Text.isBlank c = true) ∧ (∀ c ∈ word, Text.isBlank c = false) ∧
      (word = [] → gap = []) := by
  rcases h with ⟨-, -, rest, rfl, hstop, hinfo⟩
  let gap := rest.takeWhile Text.isBlank
  let word := Text.trimStart rest
  have hrest : gap ++ word = rest := List.takeWhile_append_dropWhile
  have hgap : ∀ c ∈ gap, Text.isBlank c = true := fun _ hc => List.mem_takeWhile_imp hc
  rw [← hrest] at hs hstop
  refine ⟨gap, word, by rw [hrest], hstop, hgap, ?_, ?_⟩
  · -- The line is trimmed, so the word ends where the line does.
    rcases Text.exists_eq_trimEnd_append word with ⟨trail, hsplit, htrail⟩
    have hnone : trail = [] := by
      refine Text.eq_nil_of_trim_append (s := ticks ++ (gap ++ Text.trimEnd word)) ?_ htrail
      rw [List.append_assoc, List.append_assoc, ← hsplit, hs]
    rw [hnone, List.append_nil] at hsplit
    rw [hsplit]
    exact hinfo
  · intro hword
    rw [hword, List.append_nil] at hs
    exact Text.eq_nil_of_trim_append hs hgap

/-- What opens a fence is captured: all the backticks that the line starts with. -/
theorem OpensFence.atStart?_eq {s ticks : List Char} (hs : Text.trim s = s)
    (h : OpensFence s ticks) : fencePattern.atStart? s = some [some ticks] := by
  rcases h.exists_word hs with ⟨gap, word, rfl, hstop, hgap, hword, hnone⟩
  rw [Pattern.atStart?_eq]
  show (run (.single '\x60') 3 none).first _ _ = some _
  refine first_run_of_longest rfl ?_ h.three_le ?_ ?_
  · exact fun c hc => CharSet.contains_single.2 (h.mem_ticks c hc)
  · intro c hc
    rw [← Bool.not_eq_true, CharSet.contains_single]
    exact hstop c hc
  show (repeated (inOrder [Pattern.blanks, run wordSet 1 none]) 0 (some 1) true).first _ _ = some _
  rw [first_optional, Option.or_eq_some_iff]
  by_cases hne : word = []
  · -- There is no word, and the search leaves it out.
    obtain rfl := hnone hne
    subst hne
    refine .inr ⟨rfl, ?_⟩
    show Pattern.blanks.first _ _ = some _
    refine first_run_of_longest (t := []) rfl (by simp) (Nat.zero_le _) (by simp) ?_
    show some [some (before (ticks ++ _) _)] = _
    rw [before_append_self]
  · refine .inl ?_
    show Pattern.blanks.first _ _ = some _
    refine first_run_of_longest (t := gap) rfl ?_ (Nat.zero_le _) ?_ ?_
    · exact fun c hc => (CharSet.contains_blanks c).trans (hgap c hc)
    · exact fun c hc => (CharSet.contains_blanks c).trans (hword c (List.mem_of_mem_head? hc))
    show (run wordSet 1 none).first _ _ = some _
    refine first_run_of_longest (List.append_nil _).symm ?_ (List.length_pos_iff.2 hne) (by simp) ?_
    · intro c hc
      rw [contains_wordSet, hword c hc, Bool.not_false]
    show Pattern.blanks.first _ _ = some _
    refine first_run_of_longest (t := []) rfl (by simp) (Nat.zero_le _) (by simp) ?_
    show some [some (before (ticks ++ _) _)] = _
    rw [before_append_self]

/-- What a search for a word finds is found behind blanks and the word, or there
    is no word. -/
theorem exists_of_first_word {α : Type} {next : Cursor → Option α} {found : α} {c : Cursor}
    (h : (repeated (inOrder [Pattern.blanks, run wordSet 1 none]) 0 (some 1) true).first c next =
      some found) :
    ∃ gap word d, c.rest = gap ++ (word ++ d.rest) ∧ (∀ x ∈ gap, Text.isBlank x = true) ∧
      (∀ x ∈ word, Text.isBlank x = false) ∧ next d = some found := by
  rw [first_optional, Option.or_eq_some_iff] at h
  rcases h with h | ⟨-, h⟩
  · rcases exists_of_first_run (h : Pattern.blanks.first _ _ = _) with ⟨gap, d, hd, hgap, -, -, h⟩
    rcases exists_of_first_run (h : (run wordSet 1 none).first _ _ = _) with
      ⟨word, e, he, hword, -, -, h⟩
    refine ⟨gap, word, e, by rw [hd, he], ?_, ?_, h⟩
    · exact fun x hx => (CharSet.contains_blanks x).symm.trans (hgap x hx)
    · intro x hx
      rw [← Bool.not_eq_true', ← contains_wordSet]
      exact hword x hx
  · exact ⟨[], [], c, rfl, by simp, by simp, h⟩

/-- Behind the backticks that a line starts with there is still only a word. What the pattern
    takes for the word has perhaps lost its first backticks, and what is left has no blanks. -/
theorem not_isBlank_of_mem_trim_dropWhile {gap word : List Char}
    (hgap : ∀ c ∈ gap, Text.isBlank c = true) (hword : ∀ c ∈ word, Text.isBlank c = false) :
    ∀ c ∈ Text.trim ((gap ++ word).dropWhile isFenceChar), Text.isBlank c = false := by
  intro c hc
  cases gap with
  | nil =>
      -- The word may start with backticks itself.
      exact hword c ((List.dropWhile_suffix _).mem (Text.mem_of_mem_trim hc))
  | cons b gap =>
      have hb : isFenceChar b = false := by
        rw [isFenceChar, beq_eq_false_iff_ne]
        rintro rfl
        exact absurd (hgap _ List.mem_cons_self) (by decide)
      rw [List.cons_append, List.dropWhile_cons_of_neg (by simp [hb]), ← List.cons_append,
        Text.trim, Text.trimStart, List.dropWhile_append_of_pos hgap] at hc
      exact hword c (Text.mem_of_mem_trim hc)

/-- A trimmed line in which something is captured opens a fence. The pattern may leave backticks
    to the word, and then all of them together open the fence just as well. -/
theorem exists_opensFence_of_atStart? {s : List Char} (hs : Text.trim s = s)
    {captured : List (Option (List Char))} (h : fencePattern.atStart? s = some captured) :
    ∃ ticks, OpensFence s ticks := by
  rw [Pattern.atStart?_eq] at h
  rcases exists_of_first_run (h : (run (.single '\x60') 3 none).first _ _ = _) with
    ⟨ticks, c, hc, hset, hleast, -, h⟩
  rcases exists_of_first_word h with ⟨gap, word, d, hd, hgap, hword, h⟩
  rcases exists_of_first_run (h : Pattern.blanks.first _ _ = _) with
    ⟨trail, e, he, htrail, -, -, h⟩
  have hticks : ∀ x ∈ ticks, isFenceChar x = true :=
    fun x hx => (contains_tick x).symm.trans (hset x hx)
  have hstop : ∀ x ∈ trail ++ e.rest, Text.isBlank x = true := by
    intro x hx
    rcases List.mem_append.1 hx with hx | hx
    · exact (CharSet.contains_blanks x).symm.trans (htrail x hx)
    · exact isBlank_of_first_lastStop (h : (anchor .lastStop).first _ _ = _) x hx
  have hcut : s = (ticks ++ (gap ++ word)) ++ (trail ++ e.rest) := by
    have hs : s = ticks ++ c.rest := hc
    rw [hs, show c.rest = _ from hd, he]
    simp
  have hend : trail ++ e.rest = [] := by
    rw [hcut] at hs
    exact Text.eq_nil_of_trim_append hs hstop
  rw [hend, List.append_nil] at hcut
  -- The run that was found may be followed by further backticks, as part of the word.
  have hsome : fenceRun? s = some (s.takeWhile isFenceChar) := by
    refine fenceRun?_eq_some_iff.2 ⟨rfl, ?_, ?_⟩
    · rw [hcut, List.takeWhile_append_of_pos hticks, List.length_append]
      exact Nat.le_add_right_of_le hleast
    · rw [hcut, List.dropWhile_append_of_pos hticks, List.any_eq_false]
      intro x hx
      rw [not_isBlank_of_mem_trim_dropWhile hgap hword x hx]
      exact Bool.false_ne_true
  exact ⟨_, fenceRun?_eq_some_iff_opensFence.1 hsome⟩

/-- What the pattern of fences captures in a trimmed line is what the line opens a
    fence with. -/
theorem atStart?_fencePattern_iff {s : List Char} (hs : Text.trim s = s)
    {captured : List (Option (List Char))} :
    fencePattern.atStart? s = some captured ↔
      ∃ ticks, captured = [some ticks] ∧ OpensFence s ticks := by
  constructor
  · intro h
    rcases exists_opensFence_of_atStart? hs h with ⟨ticks, hopen⟩
    rw [hopen.atStart?_eq hs, Option.some.injEq] at h
    exact ⟨ticks, h.symm, hopen⟩
  · rintro ⟨ticks, rfl, hopen⟩
    exact hopen.atStart?_eq hs

end Stencil.Block
