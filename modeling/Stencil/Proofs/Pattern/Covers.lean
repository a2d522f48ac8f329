import Stencil.Pattern.Basic

/-!
# What Patterns Cover

Patterns without places and back references, as sets of texts.

`results` follows the search: it lists cursors, in the order in which the
search comes to them, and each cursor carries spans of the text that it stands
in. For a pattern that is put together from runs, sequences, alternatives and
groups neither the order nor the place matters to the question which texts it
fits. `Covers` asks just that. It takes a text and what groups capture of it,
and has one rule for each way of putting patterns together, so that facts
about a form of placeholder are facts about lists of characters.

The search and the rules agree in both directions. From a cursor that the
search finds, `exists_covers_of_mem_results` reads off the text that was
covered; `exists_mem_results_of_covers` says that what the rules allow is found
from every place where that text stands. What is found first is not said: if
only one text can be covered at a place, it makes no difference.

## Main definitions

* `Covers`: A pattern fits a whole text and captures parts of it.
* `isPlain`: Whether a pattern is put together from runs alone.
* `Cursor.captured`: What the groups of a cursor capture, as texts.

## Theorems

* `exists_covers_of_mem_results`: What is found is covered.
* `exists_mem_results_of_covers`: What is covered is found.
* `covers_inOrder_cons_iff`: Patterns in order cover texts in order.
* `covers_inOrder_char_iff`, `covers_inOrder_blanks_iff`, `covers_inOrder_group_iff`: The
  same, for what forms of placeholders start with.
* `exists_covers_of_fit?`, `isSome_fit?_of_covers`: The same for the first fit.
* `whole?_of_covers`: What a text that is covered as a whole captures.
-/

namespace Stencil.Pattern

/-- What groups capture: their numbers and the texts, the latest first. -/
abbrev Captured := List (Nat × List Char)

/-- A pattern fits a whole text, and its groups capture parts of it. Which way of fitting is
    preferred is left out, and so are patterns that look around: what they fit depends on more
    than a text. -/
inductive Covers : Pattern → List Char → Captured → Prop
  /-- Nothing is covered by nothing. -/
  | empty : Covers .empty [] []
  /-- A run covers characters of its class, as many as its bounds allow. -/
  | run {set : CharSet} {least : Nat} {most : Option Nat} {t : List Char}
      (hset : ∀ c ∈ t, set.contains c = true) (hleast : least ≤ t.length)
      (hmost : ∀ n ∈ most, t.length ≤ n) : Covers (.run set least most) t []
  /-- Of a sequence, the one covers a start of the text and the other the rest. -/
  | seq {p q : Pattern} {t u : List Char} {one other : Captured}
      (hp : Covers p t one) (hq : Covers q u other) : Covers (.seq p q) (t ++ u) (other ++ one)
  /-- Of two alternatives, the one covers the text. -/
  | left {p q : Pattern} {t : List Char} {captured : Captured}
      (h : Covers p t captured) : Covers (.either p q) t captured
  /-- Of two alternatives, the other covers the text. -/
  | right {p q : Pattern} {t : List Char} {captured : Captured}
      (h : Covers q t captured) : Covers (.either p q) t captured
  /-- A group captures what its body covers. -/
  | group {number : Nat} {p : Pattern} {t : List Char} {captured : Captured}
      (h : Covers p t captured) : Covers (.group number p) t ((number, t) :: captured)

/-- Whether a pattern is put together from runs, sequences, alternatives and
    groups alone. -/
def isPlain : Pattern → Bool
  | empty | run .. => true
  | seq p q | either p q => p.isPlain && q.isPlain
  | group _ p => p.isPlain
  | repeated .. | atomic _ | look .. | anchor _ | again .. | given .. => false

/-! ## Captured texts -/

/-- What the groups of a cursor capture, as texts. -/
def Cursor.captured (c : Cursor) : Captured :=
  c.spans.map fun s => (s.1, s.2.text)

theorem before_append_self (t rest : List Char) : before (t ++ rest) rest = t := by
  simp [before]

/-- Closing a group captures the text since it was opened. -/
theorem Cursor.captured_cover {c d : Cursor} {t : List Char} (h : c.rest = t ++ d.rest)
    (number : Nat) : (d.cover number c).captured = (number, t) :: d.captured := by
  simp only [captured, cover, List.map_cons, Span.text, h, before_append_self]

/-- The text of a span is the captured text of its number. -/
theorem Cursor.map_text_span? (c : Cursor) (number : Nat) :
    (c.span? number).map Span.text = c.captured.lookup number := by
  rw [span?, captured]
  induction c.spans with
  | nil => rfl
  | cons s spans ih =>
      obtain ⟨n, span⟩ := s
      rw [List.map_cons, List.lookup_cons, List.lookup_cons]
      by_cases hn : (number == n) = true
      · simp [hn]
      · simp [hn, ih]

/-- What a pattern captures, in the order of its groups. -/
theorem captures_eq (p : Pattern) (c : Cursor) :
    p.captures c = (List.range p.groups).map fun i => c.captured.lookup (i + 1) := by
  simp only [captures, Cursor.map_text_span?]

/-! ## What is found is covered -/

/-- The ends of a run come after characters of its class, as many as its bounds allow, and nothing
    is captured on the way. -/
theorem exists_of_mem_runEnds {set : CharSet} {spans : List (Nat × Span)} {least : Nat}
    {most : Option Nat} {past rest : List Char} {d : Cursor}
    (h : d ∈ runEnds set spans least most past rest) :
    ∃ t, rest = t ++ d.rest ∧ d.spans = spans ∧ (∀ c ∈ t, set.contains c = true) ∧
      least ≤ t.length ∧ ∀ n ∈ most, t.length ≤ n := by
  induction rest generalizing least most past with
  | nil =>
      simp only [runEnds] at h
      split at h
      · rw [List.mem_singleton.1 h]
        exact ⟨[], rfl, rfl, by simp, by omega, by simp⟩
      · simp at h
  | cons c s ih =>
      simp only [runEnds, List.mem_append] at h
      rcases h with h | h
      · -- The run goes on with this character, which uses up one of each bound.
        split at h
        · rename_i hgo
          rw [Bool.and_eq_true, bne_iff_ne] at hgo
          rcases ih h with ⟨t, hrest, hspans, hset, hleast, hmost⟩
          refine ⟨c :: t, by rw [hrest, List.cons_append], hspans, ?_, ?_, ?_⟩
          · rw [List.forall_mem_cons]
            exact ⟨hgo.1, hset⟩
          · rw [List.length_cons]
            omega
          · intro n hn
            have hpos : n ≠ 0 := by
              rintro rfl
              exact hgo.2 hn
            have hlen := hmost (n - 1) (by simp [Option.mem_def.1 hn])
            rw [List.length_cons]
            omega
        · simp at h
      · -- The run ends before it.
        split at h
        · rw [List.mem_singleton.1 h]
          exact ⟨[], rfl, rfl, by simp, by omega, by simp⟩
        · simp at h

/-- What is found is covered, and captured on top of what was captured before. The last capture of
    a group stands first, as later spans are put in front. -/
theorem exists_covers_of_mem_results {p : Pattern} (hp : p.isPlain = true) {c d : Cursor}
    (h : d ∈ p.results c) :
    ∃ t captured, p.Covers t captured ∧ c.rest = t ++ d.rest ∧
      d.captured = captured ++ c.captured := by
  induction p generalizing c d with
  | empty =>
      rw [List.mem_singleton.1 h]
      exact ⟨[], [], .empty, rfl, rfl⟩
  | run set least most =>
      rcases exists_of_mem_runEnds h with ⟨t, hrest, hspans, hset, hleast, hmost⟩
      exact ⟨t, [], .run hset hleast hmost, hrest, by simp [Cursor.captured, hspans]⟩
  | seq p q ihp ihq =>
      rw [isPlain, Bool.and_eq_true] at hp
      rcases List.mem_flatMap.1 h with ⟨e, he, hd⟩
      rcases ihp hp.1 he with ⟨t, one, ht, hrest, hone⟩
      rcases ihq hp.2 hd with ⟨u, other, hu, hrest', hother⟩
      refine ⟨t ++ u, other ++ one, .seq ht hu, ?_, ?_⟩
      · rw [hrest, hrest', List.append_assoc]
      · rw [hother, hone, List.append_assoc]
  | either p q ihp ihq =>
      rw [isPlain, Bool.and_eq_true] at hp
      rcases List.mem_append.1 h with h | h
      · rcases ihp hp.1 h with ⟨t, captured, ht, hrest⟩
        exact ⟨t, captured, .left ht, hrest⟩
      · rcases ihq hp.2 h with ⟨t, captured, ht, hrest⟩
        exact ⟨t, captured, .right ht, hrest⟩
  | group number p ih =>
      rcases List.mem_map.1 h with ⟨e, he, rfl⟩
      rcases ih hp he with ⟨t, captured, ht, hrest, hcaptured⟩
      refine ⟨t, (number, t) :: captured, .group ht, hrest, ?_⟩
      rw [Cursor.captured_cover hrest, hcaptured, List.cons_append]
  | repeated | atomic | look | anchor | again | given => simp [isPlain] at hp

/-! ## What is covered is found -/

/-- A run can end after any characters of its class that its bounds allow, whatever comes next: it
    need not be the longest. -/
theorem mem_runEnds {set : CharSet} (spans : List (Nat × Span)) {least : Nat}
    {most : Option Nat} (past : List Char) {t : List Char} (rest : List Char)
    (hset : ∀ c ∈ t, set.contains c = true) (hleast : least ≤ t.length)
    (hmost : ∀ n ∈ most, t.length ≤ n) :
    (⟨t.reverse ++ past, rest, spans⟩ : Cursor) ∈
      runEnds set spans least most past (t ++ rest) := by
  induction t generalizing least most past with
  | nil =>
      have hzero : least = 0 := by simpa using hleast
      cases rest <;> simp [runEnds, hzero]
  | cons c t ih =>
      rw [List.forall_mem_cons] at hset
      rw [List.length_cons] at hleast hmost
      have hgo : (set.contains c && most != some 0) = true := by
        rw [Bool.and_eq_true, bne_iff_ne]
        refine ⟨hset.1, fun hzero => ?_⟩
        have hlen := hmost 0 hzero
        omega
      -- Both bounds count what is left of the run after its first character.
      have hless : ∀ n ∈ most.map (· - 1), t.length ≤ n := by
        intro n hn
        rcases Option.map_eq_some_iff.1 hn with ⟨m, hm, rfl⟩
        have hlen := hmost m hm
        omega
      have hmem := ih (c :: past) hset.2 (by omega : least - 1 ≤ t.length) hless
      rw [List.cons_append, runEnds, if_pos hgo, List.mem_append]
      rw [List.reverse_cons, List.append_assoc, List.singleton_append]
      exact Or.inl hmem

/-- What is covered is found, wherever it stands. It is one of the fits and perhaps not the first
    one; which fit is preferred is another question. -/
theorem exists_mem_results_of_covers {p : Pattern} {t : List Char} {captured : Captured}
    (h : p.Covers t captured) {c : Cursor} {rest : List Char} (hc : c.rest = t ++ rest) :
    ∃ d ∈ p.results c, d.rest = rest ∧ d.captured = captured ++ c.captured := by
  induction h generalizing c rest with
  | empty => exact ⟨c, List.mem_singleton.2 rfl, hc, rfl⟩
  | @run set least most t hset hleast hmost =>
      refine ⟨⟨t.reverse ++ c.past, rest, c.spans⟩, ?_, rfl, rfl⟩
      rw [results, hc]
      exact mem_runEnds c.spans c.past rest hset hleast hmost
  | seq hp hq ihp ihq =>
      rw [List.append_assoc] at hc
      rcases ihp hc with ⟨e, he, hrest, hone⟩
      rcases ihq hrest with ⟨d, hd, hrest', hother⟩
      refine ⟨d, List.mem_flatMap.2 ⟨e, he, hd⟩, hrest', ?_⟩
      rw [hother, hone, List.append_assoc]
  | left h ih =>
      rcases ih hc with ⟨d, hd, hrest⟩
      exact ⟨d, List.mem_append_left _ hd, hrest⟩
  | right h ih =>
      rcases ih hc with ⟨d, hd, hrest⟩
      exact ⟨d, List.mem_append_right _ hd, hrest⟩
  | @group number p t captured h ih =>
      rcases ih hc with ⟨e, he, hrest, hcaptured⟩
      refine ⟨e.cover number c, List.mem_map.2 ⟨e, he, rfl⟩, hrest, ?_⟩
      rw [Cursor.captured_cover (t := t) (by rw [hc, hrest]), hcaptured, List.cons_append]

/-! ## Patterns in order -/

theorem covers_run_iff {set : CharSet} {least : Nat} {most : Option Nat} {t : List Char}
    {captured : Captured} :
    (run set least most).Covers t captured ↔
      (∀ c ∈ t, set.contains c = true) ∧ least ≤ t.length ∧ (∀ n ∈ most, t.length ≤ n) ∧
        captured = [] := by
  constructor
  · rintro ⟨⟩
    exact ⟨‹_›, ‹_›, ‹_›, rfl⟩
  · rintro ⟨hset, hleast, hmost, rfl⟩
    exact .run hset hleast hmost

/-- A single character covers itself. -/
theorem covers_char_iff {c : Char} {t : List Char} {captured : Captured} :
    (char c).Covers t captured ↔ t = [c] ∧ captured = [] := by
  rw [char, one, covers_run_iff]
  constructor
  · rintro ⟨hset, hleast, hmost, rfl⟩
    have hlen : t.length = 1 := Nat.le_antisymm (hmost 1 rfl) hleast
    rcases List.length_eq_one_iff.1 hlen with ⟨d, rfl⟩
    rw [List.forall_mem_singleton, CharSet.contains_single] at hset
    exact ⟨by rw [hset], rfl⟩
  · rintro ⟨rfl, rfl⟩
    simp [CharSet.contains_single]

/-- Any number of blanks cover blanks. -/
theorem covers_blanks_iff {t : List Char} {captured : Captured} :
    blanks.Covers t captured ↔ (∀ c ∈ t, Text.isBlank c = true) ∧ captured = [] := by
  simp [blanks, covers_run_iff]

theorem covers_group_iff {number : Nat} {p : Pattern} {t : List Char} {captured : Captured} :
    (group number p).Covers t captured ↔
      ∃ inner, captured = (number, t) :: inner ∧ p.Covers t inner := by
  constructor
  · rintro ⟨⟩
    exact ⟨_, rfl, ‹_›⟩
  · rintro ⟨inner, rfl, h⟩
    exact .group h

theorem covers_andThen_iff {p q : Pattern} {t : List Char} {captured : Captured} :
    (andThen p q).Covers t captured ↔
      ∃ u v one other, t = u ++ v ∧ captured = other ++ one ∧ p.Covers u one ∧
        q.Covers v other := by
  by_cases hq : q = .empty
  · -- An empty pattern is left out, and covers nothing.
    subst hq
    rw [andThen]
    constructor
    · intro h
      exact ⟨t, [], captured, [], by simp, by simp, h, .empty⟩
    · rintro ⟨u, v, one, other, rfl, rfl, hp, ⟨⟩⟩
      simpa using hp
  · rw [andThen.eq_2 _ _ hq]
    constructor
    · rintro ⟨⟩
      exact ⟨_, _, _, _, rfl, rfl, ‹_›, ‹_›⟩
    · rintro ⟨u, v, one, other, rfl, rfl, hp, hq⟩
      exact .seq hp hq

theorem covers_inOrder_nil_iff {t : List Char} {captured : Captured} :
    (inOrder []).Covers t captured ↔ t = [] ∧ captured = [] := by
  constructor
  · rintro ⟨⟩
    exact ⟨rfl, rfl⟩
  · rintro ⟨rfl, rfl⟩
    exact .empty

/-- Patterns in order cover texts in order. -/
theorem covers_inOrder_cons_iff {p : Pattern} {ps : List Pattern} {t : List Char}
    {captured : Captured} :
    (inOrder (p :: ps)).Covers t captured ↔
      ∃ u v one other, t = u ++ v ∧ captured = other ++ one ∧ p.Covers u one ∧
        (inOrder ps).Covers v other :=
  covers_andThen_iff

/-- A character in front of other patterns covers itself. -/
theorem covers_inOrder_char_iff {c : Char} {ps : List Pattern} {t : List Char}
    {captured : Captured} :
    (inOrder (char c :: ps)).Covers t captured ↔
      ∃ v, t = c :: v ∧ (inOrder ps).Covers v captured := by
  rw [covers_inOrder_cons_iff]
  constructor
  · rintro ⟨u, v, one, other, rfl, rfl, hchar, hps⟩
    rcases covers_char_iff.1 hchar with ⟨rfl, rfl⟩
    exact ⟨v, rfl, by simpa using hps⟩
  · rintro ⟨v, rfl, hps⟩
    exact ⟨[c], v, [], captured, rfl, by simp, covers_char_iff.2 ⟨rfl, rfl⟩, hps⟩

/-- Blanks in front of other patterns cover blanks. -/
theorem covers_inOrder_blanks_iff {ps : List Pattern} {t : List Char} {captured : Captured} :
    (inOrder (blanks :: ps)).Covers t captured ↔
      ∃ u v, t = u ++ v ∧ (∀ c ∈ u, Text.isBlank c = true) ∧ (inOrder ps).Covers v captured := by
  rw [covers_inOrder_cons_iff]
  constructor
  · rintro ⟨u, v, one, other, rfl, rfl, hblanks, hps⟩
    rcases covers_blanks_iff.1 hblanks with ⟨hu, rfl⟩
    exact ⟨u, v, rfl, hu, by simpa using hps⟩
  · rintro ⟨u, v, rfl, hu, hps⟩
    exact ⟨u, v, [], captured, rfl, by simp, covers_blanks_iff.2 ⟨hu, rfl⟩, hps⟩

/-- A group in front of other patterns captures what its body covers. -/
theorem covers_inOrder_group_iff {number : Nat} {p : Pattern} {ps : List Pattern}
    {t : List Char} {captured : Captured} :
    (inOrder (group number p :: ps)).Covers t captured ↔
      ∃ u v inner other, t = u ++ v ∧ captured = other ++ (number, u) :: inner ∧
        p.Covers u inner ∧ (inOrder ps).Covers v other := by
  rw [covers_inOrder_cons_iff]
  constructor
  · rintro ⟨u, v, one, other, rfl, rfl, hgroup, hps⟩
    rcases covers_group_iff.1 hgroup with ⟨inner, rfl, hp⟩
    exact ⟨u, v, inner, other, rfl, rfl, hp, hps⟩
  · rintro ⟨u, v, inner, other, rfl, rfl, hp, hps⟩
    exact ⟨u, v, _, other, rfl, rfl, .group hp, hps⟩

/-! ## The first fit -/

/-- What is found first is covered. -/
theorem exists_covers_of_fit? {p : Pattern} (hp : p.isPlain = true) {mustCover : Bool}
    {c d : Cursor} (h : p.fit? mustCover c = some d) :
    ∃ t captured, p.Covers t captured ∧ c.rest = t ++ d.rest := by
  rcases exists_covers_of_mem_results hp (mem_results_of_fit? h).1 with
    ⟨t, captured, ht, hrest, -⟩
  exact ⟨t, captured, ht, hrest⟩

/-- Something is found where something is covered. -/
theorem isSome_fit?_of_covers {p : Pattern} {t : List Char} {captured : Captured}
    (h : p.Covers t captured) {c : Cursor} {rest : List Char} (hc : c.rest = t ++ rest) :
    (p.fit? false c).isSome = true := by
  rcases exists_mem_results_of_covers h hc with ⟨d, hd, -⟩
  rw [fit?_eq_findSome?, List.findSome?_isSome_iff]
  exact ⟨d, hd, by simp⟩

/-- A text that is covered as a whole is captured as some way of covering it says. There can be
    several ways, and the one that is preferred need not be the one that is given. -/
theorem whole?_of_covers {p : Pattern} (hp : p.isPlain = true) {s : List Char}
    {captured : Captured} (h : p.Covers s captured) :
    ∃ found, p.Covers s found ∧
      p.whole? s = some ((List.range p.groups).map fun i => found.lookup (i + 1)) := by
  rw [whole?_eq_findSome?]
  have hall : (Cursor.start s).rest = s ++ [] := (List.append_nil s).symm
  rcases exists_mem_results_of_covers h hall with ⟨d, hd, hrest, -⟩
  -- Some fit leaves nothing, so the search finds one, perhaps another.
  have hsome : ((p.results (.start s)).findSome? fun d =>
      if d.rest.isEmpty then some (p.captures d) else none).isSome = true := by
    rw [List.findSome?_isSome_iff]
    exact ⟨d, hd, by simp [hrest]⟩
  rcases Option.isSome_iff_exists.1 hsome with ⟨captures, hcaptures⟩
  rcases List.exists_of_findSome?_eq_some hcaptures with ⟨e, he, hcond⟩
  split at hcond
  · rename_i hempty
    rcases exists_covers_of_mem_results hp he with ⟨t, found, ht, hstart, hfound⟩
    rw [List.isEmpty_iff.1 hempty, List.append_nil] at hstart
    refine ⟨found, ?_, ?_⟩
    · rw [show s = t from hstart]
      exact ht
    · rw [hcaptures, ← hcond, captures_eq, hfound]
      simp [Cursor.captured, Cursor.start]
  · exact absurd hcond (by simp)

end Stencil.Pattern
