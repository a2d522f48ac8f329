import Stencil.Proofs.Pattern.Greedy
import Stencil.Proofs.Text.Trim

/-!
# Searches as Equations

What a search through a part of a pattern comes to, with whatever follows.

`first` goes through the ways to fit a part and asks the rest of the pattern, the
continuation, about each. For the parts that lexers are written with, the ways
can be listed without the pattern: the lengths of a run from the longest down, the
places that a lazy repetition comes to one after the other, and the single way to
pass a character or to repeat what a group captured. Stated as equations these
hold whether the search succeeds or fails, so a whole pattern can be rewritten
part by part into a function on lists of characters.

Most runs have only one way that counts. Where the rest of a pattern cannot start
with a character of the run's class, a run that is cut short leads nowhere, and the
search comes to what it finds behind the longest; that is `first_run_of_forced`.

## Main definitions

* `Cursor.pass`: The cursor behind some characters.
* `counts`: The lengths of a run, the greatest first.
* `scan`: The first place, from one on, where a continuation finds something.

## Theorems

* `exists_of_findSome?_counts`: The greatest length for which something is found.
* `first_run_eq_findSome?`: A search through a run tries its lengths.
* `first_run_of_forced`: Only the longest run counts if the rest cannot start within it.
* `first_run_some`: What is found where nothing more is asked for.
* `first_char`: A search through a character.
* `first_lazy`: A search through a lazy repetition is a scan.
* `scan_append`: A scan passes the places where nothing is found.
* `first_again`: A search through what a group captured.
-/

namespace Stencil.Pattern

/-- The cursor behind some characters. -/
def Cursor.pass (c : Cursor) (t : List Char) : Cursor :=
  ⟨t.reverse ++ c.past, c.rest.drop t.length, c.spans⟩

/-- The lengths that a run can have, the greatest first. They are in the order in which a search
    tries them. -/
def counts (least most : Nat) : List Nat :=
  ((List.range (most + 1)).filter (least ≤ ·)).reverse

/-- The first place, from one on, where a continuation finds something, passing
    characters of a class. -/
def scan {α : Type} (set : CharSet) (spans : List (Nat × Span)) (next : Cursor → Option α) :
    (past rest : List Char) → Option α
  | past, [] => next ⟨past, [], spans⟩
  | past, c :: s =>
    (next ⟨past, c :: s, spans⟩).or (if set.contains c then scan set spans next (c :: past) s
      else none)

/-- What is left behind some characters that come next. -/
theorem Cursor.pass_eq {c : Cursor} {t rest : List Char} (h : c.rest = t ++ rest) :
    c.pass t = ⟨t.reverse ++ c.past, rest, c.spans⟩ := by
  rw [pass, h, List.drop_left]

theorem Cursor.rest_pass {c : Cursor} {t rest : List Char} (h : c.rest = t ++ rest) :
    (c.pass t).rest = rest := by
  rw [pass_eq h]

theorem mem_counts_iff {count least most : Nat} :
    count ∈ counts least most ↔ least ≤ count ∧ count ≤ most := by
  simp only [counts, List.mem_reverse, List.mem_filter, List.mem_range, decide_eq_true_eq]
  omega

/-- A run that is longer by one has its lengths from one on, and perhaps none. -/
theorem counts_succ (least most : Nat) :
    counts least (most + 1) =
      (counts (least - 1) most).map (· + 1) ++ if least = 0 then [0] else [] := by
  have hle : ∀ n, decide (least ≤ n + 1) = decide (least - 1 ≤ n) := by
    intro n
    rw [decide_eq_decide]
    omega
  rw [counts, List.range_succ_eq_map, List.filter_cons, List.filter_map]
  simp only [Function.comp_def, Nat.succ_eq_add_one, hle, Nat.le_zero, decide_eq_true_eq]
  -- Only if no character is needed can the run be empty, and that is tried last.
  by_cases hleast : least = 0
  · rw [if_pos hleast, if_pos hleast, List.reverse_cons, counts, List.map_reverse]
  · rw [if_neg hleast, if_neg hleast, List.append_nil, counts, List.map_reverse]

theorem counts_eq_nil {least most : Nat} (h : most < least) : counts least most = [] := by
  refine List.eq_nil_iff_forall_not_mem.2 fun count hcount => ?_
  rw [mem_counts_iff] at hcount
  omega

/-- The greatest length comes first. -/
theorem exists_counts_eq_cons {least most : Nat} (h : least ≤ most) :
    ∃ fewer, counts least most = most :: fewer ∧ ∀ count ∈ fewer, count < most := by
  refine ⟨((List.range most).filter (least ≤ ·)).reverse, ?_, fun count hcount => ?_⟩
  · rw [counts, List.range_succ, List.filter_append, List.filter_singleton, decide_eq_true h,
      List.reverse_append]
    rfl
  · rw [List.mem_reverse, List.mem_filter, List.mem_range] at hcount
    exact hcount.1

/-- What is found is found for the greatest length for which there is something. For all greater
    ones there is nothing, and of the smaller ones nothing is known. -/
theorem exists_of_findSome?_counts {α : Type} {least most : Nat} {f : Nat → Option α} {found : α}
    (h : (counts least most).findSome? f = some found) :
    ∃ count, least ≤ count ∧ count ≤ most ∧ f count = some found ∧
      ∀ more, count < more → more ≤ most → f more = none := by
  have hdescending : (counts least most).Pairwise (· > ·) :=
    List.pairwise_reverse.2 (List.pairwise_lt_range.filter _)
  rcases List.findSome?_eq_some_iff.1 h with ⟨longer, count, shorter, hcut, hcount, hlonger⟩
  have hbounds : least ≤ count ∧ count ≤ most := by
    rw [← mem_counts_iff, hcut]
    exact List.mem_append_right _ List.mem_cons_self
  refine ⟨count, hbounds.1, hbounds.2, hcount, fun more hlt hle => ?_⟩
  -- A greater length is not behind this one, so it was tried before.
  have hmem : more ∈ counts least most := mem_counts_iff.2 ⟨by omega, hle⟩
  rw [hcut, List.pairwise_append] at hdescending
  rw [hcut, List.mem_append, List.mem_cons] at hmem
  rcases hmem with hmem | rfl | hmem
  · exact hlonger more hmem
  · exact absurd hlt (Nat.lt_irrefl _)
  · exact absurd (List.rel_of_pairwise_cons hdescending.2.1 hmem) (Nat.lt_asymm hlt)

theorem findSome?_congr {α β : Type} {l : List α} {f g : α → Option β}
    (h : ∀ a ∈ l, f a = g a) : l.findSome? f = l.findSome? g := by
  induction l with
  | nil => rfl
  | cons a l ih =>
      rw [List.forall_mem_cons] at h
      rw [List.findSome?_cons, List.findSome?_cons, h.1, ih h.2]

section Search

variable {α : Type} {next : Cursor → Option α}

/-- A search asks the continuation about nothing but fits. -/
theorem first_congr {p : Pattern} {c : Cursor} {other : Cursor → Option α}
    (h : ∀ d ∈ p.results c, next d = other d) : p.first c next = p.first c other := by
  rw [first_eq_findSome?, first_eq_findSome?]
  exact findSome?_congr h

theorem first_inOrder_cons (p : Pattern) (ps : List Pattern) (c : Cursor) :
    (inOrder (p :: ps)).first c next = p.first c fun d => (inOrder ps).first d next := by
  show (andThen p (inOrder ps)).first c next = _
  generalize inOrder ps = q
  cases q <;> rfl

/-- A search through a group notes what the group covers. -/
theorem first_group (number : Nat) (p : Pattern) (c : Cursor) :
    (group number p).first c next = p.first c fun d => next (d.cover number c) := rfl

/-- Patterns that follow each other can be searched in two parts. -/
theorem first_inOrder_append (ps qs : List Pattern) (c : Cursor) :
    (inOrder (ps ++ qs)).first c next =
      (inOrder ps).first c fun d => (inOrder qs).first d next := by
  induction ps generalizing c with
  | nil => rfl
  | cons p ps ih =>
      rw [List.cons_append, first_inOrder_cons, first_inOrder_cons]
      congr 1
      funext d
      exact ih d

/-- Where nothing more is asked for, the search comes to the first fit. -/
theorem first_some (p : Pattern) (c : Cursor) (found : Cursor → α) :
    (p.first c fun d => some (found d)) = (p.results c).head?.map found := by
  rw [first_eq_findSome?]
  cases p.results c <;> rfl

/-! ## Runs -/

/-- A search through a run tries its lengths, the greatest first. So what is asked about a run
    becomes a question about numbers. -/
theorem first_run_eq_findSome? (set : CharSet) (least : Nat) (c : Cursor) :
    (run set least none).first c next =
      (counts least (c.rest.takeWhile set.contains).length).findSome? fun count =>
        next (c.pass (c.rest.take count)) := by
  rcases c with ⟨past, rest, spans⟩
  show firstEnd set spans next least none past rest = _
  induction rest generalizing least past with
  | nil =>
      by_cases hleast : least = 0
      · simp [firstEnd, counts, hleast, Cursor.pass]
      · simp [firstEnd, counts, hleast]
  | cons x s ih =>
      have hnone : (none : Option Nat) != some 0 := rfl
      by_cases hx : set.contains x = true
      · have hstop : (if least = 0 then next ⟨past, x :: s, spans⟩ else none) =
            (if least = 0 then [0] else []).findSome? fun count =>
              next (Cursor.pass ⟨past, x :: s, spans⟩ ((x :: s).take count)) := by
          by_cases hleast : least = 0
          · simp [hleast, Cursor.pass]
          · simp [hleast]
        -- What is tried behind this character, and what without it.
        rw [List.takeWhile_cons_of_pos hx, List.length_cons, counts_succ, List.findSome?_append,
          List.findSome?_map, ← hstop, firstEnd, hx, hnone, Option.map_none, ih]
        simp [Function.comp_def, Cursor.pass]
      · rw [List.takeWhile_cons_of_neg hx, firstEnd]
        by_cases hleast : least = 0
        · simp [hx, counts, hleast, Cursor.pass]
        · simp [hx, counts, hleast]

/-- Where the rest of a pattern cannot start with a character of the class, the search comes to
    what is found behind the longest run. All shorter runs leave such a character, so nothing is
    lost by not going back. -/
theorem first_run_of_forced {set : CharSet} {least : Nat} {c : Cursor} {t rest : List Char}
    (hc : c.rest = t ++ rest) (hset : ∀ x ∈ t, set.contains x = true)
    (hstop : ∀ x ∈ rest.head?, set.contains x = false)
    (h : ∀ past x s, set.contains x = true → next ⟨past, x :: s, c.spans⟩ = none) :
    (run set least none).first c next = if least ≤ t.length then next (c.pass t) else none := by
  have hrun : c.rest.takeWhile set.contains = t := by
    rw [hc, Text.takeWhile_append_of_stop hstop]
    exact List.takeWhile_eq_self_iff.2 hset
  rw [first_run_eq_findSome?, hrun]
  by_cases hleast : least ≤ t.length
  · rcases exists_counts_eq_cons hleast with ⟨fewer, hcounts, hfewer⟩
    rw [if_pos hleast, hcounts, List.findSome?_cons, hc, List.take_left]
    cases hlongest : next (c.pass t) with
    | some found => rfl
    | none =>
        rw [List.findSome?_eq_none_iff]
        intro count hcount
        -- A shorter run leaves a character of the class.
        have hlt := hfewer count hcount
        have hx : set.contains t[count] = true := hset _ (List.getElem_mem hlt)
        have hle : count ≤ (t ++ rest).length := by
          rw [List.length_append]
          omega
        rw [Cursor.pass, List.length_take_of_le hle, hc,
          List.drop_append_of_le_length (Nat.le_of_lt hlt), List.drop_eq_getElem_cons hlt]
        exact h _ _ _ hx
  · rw [if_neg hleast, counts_eq_nil (Nat.lt_of_not_le hleast), List.findSome?_nil]

/-- Where nothing more is asked for, the search comes to the longest run, unless that is too
    short. -/
theorem first_run_some (set : CharSet) (least : Nat) (c : Cursor) (found : Cursor → α) :
    ((run set least none).first c fun d => some (found d)) =
      if least ≤ (c.rest.takeWhile set.contains).length then
        some (found (c.pass (c.rest.takeWhile set.contains)))
      else none := by
  rw [first_run_eq_findSome?]
  by_cases hleast : least ≤ (c.rest.takeWhile set.contains).length
  · rcases exists_counts_eq_cons hleast with ⟨fewer, hcounts, -⟩
    have htake : c.rest.take (c.rest.takeWhile set.contains).length =
        c.rest.takeWhile set.contains := by
      rw [eq_comm, ← List.prefix_iff_eq_take]
      exact List.takeWhile_prefix _
    rw [if_pos hleast, hcounts, List.findSome?_cons, htake]
  · rw [if_neg hleast, counts_eq_nil (Nat.lt_of_not_le hleast), List.findSome?_nil]

/-! ## Single characters -/

/-- A search through a single character of a class passes one if it comes next. -/
theorem first_one (set : CharSet) (c : Cursor) :
    (one set).first c next =
      match c.rest with
      | [] => none
      | x :: _ => if set.contains x then next (c.pass [x]) else none := by
  rcases c with ⟨past, rest, spans⟩
  cases rest with
  | nil => rfl
  | cons x s =>
      by_cases hx : set.contains x = true
      · cases s <;> simp [one, first, firstEnd, hx, Cursor.pass]
      · simp [one, first, firstEnd, hx]

/-- A search through a character passes it if it comes next. -/
theorem first_char (x : Char) (c : Cursor) :
    (char x).first c next = if c.rest.head? = some x then next (c.pass [x]) else none := by
  rw [char, first_one]
  cases hrest : c.rest with
  | nil => simp
  | cons y s =>
      by_cases hy : y = x
      · simp [hy, CharSet.contains_single]
      · simp [hy, CharSet.contains_single]

/-- A search through a text passes it if it comes next. -/
theorem first_chars (t : List Char) (c : Cursor) :
    (inOrder (t.map char)).first c next = if t <+: c.rest then next (c.pass t) else none := by
  induction t generalizing c with
  | nil => rfl
  | cons x t ih =>
      rw [List.map_cons, first_inOrder_cons, first_char]
      rcases c with ⟨past, rest, spans⟩
      cases rest with
      | nil => rfl
      | cons y s =>
          by_cases hy : y = x
          · simp [hy, ih, Cursor.pass]
          · simp [hy, Ne.symm hy]

/-! ## Lazy repetitions -/

/-- Each round passes one character, so less is left after it, and the rounds are enough. The last
    place is kept to see whether a round has passed anything, and here it always has. -/
theorem firstRound_one (set : CharSet) {past rest : List Char} {spans : List (Nat × Span)}
    {fuel : Nat} (hfuel : rest.length < fuel) {last : Option Nat}
    (hlast : ∀ n ∈ last, rest.length < n) :
    firstRound (fun d next => (one set).first d next) false next fuel 0 none last
      ⟨past, rest, spans⟩ = scan set spans next past rest := by
  induction rest generalizing fuel past last with
  | nil =>
      rcases fuel with _ | fuel
      · omega
      · simp [firstRound, scan, first_one]
  | cons x s ih =>
      rcases fuel with _ | fuel
      · omega
      · rw [List.length_cons] at hfuel hlast
        -- Something was passed since the last round, so this one is made.
        have hfurther : last ≠ some (s.length + 1) := by
          intro hsame
          exact absurd (hlast _ hsame) (Nat.lt_irrefl _)
        have hrest : firstRound (fun d next => (one set).first d next) false next fuel 0 none
            (some (s.length + 1)) ⟨x :: past, s, spans⟩ = scan set spans next (x :: past) s :=
          ih (by omega) (by simp)
        -- A round goes on if the next character is of the class, and then the next round comes.
        have hbody : ∀ later : Cursor → Option α, (one set).first ⟨past, x :: s, spans⟩ later =
            if set.contains x then later ⟨x :: past, s, spans⟩ else none :=
          fun later => first_one set _
        simp [firstRound, scan, hbody, hfurther, hrest]

/-- A search through a lazy repetition of a class is a scan. -/
theorem first_lazy (set : CharSet) (c : Cursor) :
    (repeated (one set) 0 none false).first c next = scan set c.spans next c.past c.rest :=
  firstRound_one set (by simp [roundLimit]) (by simp)

/-- A scan stops where something is found. -/
theorem scan_of_some {set : CharSet} {spans : List (Nat × Span)} {past rest : List Char}
    {found : α} (h : next ⟨past, rest, spans⟩ = some found) :
    scan set spans next past rest = some found := by
  cases rest with
  | nil => exact h
  | cons x s => rw [scan, h, Option.some_or]

/-- A scan passes the places where nothing is found. It is a lazy repetition, so it asks at each
    place before it goes on. -/
theorem scan_append {set : CharSet} {spans : List (Nat × Span)} {past t rest : List Char}
    (hset : ∀ x ∈ t, set.contains x = true)
    (h : ∀ one other, t = one ++ other → other ≠ [] →
      next ⟨one.reverse ++ past, other ++ rest, spans⟩ = none) :
    scan set spans next past (t ++ rest) = scan set spans next (t.reverse ++ past) rest := by
  induction t generalizing past with
  | nil => rfl
  | cons x t ih =>
      rw [List.forall_mem_cons] at hset
      -- Nothing is found in front of the first character, so the scan passes it.
      have hplace : next ⟨past, x :: (t ++ rest), spans⟩ = none :=
        h [] (x :: t) rfl (List.cons_ne_nil _ _)
      rw [List.cons_append, scan, hplace, Option.none_or, if_pos hset.1, ih hset.2]
      · rw [List.reverse_cons, List.append_assoc, List.singleton_append]
      · rintro one other rfl hother
        simpa using h (x :: one) other rfl hother

/-! ## Repeating what is captured -/

theorem after?_eq (chars : List Char) (c : Cursor) :
    Cursor.after? none chars c = if chars <+: c.rest then some (c.pass chars) else none := by
  rcases c with ⟨past, rest, spans⟩
  induction chars generalizing past rest with
  | nil => simp [Cursor.after?, Cursor.pass]
  | cons x chars ih =>
      cases rest with
      | nil => simp [Cursor.after?]
      | cons y rest =>
          by_cases hxy : x = y
          · simp [Cursor.after?, Cursor.pass, hxy, ih]
          · simp [Cursor.after?, hxy]

/-- A search through what a group captured passes it if it comes next. -/
theorem first_again {number : Nat} {c : Cursor} {span : Span} (h : c.span? number = some span) :
    (again number none).first c next =
      if span.text <+: c.rest then next (c.pass span.text) else none := by
  rw [first, Cursor.again?, h, Option.bind_some, after?_eq]
  split
  · rfl
  · rfl

end Search

end Stencil.Pattern
