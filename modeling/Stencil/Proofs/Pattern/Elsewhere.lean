import Stencil.Proofs.Pattern.Covers

/-!
# Patterns Elsewhere

What a pattern that is put together from runs, sequences, alternatives and groups
finds if the text around it is cut off, or if its groups have other numbers.

The text before a place means nothing to such a pattern. The text after what it is
to cover does: a run takes what it can get. But the fits that reach beyond are the
only ones that are lost when that text is cut off, and those that stay keep their
order. So whatever was found first at a place is, of all fits of the text that was
found, the first one that covers it as a whole.

The numbers of groups are names and nothing else, as long as nothing refers to them.
What is found with other numbers is found with these, and captured under them.

## Main definitions

* `Cursor.within`: A cursor with more text around it.
* `raise`, `Cursor.raise`: A pattern and a cursor with greater numbers for groups.
* `capturesFrom`: What groups capture that have greater numbers.

## Theorems

* `results_within`: The fits that do not reach into the text around, in their order.
* `whole?_of_fit?`: What is found covers itself, and captures the same.
* `results_raise`: The fits with greater numbers for groups.
* `fit?_group_raise`, `capturesFrom_cover`: What is found in a group beside others, and
  what it captures.
-/

namespace Stencil.Pattern

/-! ## Text around -/

/-- A span with more text after it. A span is held as the text from its start on and the text from
    its end on, so both become longer. -/
def Span.within (tail : List Char) (span : Span) : Span :=
  ⟨span.start ++ tail, span.stop ++ tail⟩

/-- A cursor with more text before and after it. -/
def Cursor.within (past tail : List Char) (c : Cursor) : Cursor :=
  ⟨c.past ++ past, c.rest ++ tail, c.spans.map fun s => (s.1, s.2.within tail)⟩

theorem Span.text_within (tail : List Char) (span : Span) : (span.within tail).text = span.text := by
  rw [within, text, text, before, before, List.length_append, List.length_append,
    Nat.add_sub_add_right, List.take_append_of_le_length (Nat.sub_le _ _)]

namespace Cursor

variable {past tail : List Char}

@[simp] theorem rest_within (c : Cursor) : (c.within past tail).rest = c.rest ++ tail := rfl

@[simp] theorem captured_within (c : Cursor) : (c.within past tail).captured = c.captured := by
  simp only [captured, within, List.map_map, Function.comp_def, Span.text_within]

end Cursor

section Within

variable {past tail : List Char}

/-- Fits from which nothing is reached that counts can be left out. This is about lists, and is
    how a condition on the last fits becomes one on the first. -/
theorem filter_flatMap {α β : Type} (l : List α) (f : α → List β) (keep : α → Bool)
    (keep' : β → Bool) (h : ∀ a ∈ l, keep a = false → ∀ b ∈ f a, keep' b = false) :
    (l.flatMap f).filter keep' = (l.filter keep).flatMap fun a => (f a).filter keep' := by
  induction l with
  | nil => rfl
  | cons a l ih =>
      rw [List.forall_mem_cons] at h
      rw [List.flatMap_cons, List.filter_append, ih h.2, List.filter_cons]
      cases hkeep : keep a with
      | true => rfl
      | false =>
          rw [List.filter_eq_nil_iff.2 fun b hb => by simp [h.1 hkeep b hb]]
          rfl

/-- A run that starts beyond stops beyond. -/
theorem filter_runEnds {set : CharSet} {spans : List (Nat × Span)} {least : Nat}
    {most : Option Nat} {before s : List Char} (h : s.length < tail.length) :
    (runEnds set spans least most before s).filter (tail.length ≤ ·.rest.length) = [] := by
  rw [List.filter_eq_nil_iff]
  intro d hd
  have hle : d.rest.length ≤ s.length := (reaches_of_mem_runEnds hd).length_le
  simp only [decide_eq_true_eq]
  omega

/-- A run that may stop in a text may stop there with text around it. -/
theorem filter_stop (past tail : List Char) (c : Cursor) (least : Nat) :
    (if least = 0 then [c.within past tail] else []).filter (tail.length ≤ ·.rest.length) =
      (if least = 0 then [c] else []).map (Cursor.within past tail) := by
  split
  · simp
  · rfl

/-- A run stops where it did, or in the text after. With more text it may go on where it had to
    stop before, and those stops come first, as a run takes as much as it can; but they are
    filtered out. -/
theorem runEnds_within (set : CharSet) (spans : List (Nat × Span)) (least : Nat)
    (most : Option Nat) (before s : List Char) :
    (runEnds set (spans.map fun s => (s.1, s.2.within tail)) least most (before ++ past)
        (s ++ tail)).filter (tail.length ≤ ·.rest.length) =
      (runEnds set spans least most before s).map (Cursor.within past tail) := by
  induction s generalizing least most before with
  | nil =>
      have hhere := filter_stop past tail ⟨before, [], spans⟩ least
      rw [List.nil_append, runEnds]
      cases tail with
      | nil => exact hhere
      | cons d tail =>
          -- A run that goes on here goes on in the text after.
          rw [runEnds, List.filter_append]
          by_cases hgo : (set.contains d && most != some 0) = true
          · rw [if_pos hgo, filter_runEnds (by simp), List.nil_append]
            exact hhere
          · rw [if_neg hgo, List.filter_nil, List.nil_append]
            exact hhere
  | cons c s ih =>
      have hhere := filter_stop past tail ⟨before, c :: s, spans⟩ least
      rw [List.cons_append, runEnds, runEnds, List.filter_append, List.map_append]
      by_cases hgo : (set.contains c && most != some 0) = true
      · rw [if_pos hgo, if_pos hgo]
        exact congr (congrArg _ (ih _ _ (c :: before))) hhere
      · rw [if_neg hgo, if_neg hgo, List.filter_nil, List.map_nil, List.nil_append, List.nil_append]
        exact hhere

/-- The fits in a text are those fits with text around it that do not reach beyond, in the same
    order. A plain pattern never looks at the text around, so only how far a fit reaches can
    depend on it. -/
theorem results_within {p : Pattern} (hp : p.isPlain = true) (c : Cursor) :
    (p.results (c.within past tail)).filter (tail.length ≤ ·.rest.length) =
      (p.results c).map (Cursor.within past tail) := by
  induction p generalizing c with
  | empty => simp [results]
  | run set least most => exact runEnds_within set c.spans least most c.past c.rest
  | seq p q ihp ihq =>
      rw [isPlain, Bool.and_eq_true] at hp
      -- What goes on from beyond stays beyond.
      have hbeyond : ∀ d ∈ p.results (c.within past tail),
          decide (tail.length ≤ d.rest.length) = false →
          ∀ e ∈ q.results d, decide (tail.length ≤ e.rest.length) = false := by
        intro d _ hd e he
        have hle := (reaches_of_mem_results he).length_le
        rw [decide_eq_false_iff_not] at hd ⊢
        omega
      rw [results, filter_flatMap _ _ _ _ hbeyond, ihp hp.1, List.flatMap_map, results,
        List.map_flatMap]
      exact congrArg (List.flatMap · (p.results c)) (funext fun d => ihq hp.2 d)
  | either p q ihp ihq =>
      rw [isPlain, Bool.and_eq_true] at hp
      rw [results, List.filter_append, ihp hp.1, ihq hp.2, results, List.map_append]
  | group number p ih =>
      rw [results, List.filter_map, results, List.map_map]
      have hcover : ((fun d : Cursor => decide (tail.length ≤ d.rest.length)) ∘
          fun d : Cursor => d.cover number (c.within past tail)) =
          fun d => decide (tail.length ≤ d.rest.length) := rfl
      rw [hcover, ih hp, List.map_map]
      rfl
  | repeated | atomic | look | anchor | again | given => simp [isPlain] at hp

/-- What groups capture does not depend on the text around. -/
theorem captures_within (p : Pattern) (c : Cursor) :
    p.captures (c.within past tail) = p.captures c := by
  rw [captures_eq, captures_eq, Cursor.captured_within]

/-- Fits that are preferred to the one that is found stop somewhere else. A fit that covers as
    much would have been found in its place. -/
theorem exists_of_fit? {p : Pattern} {mustCover : Bool} {c d : Cursor}
    (h : p.fit? mustCover c = some d) :
    ∃ earlier later, p.results c = earlier ++ d :: later ∧
      ∀ e ∈ earlier, e.rest.length ≠ d.rest.length := by
  rw [fit?_eq_findSome?] at h
  rcases List.findSome?_eq_some_iff.1 h with ⟨earlier, d', later, hresults, hd, hearlier⟩
  split at hd
  · rename_i hcover
    obtain rfl := Option.some.inj hd
    refine ⟨earlier, later, hresults, fun e he heq => ?_⟩
    -- It would have been found itself, as it covers as much.
    have hskip := hearlier e he
    rw [heq, if_pos hcover] at hskip
    cases hskip
  · cases hd

/-- A text captures what the first fit does that leaves nothing of it. The fits before it leave
    something, so they are passed over. -/
theorem whole?_of_results {p : Pattern} {s : List Char} {before after : List Cursor} {d : Cursor}
    (h : p.results (.start s) = before ++ d :: after) (hd : d.rest = [])
    (hbefore : ∀ c ∈ before, c.rest ≠ []) : p.whole? s = some (p.captures d) := by
  have hnone : before.findSome? (fun c => if c.rest.isEmpty then some (p.captures c) else none) =
      none := by
    rw [List.findSome?_eq_none_iff]
    intro c hc
    rw [if_neg (by simpa using hbefore c hc)]
  rw [whole?_eq_findSome?, h, List.findSome?_append, hnone, Option.none_or, List.findSome?_cons, hd]
  rfl

/-- What is found covers itself as a whole, and captures what it did. The fits that are preferred
    to it reach less far or farther, so none of them covers just the text that was found. -/
theorem whole?_of_fit? {p : Pattern} (hp : p.isPlain = true) {mustCover : Bool} {s : List Char}
    {d : Cursor} (h : p.fit? mustCover ⟨past, s, []⟩ = some d) :
    p.whole? (before s d.rest) = some (p.captures d) := by
  obtain ⟨t, rfl, -⟩ : Cursor.Reaches ⟨past, s, []⟩ d :=
    reaches_of_mem_results (mem_results_of_fit? h).1
  rw [before_append_self]
  rcases exists_of_fit? h with ⟨earlier, later, hresults, hearlier⟩
  -- Without the text around, the fits are those that do not reach beyond.
  have hwithin : (p.results (.start t)).map (Cursor.within past d.rest) =
      earlier.filter (d.rest.length ≤ ·.rest.length) ++
        d :: later.filter (d.rest.length ≤ ·.rest.length) := by
    rw [← results_within hp, ← List.filter_cons_of_pos (a := d) (by simp), ← List.filter_append,
      ← hresults]
    rfl
  rcases List.map_eq_append_iff.1 hwithin with ⟨before, after, hstart, hbefore, hafter⟩
  rcases List.map_eq_cons_iff.1 hafter with ⟨e, after, rfl, he, -⟩
  have hrest : e.rest = [] := by
    have hlength := congrArg (fun c => c.rest.length) he
    simp only [Cursor.rest_within, List.length_append] at hlength
    exact List.length_eq_zero_iff.1 (by omega)
  -- A fit before it that covers all of the text would have been preferred with text around it too.
  have hbefore' : ∀ c ∈ before, c.rest ≠ [] := by
    intro c hc hnil
    have hmem : c.within past d.rest ∈ earlier.filter (d.rest.length ≤ ·.rest.length) := by
      rw [← hbefore]
      exact List.mem_map_of_mem hc
    refine hearlier _ (List.mem_filter.1 hmem).1 ?_
    rw [Cursor.rest_within, hnil, List.nil_append]
  have hcaptures : p.captures (e.within past d.rest) = p.captures e := captures_within p e
  rw [he] at hcaptures
  rw [hcaptures]
  exact whole?_of_results hstart hrest hbefore'

end Within

/-! ## Other numbers of groups -/

/-- The pattern with greater numbers for its groups. References to groups are raised as well, so
    it means the same behind other groups. -/
def raise (n : Nat) : Pattern → Pattern
  | seq p q => seq (p.raise n) (q.raise n)
  | either p q => either (p.raise n) (q.raise n)
  | repeated p least most greedy => repeated (p.raise n) least most greedy
  | group number p => group (number + n) (p.raise n)
  | atomic p => atomic (p.raise n)
  | look wanted back p => look wanted back (p.raise n)
  | again number caseless => again (number + n) caseless
  | given number p q => given (number + n) (p.raise n) (q.raise n)
  | p@(empty) | p@(run ..) | p@(anchor _) => p

/-- The cursor with greater numbers for the groups that took part. -/
def Cursor.raise (n : Nat) (c : Cursor) : Cursor :=
  { c with spans := c.spans.map fun s => (s.1 + n, s.2) }

/-- What a group covers is what it covers under its other number. -/
theorem Cursor.span?_raise (n : Nat) (c : Cursor) (number : Nat) :
    (c.raise n).span? (number + n) = c.span? number := by
  rw [span?, span?, raise]
  induction c.spans with
  | nil => rfl
  | cons s spans ih =>
      have hnumber : (number + n == s.1 + n) = (number == s.1) := by
        rw [Bool.eq_iff_iff, beq_iff_eq, beq_iff_eq]
        omega
      rw [List.map_cons, List.lookup_cons, List.lookup_cons, hnumber, ih]

/-- The ends of a run have the spans of its start. -/
theorem runEnds_raise (n : Nat) (set : CharSet) (spans : List (Nat × Span)) (least : Nat)
    (most : Option Nat) (past s : List Char) :
    runEnds set (spans.map fun s => (s.1 + n, s.2)) least most past s =
      (runEnds set spans least most past s).map (Cursor.raise n) := by
  induction s generalizing least most past with
  | nil =>
      rw [runEnds, runEnds]
      split <;> rfl
  | cons c s ih =>
      rw [runEnds, runEnds, List.map_append, ih]
      split <;> split <;> rfl

/-- What is found with other numbers for groups is found with these. The numbers are only written
    down, and a plain pattern never reads them again. -/
theorem results_raise {p : Pattern} (hp : p.isPlain = true) (n : Nat) (c : Cursor) :
    (p.raise n).results (c.raise n) = (p.results c).map (Cursor.raise n) := by
  induction p generalizing c with
  | empty => rfl
  | run set least most => exact runEnds_raise n set c.spans least most c.past c.rest
  | seq p q ihp ihq =>
      rw [isPlain, Bool.and_eq_true] at hp
      rw [raise, results, ihp hp.1, List.flatMap_map, results, List.map_flatMap]
      exact congrArg (List.flatMap · (p.results c)) (funext fun d => ihq hp.2 d)
  | either p q ihp ihq =>
      rw [isPlain, Bool.and_eq_true] at hp
      rw [raise, results, ihp hp.1, ihq hp.2, results, List.map_append]
  | group number p ih =>
      rw [raise, results, ih hp, List.map_map, results, List.map_map]
      rfl
  | repeated | atomic | look | anchor | again | given => simp [isPlain] at hp

/-- What a pattern captures with other numbers for its groups, next to a group that
    has the number before theirs. -/
def capturesFrom (p : Pattern) (n : Nat) (c : Cursor) : List (Option (List Char)) :=
  (List.range p.groups).map fun i => (c.span? (i + 1 + n)).map Span.text

theorem capturesFrom_cover (p : Pattern) (n : Nat) (c d : Cursor) :
    p.capturesFrom n ((d.raise n).cover n c) = p.captures d := by
  rw [capturesFrom, captures]
  refine List.map_congr_left fun i _ => ?_
  have hne : (i + 1 + n == n) = false := by
    rw [beq_eq_false_iff_ne]
    omega
  rw [Cursor.span?, Cursor.cover, List.lookup_cons, hne]
  exact congrArg _ (Cursor.span?_raise n d (i + 1))

/-- What is found first in a group with other numbers inside it is found first without
    these. -/
theorem fit?_group_raise {p : Pattern} (hp : p.isPlain = true) (n : Nat) (mustCover : Bool)
    (past s : List Char) :
    (group n (p.raise n)).fit? mustCover ⟨past, s, []⟩ =
      (p.fit? mustCover ⟨past, s, []⟩).map fun d => (d.raise n).cover n ⟨past, s, []⟩ := by
  have hresults : (p.raise n).results ⟨past, s, []⟩ =
      (p.results ⟨past, s, []⟩).map (Cursor.raise n) := results_raise hp n ⟨past, s, []⟩
  rw [fit?_eq_findSome?, fit?_eq_findSome?, results, hresults, List.findSome?_map,
    List.findSome?_map, List.map_findSome?]
  refine congrArg (List.findSome? · _) (funext fun d => ?_)
  -- Neither the numbers nor the group change how much is covered.
  by_cases hcover : (!mustCover || decide (d.rest.length < s.length)) = true
  · simp only [Function.comp_apply, if_pos hcover, Option.map_some]
    exact if_pos hcover
  · simp only [Function.comp_apply, if_neg hcover, Option.map_none]
    exact if_neg hcover

end Stencil.Pattern
