import Stencil.Pattern.Pieces
import Stencil.Proofs.Pattern.Search

/-!
# Rows of Groups

Patterns in a row, each in a group of its own, capture the pieces of a text.

There are two ways to take a text apart with patterns that follow each other. A
lexer that is written as one pattern puts each of them in a group and asks what
the groups capture. `pieces?` does without groups and keeps the cursor behind each.
The two agree as long as the patterns look at nothing but the text that comes
next: what a group captures must not change what a later pattern fits.
`results_eq_map` says that plain patterns without groups of their own are of that
kind, and `first_numbered` follows a row part by part.

## Main definitions

* `numbered`: Patterns, each in a group.
* `Cursor.close`: A cursor after texts that groups cover, one each.

## Theorems

* `results_eq_map`: Fits of a plain pattern depend on nothing but the text that comes next.
* `first_numbered`: A search through a row of groups goes through chains.
* `first_row`: A row of groups finds the pieces of a text.
* `captures_close`: What the groups of a row capture.
-/

namespace Stencil.Pattern

/-- Patterns in groups, with numbers from the one after the given on. -/
def numbered (number : Nat) : List Pattern → List Pattern
  | [] => []
  | p :: ps => group (number + 1) p :: numbered (number + 1) ps

/-- The cursor after texts that groups cover, one each, with numbers from the one
    after the given on. -/
def Cursor.close (number : Nat) (c : Cursor) : List (List Char) → Cursor
  | [] => c
  | t :: ts => ((c.pass t).cover (number + 1) c).close (number + 1) ts

/-- Whether a pattern looks at nothing but the text that comes next, and captures nothing. Such
    patterns can be searched one after the other, from any place. -/
def IsBare (p : Pattern) : Prop :=
  p.isPlain = true ∧ p.groups = 0

instance (p : Pattern) : Decidable p.IsBare :=
  inferInstanceAs (Decidable (_ ∧ _))

/-! ## Where a pattern stands -/

theorem runEnds_eq_map (set : CharSet) (spans : List (Nat × Span)) (least : Nat)
    (most : Option Nat) (near past s : List Char) :
    runEnds set spans least most (near ++ past) s =
      (runEnds set [] least most near s).map fun d => ⟨d.past ++ past, d.rest, spans⟩ := by
  induction s generalizing least most near with
  | nil =>
      simp only [runEnds]
      split
      · rfl
      · rfl
  | cons c s ih =>
      -- One more character is near, and what is left may be shorter by one.
      have hmore := ih (least - 1) (most.map (· - 1)) (c :: near)
      rw [List.cons_append] at hmore
      simp only [runEnds, hmore, List.map_append]
      congr 1
      · split
        · rfl
        · rfl
      · split
        · rfl
        · rfl

/-- Fits of a plain pattern without groups depend on nothing but the text that comes next. What is
    past is only added to, and spans are only carried along. -/
theorem results_eq_map {p : Pattern} (hp : p.IsBare) (past s : List Char)
    (spans : List (Nat × Span)) :
    p.results ⟨past, s, spans⟩ =
      (p.results (.start s)).map fun d => ⟨d.past ++ past, d.rest, spans⟩ := by
  induction p generalizing past s spans with
  | empty => rfl
  | run set least most => exact runEnds_eq_map set spans least most [] past s
  | seq p q ihp ihq =>
      rcases hp with ⟨hplain, hgroups⟩
      rw [isPlain, Bool.and_eq_true] at hplain
      rw [groups, Nat.add_eq_zero_iff] at hgroups
      have hq := fun past s spans => ihq ⟨hplain.2, hgroups.2⟩ past s spans
      rw [results, results, ihp ⟨hplain.1, hgroups.1⟩, List.flatMap_map, List.map_flatMap]
      -- Behind each fit of the one, the other is moved from a start of its own.
      congr 1
      funext d
      rw [hq (d.past ++ past), hq d.past d.rest d.spans, List.map_map]
      simp only [Function.comp_def, List.append_assoc]
  | either p q ihp ihq =>
      rcases hp with ⟨hplain, hgroups⟩
      rw [isPlain, Bool.and_eq_true] at hplain
      rw [groups, Nat.add_eq_zero_iff] at hgroups
      rw [results, results, ihp ⟨hplain.1, hgroups.1⟩, ihq ⟨hplain.2, hgroups.2⟩, List.map_append]
  | group number p ih => exact absurd hp.2 (Nat.succ_ne_zero _)
  | _ => exact absurd hp.1 Bool.false_ne_true

section Search

variable {α : Type} {p : Pattern} {ps : List Pattern}

/-- A search through a plain pattern can be made at the start of the text that comes
    next. -/
theorem first_eq_start (hp : p.IsBare) (past s : List Char) (spans : List (Nat × Span))
    (next : Cursor → Option α) :
    p.first ⟨past, s, spans⟩ next =
      p.first (.start s) fun d => next ⟨d.past ++ past, d.rest, spans⟩ := by
  rw [first_eq_findSome?, first_eq_findSome?, results_eq_map hp, List.findSome?_map]
  rfl

/-- A fit of a plain pattern passes some characters and leaves the spans as they are. So it is
    known from where it ends. -/
theorem eq_pass_of_mem_results (hp : p.IsBare) {c d : Cursor} (h : d ∈ p.results c) :
    d = c.pass (before c.rest d.rest) := by
  have hspans : d.spans = c.spans := by
    rw [show c = ⟨c.past, c.rest, c.spans⟩ from rfl, results_eq_map hp] at h
    rcases List.mem_map.1 h with ⟨e, -, rfl⟩
    rfl
  rcases reaches_of_mem_results h with ⟨t, hrest, hpast⟩
  rcases d with ⟨past, rest, spans⟩
  simp only at hrest hpast hspans
  rw [hrest, before_append_self, Cursor.pass, hrest, List.drop_left, hpast, hspans]

/-- If all that is asked about a chain are the pieces that it cuts, it makes no difference from
    which cursor on the text comes next. The question is what is generalized: behind the first
    piece it is about the pieces after it. -/
theorem firstChain_eq_start (hps : ∀ p ∈ ps, p.IsBare) (past s : List Char)
    (spans : List (Nat × Span)) (next : List (List Char) → Option α) :
    firstChain ps ⟨past, s, spans⟩ (fun ds => next (cut s ds)) =
      firstChain ps (.start s) fun ds => next (cut s ds) := by
  induction ps generalizing past s spans next with
  | nil => rfl
  | cons p ps ih =>
      rw [List.forall_mem_cons] at hps
      have hrest := fun past s spans next => ih hps.2 past s spans next
      simp only [firstChain, cut]
      rw [first_eq_start hps.1]
      congr 1
      funext d
      -- Both sides go on behind the same piece, each from a place of its own.
      rw [hrest _ _ _ fun ts => next (before s d.rest :: ts)]
      exact (hrest d.past d.rest d.spans fun ts => next (before s d.rest :: ts)).symm

/-- A search through a row of groups goes through the chains of the patterns. Groups are closed on
    the way, and a chain is found first and its pieces closed afterwards; patterns without groups
    cannot tell the two apart. -/
theorem first_numbered (hps : ∀ p ∈ ps, p.IsBare) (number : Nat) (c : Cursor)
    (next : Cursor → Option α) :
    (inOrder (numbered number ps)).first c next =
      firstChain ps c fun ds => next (c.close number (cut c.rest ds)) := by
  induction ps generalizing number c with
  | nil => rfl
  | cons p ps ih =>
      rw [List.forall_mem_cons] at hps
      rw [numbered, first_inOrder_cons]
      show p.first c (fun d => (inOrder _).first (d.cover (number + 1) c) next) =
        p.first c fun d => firstChain ps d fun ds => next (c.close number (cut c.rest (d :: ds)))
      refine first_congr fun d hd => ?_
      rw [ih hps.2]
      have hpass : c.pass (before c.rest d.rest) = d := (eq_pass_of_mem_results hps.1 hd).symm
      simp only [cut, Cursor.close, hpass]
      -- Closing the group changes nothing for the patterns that follow.
      let later : List (List Char) → Option α := fun ts =>
        next ((d.cover (number + 1) c).close (number + 1) ts)
      exact (firstChain_eq_start hps.2 d.past d.rest _ later).trans
        (firstChain_eq_start hps.2 d.past d.rest d.spans later).symm

/-- A row of groups finds the pieces of a text, wherever the text comes next. -/
theorem first_row (hps : ∀ p ∈ ps, p.IsBare) (past s : List Char) (found : Cursor → α) :
    (inOrder (numbered 0 ps)).first ⟨past, s, []⟩ (fun d => some (found d)) =
      (pieces? ps s).map fun ts => found (Cursor.close 0 ⟨past, s, []⟩ ts) := by
  let asked : List (List Char) → Option α := fun ts =>
    some (found (Cursor.close 0 ⟨past, s, []⟩ ts))
  rw [first_numbered hps]
  refine (firstChain_eq_start hps past s [] asked).trans ?_
  rw [pieces?, firstChain_eq_findSome?, firstChain_eq_findSome?, List.map_findSome?]
  rfl

end Search

/-! ## What a row captures -/

theorem groups_inOrder_cons (p : Pattern) (ps : List Pattern) :
    (inOrder (p :: ps)).groups = p.groups + (inOrder ps).groups := by
  show (andThen p (inOrder ps)).groups = _
  generalize inOrder ps = q
  cases q <;> rfl

theorem groups_row {ps : List Pattern} (hps : ∀ p ∈ ps, p.IsBare) (number : Nat) :
    (inOrder (numbered number ps)).groups = ps.length := by
  induction ps generalizing number with
  | nil => rfl
  | cons p ps ih =>
      rw [List.forall_mem_cons] at hps
      rw [numbered, groups_inOrder_cons, groups, hps.1.2, ih hps.2, List.length_cons]
      omega

/-- Groups that are closed later leave what the earlier ones cover as it is. -/
theorem span?_close_of_le {number m : Nat} (h : m ≤ number) (c : Cursor)
    (ts : List (List Char)) : (c.close number ts).span? m = c.span? m := by
  induction ts generalizing number c with
  | nil => rfl
  | cons t ts ih =>
      have hne : (m == number + 1) = false := by
        rw [beq_eq_false_iff_ne]
        omega
      rw [Cursor.close, ih (by omega : m ≤ number + 1)]
      show List.lookup m ((number + 1, _) :: c.spans) = _
      rw [List.lookup_cons, hne]
      rfl

/-- A row of groups passes the texts that they cover. -/
theorem place_close (number : Nat) (c : Cursor) (ts : List (List Char)) :
    (c.close number ts).past = ts.flatten.reverse ++ c.past ∧
      (c.close number ts).rest = c.rest.drop ts.flatten.length := by
  induction ts generalizing number c with
  | nil => exact ⟨rfl, rfl⟩
  | cons t ts ih =>
      rw [Cursor.close, (ih _ _).1, (ih _ _).2]
      simp [Cursor.pass, Cursor.cover]

/-- The groups of a row capture the texts, one each. A group that is closed later has another
    number, so it hides none of those before it. -/
theorem map_span?_close (number : Nat) {c : Cursor} {ts : List (List Char)}
    (h : ts.flatten <+: c.rest) :
    (List.range' (number + 1) ts.length).map (fun m =>
      ((c.close number ts).span? m).map Span.text) = ts.map some := by
  induction ts generalizing number c with
  | nil => rfl
  | cons t ts ih =>
      rcases h with ⟨rest, hrest⟩
      rw [List.flatten_cons, List.append_assoc] at hrest
      -- The first group ends where the texts behind it start, and later ones leave it alone.
      have hafter : (c.pass t).rest = ts.flatten ++ rest := by
        rw [Cursor.pass, ← hrest, List.drop_left]
      have hfirst : ((c.close number (t :: ts)).span? (number + 1)).map Span.text = some t := by
        rw [Cursor.close, span?_close_of_le (Nat.le_refl _)]
        show (List.lookup (number + 1) ((number + 1, _) :: c.spans)).map Span.text = _
        rw [List.lookup_cons, beq_self_eq_true]
        show some (before c.rest (c.pass t).rest) = _
        rw [hafter, ← hrest, before_append_self]
      rw [List.length_cons, List.range'_succ, List.map_cons, hfirst, List.map_cons]
      congr 1
      exact ih (number + 1) ⟨rest, hafter.symm⟩

/-- A pattern with a group for each text captures the texts. -/
theorem captures_close {p : Pattern} {c : Cursor} {ts : List (List Char)}
    (h : ts.flatten <+: c.rest) (hgroups : p.groups = ts.length) :
    p.captures (c.close 0 ts) = ts.map some := by
  rw [captures, hgroups, ← map_span?_close 0 h, List.range'_eq_map_range, List.map_map]
  refine List.map_congr_left fun i _ => ?_
  rw [Function.comp_apply, Nat.zero_add, Nat.add_comm]

end Stencil.Pattern
