import Stencil.Pattern.Cursor

/-!
# Patterns

How a form of placeholder looks: runs of characters, one after the other, with
groups that mark the parts of interest; and for forms of one's own whatever else
can be written between them.

A pattern is matched against a text from a place on. Runs are greedy and give
back characters one by one when what follows does not fit; alternatives are tried
in order; the first fit that is found this way is the match. `results` lists all
fits in that order, and `first` finds the first fit that a continuation accepts
without making the list. The list is what statements are about, the search is
what runs, and `first_eq_findSome?` says that the two agree.

A repetition stops once it has covered nothing in a round that it did not have to
make; that is what bounds it. What a group covers is what it covered last.

## Main definitions

* `Pattern`: What a text is matched against.
* `Pattern.results`: All fits at a place, in order of preference.
* `Pattern.first`: The first fit that a continuation accepts.
* `Pattern.fit?`: The first fit at a place.
* `Pattern.whole?`: What the groups of the first fit that covers a text capture.

## Theorems

* `Pattern.first_eq_findSome?`: The search finds the first acceptable fit.
* `Pattern.fit?_eq_findSome?`, `Pattern.whole?_eq_findSome?`: Which fits are found.
* `Pattern.reaches_of_mem_results`: A fit covers what comes next in the text.
-/

namespace Stencil

open Text (Extent)

/-- What a text is matched against. -/
inductive Pattern where
  /-- Fits the empty text. -/
  | empty
  /-- Fits characters of a class, at least and at most so many. -/
  | run (set : CharSet) (least : Nat) (most : Option Nat)
  /-- Fits what the one fits and then what the other fits. -/
  | seq (one other : Pattern)
  /-- Fits what the one fits, or else what the other fits. -/
  | either (one other : Pattern)
  /-- Fits what the body fits, at least and at most so many times; it prefers
      many times, or else few. -/
  | repeated (body : Pattern) (least : Nat) (most : Option Nat) (greedy : Bool)
  /-- Fits what the body fits, and captures it. -/
  | group (number : Nat) (body : Pattern)
  /-- Fits the first that the body fits, and nothing else. -/
  | atomic (body : Pattern)
  /-- Fits the empty text where the body fits, or does not fit, the text from so
      many characters before on. -/
  | look (wanted : Bool) (back : Nat) (body : Pattern)
  /-- Fits the empty text at certain places. -/
  | anchor (anchor : Pattern.Anchor)
  /-- Fits what a group captured. -/
  | again (number : Nat) (caseless : Option Extent)
  /-- Fits what the one fits where a group took part, and else what the other fits. -/
  | given (number : Nat) (one other : Pattern)
deriving DecidableEq, Repr

namespace Pattern

/-- The one pattern and then the other, which is left out if it is empty. -/
def andThen : Pattern → Pattern → Pattern
  | p, empty => p
  | p, q => seq p q

/-- A single character of a class. -/
def one (set : CharSet) : Pattern :=
  run set 1 (some 1)

/-- A single character. -/
def char (c : Char) : Pattern :=
  one (.single c)

/-- As many blanks as there are. -/
def blanks : Pattern :=
  run .blanks 0 none

/-- Patterns that follow each other. -/
def inOrder (ps : List Pattern) : Pattern :=
  ps.foldr andThen empty

/-- The number of groups. -/
def groups : Pattern → Nat
  | empty | run .. | anchor _ | again .. => 0
  | seq p q | either p q | given _ p q => p.groups + q.groups
  | repeated p .. | atomic p | look _ _ p => p.groups
  | group _ p => p.groups + 1

/-- The cursors after a run of a class, the longest run first. -/
def runEnds (set : CharSet) (spans : List (Nat × Span)) :
    (least : Nat) → (most : Option Nat) → (past rest : List Char) → List Cursor
  | least, most, past, c :: s =>
    (if set.contains c && most != some 0 then
        runEnds set spans (least - 1) (most.map (· - 1)) (c :: past) s
      else []) ++ if least = 0 then [⟨past, c :: s, spans⟩] else []
  | least, _, past, [] => if least = 0 then [⟨past, [], spans⟩] else []

/-- The cursors after rounds of a body. Once there have been as many rounds as
    there must be, `last` tells how much text was left before the latest. -/
def rounds (body : Cursor → List Cursor) (greedy : Bool) :
    (fuel least : Nat) → (most last : Option Nat) → Cursor → List Cursor
  | 0, _, _, _, _ => []
  | fuel + 1, least + 1, most, last, c =>
    (body c).flatMap (rounds body greedy fuel least (most.map (· - 1)) last)
  | fuel + 1, 0, most, last, c =>
    let further :=
      if most != some 0 && last != some c.rest.length then
        (body c).flatMap (rounds body greedy fuel 0 (most.map (· - 1)) (some c.rest.length))
      else []
    if greedy then further ++ [c] else c :: further

/-- A bound on the rounds of a repetition: those that there must be, one for each
    character, and one that covers nothing. -/
def roundLimit (least : Nat) (c : Cursor) : Nat :=
  least + c.rest.length + 2

/-- All fits at a place, in order of preference: the cursors after them. -/
def results : Pattern → Cursor → List Cursor
  | empty, c => [c]
  | run set least most, c => runEnds set c.spans least most c.past c.rest
  | seq p q, c => (p.results c).flatMap q.results
  | either p q, c => p.results c ++ q.results c
  | repeated p least most greedy, c =>
    rounds p.results greedy (roundLimit least c) least most none c
  | group number p, c => (p.results c).map fun d => d.cover number c
  | atomic p, c => (p.results c).head?.toList
  | look wanted back p, c =>
    (c.look wanted ((c.back? back).bind fun d => (p.results d).head?)).toList
  | anchor a, c => if a.holds c then [c] else []
  | again number caseless, c => (c.again? number caseless).toList
  | given number p q, c => if (c.span? number).isSome then p.results c else q.results c

/-- The first of a run's ends, the longest run first, that the continuation
    accepts. -/
def firstEnd {α : Type} (set : CharSet) (spans : List (Nat × Span)) (next : Cursor → Option α) :
    (least : Nat) → (most : Option Nat) → (past rest : List Char) → Option α
  | least, most, past, c :: s =>
    (if set.contains c && most != some 0 then
        firstEnd set spans next (least - 1) (most.map (· - 1)) (c :: past) s
      else none) <|> if least = 0 then next ⟨past, c :: s, spans⟩ else none
  | least, _, past, [] => if least = 0 then next ⟨past, [], spans⟩ else none

/-- The first of the cursors after rounds of a body that the continuation accepts. -/
def firstRound {α : Type} (body : Cursor → (Cursor → Option α) → Option α) (greedy : Bool)
    (next : Cursor → Option α) :
    (fuel least : Nat) → (most last : Option Nat) → Cursor → Option α
  | 0, _, _, _, _ => none
  | fuel + 1, least + 1, most, last, c =>
    body c (firstRound body greedy next fuel least (most.map (· - 1)) last)
  | fuel + 1, 0, most, last, c =>
    let further (_ : Unit) :=
      if most != some 0 && last != some c.rest.length then
        body c (firstRound body greedy next fuel 0 (most.map (· - 1)) (some c.rest.length))
      else none
    if greedy then further () <|> next c else next c <|> further ()

/-- The first fit, in order of preference, that the continuation accepts. -/
def first {α : Type} : Pattern → Cursor → (Cursor → Option α) → Option α
  | empty, c, next => next c
  | run set least most, c, next => firstEnd set c.spans next least most c.past c.rest
  | seq p q, c, next => p.first c fun d => q.first d next
  | either p q, c, next => p.first c next <|> q.first c next
  | repeated p least most greedy, c, next =>
    firstRound (fun d next => p.first d next) greedy next (roundLimit least c) least most none c
  | group number p, c, next => p.first c fun d => next (d.cover number c)
  | atomic p, c, next => (p.first c some).bind next
  | look wanted back p, c, next =>
    (c.look wanted ((c.back? back).bind fun d => p.first d some)).bind next
  | anchor a, c, next => if a.holds c then next c else none
  | again number caseless, c, next => (c.again? number caseless).bind next
  | given number p q, c, next =>
    if (c.span? number).isSome then p.first c next else q.first c next

/-- The first fit from a cursor on, or the first that covers something: the cursor
    after it. -/
def fit? (p : Pattern) (mustCover : Bool) (c : Cursor) : Option Cursor :=
  p.first c fun d => if !mustCover || d.rest.length < c.rest.length then some d else none

/-- What the groups capture, in order; `none` for those that took no part. -/
def captures (p : Pattern) (c : Cursor) : List (Option (List Char)) :=
  (List.range p.groups).map fun i => (c.span? (i + 1)).map Span.text

/-- What the groups of the first fit that covers the whole text capture. -/
def whole? (p : Pattern) (s : List Char) : Option (List (Option (List Char))) :=
  p.first (.start s) fun d => if d.rest.isEmpty then some (p.captures d) else none

theorem firstEnd_eq_findSome? {α : Type} (set : CharSet) (spans : List (Nat × Span))
    (next : Cursor → Option α) (least : Nat) (most : Option Nat) (past rest : List Char) :
    firstEnd set spans next least most past rest =
      (runEnds set spans least most past rest).findSome? next := by
  induction rest generalizing least most past with
  | nil =>
      simp only [firstEnd, runEnds]
      split <;> simp
  | cons c s ih =>
      have hstop : (if least = 0 then next ⟨past, c :: s, spans⟩ else none) =
          (if least = 0 then [(⟨past, c :: s, spans⟩ : Cursor)] else []).findSome? next := by
        split <;> simp
      simp only [firstEnd, runEnds, List.findSome?_append, hstop, Option.orElse_eq_orElse,
        Option.orElse_eq_or]
      split
      · rw [ih]
      · rfl

theorem findSome?_flatMap {α β γ : Type} (l : List α) (f : α → List β) (g : β → Option γ) :
    (l.flatMap f).findSome? g = l.findSome? fun a => (f a).findSome? g := by
  induction l with
  | nil => rfl
  | cons a l ih =>
      rw [List.flatMap_cons, List.findSome?_append, ih, List.findSome?_cons]
      cases (f a).findSome? g <;> rfl

theorem firstRound_eq_findSome? {α : Type} {body : Cursor → List Cursor}
    {search : Cursor → (Cursor → Option α) → Option α}
    (h : ∀ c next, search c next = (body c).findSome? next) (greedy : Bool)
    (next : Cursor → Option α) (fuel least : Nat) (most last : Option Nat) (c : Cursor) :
    firstRound search greedy next fuel least most last c =
      (rounds body greedy fuel least most last c).findSome? next := by
  induction fuel generalizing least most last c with
  | zero => rfl
  | succ fuel ih =>
      have hrounds : ∀ least most last, firstRound search greedy next fuel least most last =
          fun c => (rounds body greedy fuel least most last c).findSome? next :=
        fun _ _ _ => funext fun _ => ih ..
      cases least with
      | succ least => simp only [firstRound, rounds, h, hrounds, findSome?_flatMap]
      | zero =>
          simp only [firstRound, rounds, h, hrounds, ← findSome?_flatMap]
          -- Whether there is a further round does not depend on the continuation.
          split <;> split <;> simp [Option.or_none, List.findSome?_cons, List.findSome?_append] <;>
            cases next c <;> simp

theorem findSome?_toList {α β : Type} (a : Option α) (f : α → Option β) :
    a.toList.findSome? f = a.bind f := by
  cases a <;> simp

theorem findSome?_some {α : Type} (l : List α) : l.findSome? some = l.head? := by
  cases l <;> rfl

/-- The search finds the first acceptable fit. -/
theorem first_eq_findSome? {α : Type} (p : Pattern) (c : Cursor) (next : Cursor → Option α) :
    p.first c next = (p.results c).findSome? next := by
  induction p generalizing α c with
  | empty => simp [first, results]
  | run set least most => exact firstEnd_eq_findSome? ..
  | seq p q ihp ihq => simp only [first, results, ihp, ihq, findSome?_flatMap]
  | either p q ihp ihq =>
      simp only [first, results, ihp, ihq, List.findSome?_append, Option.orElse_eq_orElse,
        Option.orElse_eq_or]
  | repeated p least most greedy ih => exact firstRound_eq_findSome? (fun d next => ih d next) ..
  | group number p ih => simp only [first, results, ih, List.findSome?_map, Function.comp_def]
  | atomic p ih => simp only [first, results, ih, findSome?_toList, findSome?_some]
  | look wanted back p ih => simp only [first, results, ih, findSome?_toList, findSome?_some]
  | anchor a =>
      simp only [first, results]
      split <;> simp
  | again number caseless => simp only [first, results, findSome?_toList]
  | given number p q ihp ihq =>
      simp only [first, results, ihp, ihq]
      split <;> rfl

/-- What is found is the first fit that covers as much as it has to. -/
theorem fit?_eq_findSome? (p : Pattern) (mustCover : Bool) (c : Cursor) :
    p.fit? mustCover c = (p.results c).findSome? fun d =>
      if !mustCover || d.rest.length < c.rest.length then some d else none :=
  first_eq_findSome? ..

/-- What is found is a fit, and covers something if it has to. -/
theorem mem_results_of_fit? {p : Pattern} {mustCover : Bool} {c d : Cursor}
    (h : p.fit? mustCover c = some d) :
    d ∈ p.results c ∧ (mustCover → d.rest.length < c.rest.length) := by
  rw [fit?_eq_findSome?] at h
  obtain ⟨e, hmem, he⟩ := List.exists_of_findSome?_eq_some h
  split at he
  · rename_i hcover
    cases he
    exact ⟨hmem, fun hmust => by simpa [hmust] using hcover⟩
  · cases he

/-- What a whole text captures is what the first fit does that leaves nothing. -/
theorem whole?_eq_findSome? (p : Pattern) (s : List Char) :
    p.whole? s = (p.results (.start s)).findSome? fun d =>
      if d.rest.isEmpty then some (p.captures d) else none :=
  first_eq_findSome? ..

/-- A run covers what comes next. -/
theorem reaches_of_mem_runEnds {set : CharSet} {spans : List (Nat × Span)} {least : Nat}
    {most : Option Nat} {past rest : List Char} {d : Cursor}
    (h : d ∈ runEnds set spans least most past rest) :
    Cursor.Reaches ⟨past, rest, spans⟩ d := by
  induction rest generalizing least most past with
  | nil =>
      simp only [runEnds] at h
      split at h
      · rw [List.mem_singleton.1 h]
        exact .refl _
      · simp at h
  | cons c s ih =>
      simp only [runEnds, List.mem_append] at h
      rcases h with h | h
      · split at h
        · exact Cursor.Reaches.trans ⟨[c], rfl, rfl⟩ (ih h)
        · simp at h
      · split at h
        · rw [List.mem_singleton.1 h]
          exact .refl _
        · simp at h

/-- Rounds of a body cover what comes next if each of them does. -/
theorem reaches_of_mem_rounds {body : Cursor → List Cursor}
    (hbody : ∀ c, ∀ d ∈ body c, c.Reaches d) {greedy : Bool} {fuel least : Nat}
    {most last : Option Nat} {c d : Cursor} (h : d ∈ rounds body greedy fuel least most last c) :
    c.Reaches d := by
  induction fuel generalizing least most last c with
  | zero => simp [rounds] at h
  | succ fuel ih =>
      cases least with
      | succ least =>
          obtain ⟨e, he, hd⟩ := List.mem_flatMap.1 h
          exact (hbody c e he).trans (ih hd)
      | zero =>
          -- Either the rounds end here, or there is a further one.
          have : d = c ∨ ∃ e ∈ body c, d ∈ rounds body greedy fuel 0 (most.map (· - 1))
              (some c.rest.length) e := by
            simp only [rounds] at h
            split at h <;> split at h <;> simp_all [or_comm]
          rcases this with rfl | ⟨e, he, hd⟩
          · exact .refl _
          · exact (hbody c e he).trans (ih hd)

/-- A fit covers what comes next in the text. -/
theorem reaches_of_mem_results {p : Pattern} {c d : Cursor} (h : d ∈ p.results c) :
    c.Reaches d := by
  induction p generalizing c d with
  | empty =>
      rw [List.mem_singleton.1 h]
      exact .refl _
  | run set least most => exact reaches_of_mem_runEnds h
  | seq p q ihp ihq =>
      obtain ⟨e, he, hd⟩ := List.mem_flatMap.1 h
      exact (ihp he).trans (ihq hd)
  | either p q ihp ihq => exact (List.mem_append.1 h).elim ihp ihq
  | repeated p least most greedy ih => exact reaches_of_mem_rounds (fun _ _ he => ih he) h
  | group number p ih =>
      obtain ⟨e, he, rfl⟩ := List.mem_map.1 h
      exact (ih he).trans (.of_eq rfl rfl)
  | atomic p ih => exact ih (List.mem_of_mem_head? (Option.mem_toList.1 h))
  | look wanted back p _ => exact Cursor.reaches_of_look (Option.mem_toList.1 h)
  | anchor a =>
      simp only [results] at h
      split at h
      · rw [List.mem_singleton.1 h]
        exact .refl _
      · simp at h
  | again number caseless => exact Cursor.reaches_of_again? (Option.mem_toList.1 h)
  | given number p q ihp ihq =>
      simp only [results] at h
      split at h
      · exact ihp h
      · exact ihq h

end Pattern

end Stencil
