import Stencil.Proofs.Template.Found

/-!
# Placeholders in a Text

The placeholders of a text, without the text between them.

`Tiles` says which tokens a text consists of, and so where each text token ends.
For those who look for placeholders only, that is too much: where a blank or a
line feed is added at an end of the text, a text token changes, but no
placeholder does. `Holes` walks over a text character by character. Where a
placeholder starts it goes on behind it, and everywhere else with the next
character. Nothing is left to choose, so a text has one list of placeholders.

A placeholder starts with an opening brace and ends with a closing one. So
before a text anything may stand that has no opening brace in it, and behind it
anything that has no closing brace.

## Main definitions

* `Holes`: The placeholders in a text.

## Theorems

* `Tiles.holes`: The placeholders in a text are those among its tokens.
* `Holes.unique`: A text has one list of placeholders.
* `holes_append_left_iff`, `holes_append_right_iff`: What may stand around a text.
* `holes_trim_iff`: The ends of a text do not matter.
-/

namespace Stencil.Template

/-- The placeholders in a text, the first one first. A place is passed only if none starts there,
    so none can be missed. -/
inductive Holes : List Placeholder → List Char → Prop
  /-- There is none in the empty text. -/
  | nil : Holes [] []
  /-- Behind a placeholder the next one is looked for. -/
  | hole {p : Placeholder} {ps : List Placeholder} {lexeme rest : List Char}
      (hwritten : p.Written lexeme) (h : Holes ps rest) : Holes (p :: ps) (lexeme ++ rest)
  /-- Where no placeholder starts, it is looked for at the next character. -/
  | skip {ps : List Placeholder} {c : Char} {s : List Char} (hnone : ¬ StartsHole (c :: s))
      (h : Holes ps s) : Holes ps (c :: s)

/-! ## Where placeholders start -/

/-- A placeholder has two braces at its end. -/
theorem Placeholder.Written.exists_eq_append {p : Placeholder} {s : List Char} (h : p.Written s) :
    ∃ t, s = '\x7b' :: t ++ ['\x7d'] := by
  rcases h with ⟨inner, -, rfl⟩
  exact ⟨'\x7b' :: (inner ++ ['\x7d']), by simp [inBraces]⟩

theorem not_startsHole_cons {c : Char} (hc : c ≠ '\x7b') (s : List Char) :
    ¬ StartsHole (c :: s) := by
  rintro ⟨p, lexeme, hwritten, hbegins⟩
  rcases hwritten.exists_eq_append with ⟨t, rfl⟩
  rw [List.cons_append, List.cons_prefix_cons] at hbegins
  exact hc hbegins.1.symm

theorem not_startsHole_of_notMem {s : List Char} (hs : '\x7d' ∉ s) : ¬ StartsHole s := by
  rintro ⟨p, lexeme, hwritten, hbegins⟩
  rcases hwritten.exists_eq_append with ⟨t, rfl⟩
  exact hs (hbegins.subset (List.mem_append_right _ List.mem_cons_self))

/-- No placeholder that starts in a text ends behind it, unless there is a closing
    brace. -/
theorem startsHole_append_iff {t : List Char} (ht : '\x7d' ∉ t) (s : List Char) :
    StartsHole (s ++ t) ↔ StartsHole s := by
  constructor
  · rintro ⟨p, lexeme, hwritten, rest, heq⟩
    refine ⟨p, lexeme, hwritten, ?_⟩
    rcases List.append_eq_append_iff.1 heq with ⟨u, hs, -⟩ | ⟨u, hlexeme, ht'⟩
    · exact ⟨u, hs.symm⟩
    · -- What is behind the text would end with the closing brace.
      rcases List.eq_nil_or_concat u with rfl | ⟨v, d, rfl⟩
      · exact ⟨[], by rw [hlexeme, List.append_nil, List.append_nil]⟩
      · rcases hwritten.exists_eq_append with ⟨w, hw⟩
        rw [hlexeme, List.concat_eq_append, ← List.append_assoc] at hw
        have hd : d = '\x7d' := List.singleton_inj.1 (List.append_inj_right' hw rfl)
        exact absurd (by simp [ht', hd]) ht
  · rintro ⟨p, lexeme, hwritten, hbegins⟩
    exact ⟨p, lexeme, hwritten, hbegins.trans (List.prefix_append _ _)⟩

/-! ## One list of placeholders -/

/-- A text within which no placeholder starts adds none. -/
theorem holes_append_of_free {ps : List Placeholder} {s rest : List Char}
    (hfree : ∀ before after, s = before ++ after → after ≠ [] → ¬ StartsHole (after ++ rest))
    (h : Holes ps rest) : Holes ps (s ++ rest) := by
  induction s with
  | nil => exact h
  | cons c s ih =>
      refine .skip (hfree [] (c :: s) rfl (List.cons_ne_nil _ _)) (ih fun before after heq => ?_)
      exact hfree (c :: before) after (by rw [heq, List.cons_append])

/-- The placeholders in a text are those among its tokens. -/
theorem Tiles.holes {tokens : List Token} {s : List Char} (h : Tiles tokens s) :
    Holes (tokens.filterMap Token.placeholder?) s := by
  induction h with
  | nil => exact .nil
  | hole hwritten h ih => exact .hole hwritten ih
  | text hne hnext hfree h ih => exact holes_append_of_free hfree ih

theorem exists_holes (s : List Char) : ∃ ps, Holes ps s := by
  rcases Registry.scanFrom_standard [] s with ⟨tokens, -, htiles⟩
  exact ⟨_, htiles.holes⟩

/-- What follows a placeholder, and a place without one. Which of the two it is cannot be chosen:
    what starts at a place is a placeholder in one way at most. -/
theorem holes_written_append_iff {p : Placeholder} {ps : List Placeholder} {lexeme rest : List Char}
    (hwritten : p.Written lexeme) :
    Holes ps (lexeme ++ rest) ↔ ∃ qs, ps = p :: qs ∧ Holes qs rest := by
  constructor
  · generalize hs : lexeme ++ rest = s
    intro h
    cases h with
    | nil => exact absurd (List.append_eq_nil_iff.1 hs).1 hwritten.ne_nil
    | hole hwritten' h =>
        rcases hwritten.unique hwritten' hs with ⟨rfl, rfl, rfl⟩
        exact ⟨_, rfl, h⟩
    | skip hnone h =>
        rw [← hs] at hnone
        exact absurd (hwritten.startsHole rest) hnone
  · rintro ⟨qs, rfl, h⟩
    exact .hole hwritten h

theorem holes_cons_iff {ps : List Placeholder} {c : Char} {s : List Char}
    (hnone : ¬ StartsHole (c :: s)) : Holes ps (c :: s) ↔ Holes ps s := by
  constructor
  · generalize hs : c :: s = t
    intro h
    cases h with
    | nil => cases hs
    | hole hwritten h =>
        rw [hs] at hnone
        exact absurd (hwritten.startsHole _) hnone
    | skip _ h =>
        cases hs
        exact h
  · exact .skip hnone

/-- A text has one list of placeholders. The first list says at each step what the second one has
    to do. -/
theorem Holes.unique {ps qs : List Placeholder} {s : List Char} (h : Holes ps s) (h' : Holes qs s) :
    ps = qs := by
  induction h generalizing qs with
  | nil =>
      generalize hs : ([] : List Char) = s at h'
      cases h' with
      | nil => rfl
      | hole hwritten h => exact absurd (List.append_eq_nil_iff.1 hs.symm).1 hwritten.ne_nil
      | skip _ h => cases hs
  | hole hwritten h ih =>
      rcases (holes_written_append_iff hwritten).1 h' with ⟨qs, rfl, hrest⟩
      rw [ih hrest]
  | skip hnone h ih => exact ih ((holes_cons_iff hnone).1 h')

/-! ## Around a text -/

/-- Before a text anything may stand but an opening brace. -/
theorem holes_append_left_iff {t : List Char} (ht : '\x7b' ∉ t) {ps : List Placeholder}
    {s : List Char} : Holes ps (t ++ s) ↔ Holes ps s := by
  induction t with
  | nil => exact Iff.rfl
  | cons c t ih =>
      rw [List.mem_cons, not_or] at ht
      rw [List.cons_append, holes_cons_iff (not_startsHole_cons (Ne.symm ht.1) _), ih ht.2]

theorem holes_nil_of_notMem {s : List Char} (hs : '\x7d' ∉ s) : Holes [] s := by
  induction s with
  | nil => exact .nil
  | cons c s ih =>
      refine .skip (not_startsHole_of_notMem hs) (ih fun h => hs (List.mem_cons_of_mem _ h))

/-- Behind a text anything may stand but a closing brace, since without that no placeholder comes
    to an end there. -/
theorem holes_append_right_iff {t : List Char} (ht : '\x7d' ∉ t) {ps : List Placeholder}
    {s : List Char} : Holes ps (s ++ t) ↔ Holes ps s := by
  have hadd : ∀ {ps : List Placeholder} {s : List Char}, Holes ps s → Holes ps (s ++ t) := by
    intro ps s h
    induction h with
    | nil => exact holes_nil_of_notMem ht
    | hole hwritten h ih =>
        rw [List.append_assoc]
        exact .hole hwritten ih
    | skip hnone h ih => exact .skip (fun h => hnone ((startsHole_append_iff ht _).1 h)) ih
  -- The other direction follows since the text has some list, which then is the one.
  refine ⟨fun h => ?_, hadd⟩
  rcases exists_holes s with ⟨qs, hqs⟩
  rwa [h.unique (hadd hqs)]

/-- Characters other than braces may be taken off the ends of a text. Which characters those are
    is left open, for blanks are taken off, and line feeds as well. -/
theorem holes_trim_iff {p : Char → Bool} (hopen : p '\x7b' = false) (hclose : p '\x7d' = false)
    {ps : List Placeholder} {s : List Char} :
    Holes ps ((s.dropWhile p).reverse.dropWhile p).reverse ↔ Holes ps s := by
  have hbefore : '\x7b' ∉ s.takeWhile p := by
    intro hmem
    rw [List.mem_takeWhile_imp hmem] at hopen
    cases hopen
  have hbehind : ∀ t : List Char, '\x7d' ∉ (t.reverse.takeWhile p).reverse := by
    intro t hmem
    rw [List.mem_takeWhile_imp (List.mem_reverse.1 hmem)] at hclose
    cases hclose
  have hsplit : ∀ t : List Char,
      t = (t.reverse.dropWhile p).reverse ++ (t.reverse.takeWhile p).reverse := by
    intro t
    rw [← List.reverse_append, List.takeWhile_append_dropWhile, List.reverse_reverse]
  rw [← holes_append_right_iff (hbehind (s.dropWhile p)), ← hsplit,
    ← holes_append_left_iff hbefore, List.takeWhile_append_dropWhile]

end Stencil.Template
