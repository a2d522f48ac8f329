import Stencil.Proofs.Template.First

/-!
# Uses of a Name

What it means for a template that it has a catalogue.

A catalogue compares each placeholder with the first one of its name and with
no others. That is enough: placeholders that agree with the same first one
agree with each other, so there is a catalogue just if no two uses of a name,
wherever they stand, differ in their rules. Otherwise the failure names two of
them and says how they differ.

In a template of that kind a name is as good as a text. What fills a
placeholder depends on its value and on its rule, so all placeholders of one
name are filled with the same.

## Main definitions

* `Consistent`: Tokens that use each name by one rule.
* `Token.shown`: A token with a text in place of each name.

## Theorems

* `consistent_of_agrees`, `FirstClash.not_consistent`: Agreement with first ones is agreement.
* `consistent_iff_catalogue`: Consistent tokens are those that have a catalogue.
* `conflict_of_catalogue`: Otherwise two uses of a name are told apart.
* `Consistent.exists_shown`: Consistent tokens are filled name by name.
* `Consistent.exists_join_of_fill`: So an output of them has one text for each name.
-/

namespace Stencil.Template

/-- Tokens that use each name by one rule. Two fallbacks of one name must have the same text. -/
def Consistent (tokens : List Token) : Prop :=
  ∀ p q, .hole p ∈ tokens → .hole q ∈ tokens → p.name = q.name → p.rule = q.rule

/-! ## Catalogues -/

/-- Tokens that agree with the first of their names agree with each other. -/
theorem consistent_of_agrees {tokens : List Token}
    (h : ∀ q, .hole q ∈ tokens → Agrees tokens q) : Consistent tokens := by
  intro p q hp hq hname
  rcases exists_first hp with ⟨first, hfirst, hsame⟩
  rw [← h p hp first hfirst hsame, h q hq first hfirst (hsame.trans hname)]

/-- What is told apart first is told apart from another placeholder of its name. -/
theorem FirstClash.exists_other {tokens : List Token} {p : Placeholder} {clash : Clash}
    (h : FirstClash tokens p clash) :
    ∃ first, .hole first ∈ tokens ∧ .hole p ∈ tokens ∧ first.name = p.name ∧
      first.clash? p = some clash := by
  rcases h with ⟨earlier, later, first, rfl, -, hfirst, hname, hclash⟩
  exact ⟨first, hfirst.mem, by simp, hname, hclash⟩

theorem FirstClash.not_consistent {tokens : List Token} {p : Placeholder} {clash : Clash}
    (h : FirstClash tokens p clash) : ¬ Consistent tokens := by
  intro hconsistent
  rcases h.exists_other with ⟨first, hfirst, hp, hname, hclash⟩
  rw [Placeholder.clash?_eq_none_iff.2 (hconsistent first p hfirst hp hname)] at hclash
  cases hclash

/-- If there is no catalogue, two uses of a name are told apart. -/
theorem conflict_of_catalogue {tokens : List Token} {e : Error}
    (h : catalogue tokens = .error e) :
    ∃ first p clash, .hole first ∈ tokens ∧ .hole p ∈ tokens ∧ first.name = p.name ∧
      first.clash? p = some clash ∧ e = .conflict p.name clash := by
  rcases catalogue_cases tokens with ⟨ps, hps, -, -⟩ | ⟨p, clash, herror, hclash⟩
  · rw [hps] at h
    cases h
  · rw [herror] at h
    rcases hclash.exists_other with ⟨first, hfirst, hp, hname, hother⟩
    exact ⟨first, p, clash, hfirst, hp, hname, hother, (Except.error.inj h).symm⟩

/-- Tokens are consistent just if they have a catalogue. -/
theorem consistent_iff_catalogue {tokens : List Token} :
    Consistent tokens ↔ ∃ ps, catalogue tokens = .ok ps := by
  rcases catalogue_cases tokens with ⟨ps, hps, -, hagree⟩ | ⟨p, clash, herror, hclash⟩
  · exact iff_of_true (consistent_of_agrees hagree) ⟨ps, hps⟩
  · refine iff_of_false hclash.not_consistent ?_
    rintro ⟨ps, hps⟩
    rw [herror] at hps
    cases hps

/-! ## Names as texts -/

/-- A token with a text in place of each name, the same one wherever the name stands. -/
def Token.shown (text : String → String) : Token → String
  | .text content => content
  | .hole p => text p.name

/-- Consistent tokens that can be filled are filled name by name: each name stands for one text,
    in all its places. Without consistency one name can have two fallbacks, and then no text does
    for both. -/
theorem Consistent.exists_shown {tokens : List Token} {values : Values} (h : Consistent tokens)
    (hall : ∀ token ∈ tokens, (fill? values token).isSome) :
    ∃ text : String → String, ∀ token ∈ tokens, fill? values token = some (token.shown text) := by
  -- A name stands for what fills the first placeholder that has it.
  let first (name : String) := tokens.find? fun token => token.placeholder?.any (·.name = name)
  refine ⟨fun name => ((first name).bind (fill? values)).getD "", fun token htoken => ?_⟩
  cases token with
  | text content => rfl
  | hole p =>
      have hfirst : first p.name ≠ none := by
        intro hnone
        have hp := List.find?_eq_none.1 hnone _ htoken
        simp [Token.placeholder?] at hp
      obtain ⟨found, hfound⟩ := Option.ne_none_iff_exists'.1 hfirst
      have hmem : found ∈ tokens := List.mem_of_find?_eq_some hfound
      have hname := List.find?_some hfound
      cases found with
      | text content => simp [Token.placeholder?] at hname
      | hole q =>
          have hsame : q.name = p.name := by simpa [Token.placeholder?] using hname
          have hfill : fill? values (.hole q) = fill? values (.hole p) := by
            rw [fill?, fill?, hsame, h q p hmem htoken hsame]
          obtain ⟨text, htext⟩ := Option.isSome_iff_exists.1 (hall _ htoken)
          simp only [Token.shown, hfound, Option.bind_some, hfill, htext, Option.getD_some]

/-- An output of consistent tokens is what they are with one text in place of each name. That
    there is an output means that nothing is missing, so each token has a text. -/
theorem Consistent.exists_join_of_fill {tokens : List Token} {values : Values}
    (h : Consistent tokens) {output : String} (hfill : (fill tokens values).outcome = .ok output) :
    ∃ text : String → String, (∀ token ∈ tokens, fill? values token = some (token.shown text)) ∧
      output = String.join (tokens.map (Token.shown text)) := by
  rw [outcome_fill] at hfill
  split at hfill
  · rename_i hnone
    rcases h.exists_shown (missing_eq_nil_iff.1 hnone) with ⟨text, hshown⟩
    refine ⟨text, hshown, ?_⟩
    rw [← Except.ok.inj hfill, ← List.filterMap_eq_map, List.filterMap_congr hshown]
    rfl
  · cases hfill

end Stencil.Template
