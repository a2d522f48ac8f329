import Stencil.Proofs.Template.Canonical
import Stencil.Proofs.Template.Filling

/-!
# Templates without Rules

A template in which every placeholder needs a value.

Forgetting the rules takes marks and fallbacks out of the braces, and what was
around a placeholder now stands next to something shorter. That no unfinished
brace becomes a placeholder by this, and no two parts grow together, is a case
of `outcome_tokenize_replace`: what is written in the place of a placeholder
makes no difference to the texts around it.

What is lost are the rules, and these only matter to a name without a value. If
every name has one, the template makes the same text as before; if some name has
none, the template that is left may need a value where the first one did not.

## Theorems

* `normalized_eq`: What is written when rules are forgotten.
* `fill?_asRequired`: With a value, the rule of a placeholder does not matter.
* `outcome_fill_asRequired`: With values for all names, the rules do not matter.
* `outcome_ofText_normalized`: What a template without rules consists of, and makes.
-/

namespace Stencil.Template

/-! ## Tokens without rules -/

/-- Forgetting the rule of a token replaces its placeholder. -/
theorem asRequired_eq (token : Token) :
    token.asRequired = token.replace Placeholder.asRequired := by
  cases token <;> rfl

/-- The text of a template without rules. -/
theorem normalized_eq (t : Template) :
    t.normalized =
      .join ((t.tokens.map (Token.replace Placeholder.asRequired)).map Token.source) := by
  simp only [normalized, List.map_map, Function.comp_def, asRequired_eq]

/-- What has no rules has none to forget. -/
theorem map_asRequired_asRequired (tokens : List Token) :
    (tokens.map (Token.replace Placeholder.asRequired)).map
        (Token.replace Placeholder.asRequired) =
      tokens.map (Token.replace Placeholder.asRequired) := by
  rw [List.map_map]
  refine List.map_congr_left fun token _ => ?_
  cases token <;> rfl

/-! ## Values for all names -/

section Values

variable {values : Values} {tokens : List Token}

/-- If its name has a value, a placeholder is filled with it, whatever its rule. -/
theorem fill?_asRequired {token : Token}
    (h : ∀ p, token = .hole p → ∃ value, values.Gives p.name value) :
    (fill? values token).isSome ∧
      fill? values (token.replace Placeholder.asRequired) = fill? values token := by
  cases token with
  | text content => exact ⟨rfl, rfl⟩
  | hole p =>
      rcases h p rfl with ⟨value, hgives⟩
      have hfill : fill? values (.hole p) = some value :=
        fill?_eq_some_iff.2 (.value hgives)
      have hrequired : fill? values (.hole p.asRequired) = some value :=
        fill?_eq_some_iff.2 (.value hgives)
      exact ⟨by rw [hfill]; rfl, hrequired.trans hfill.symm⟩

/-- If all names have values, a text is made, and it is the same without the rules: a rule says
    what to do without a value. -/
theorem outcome_fill_asRequired
    (h : ∀ p, .hole p ∈ tokens → ∃ value, values.Gives p.name value) :
    ∃ output, (fill tokens values).outcome = .ok output ∧
      (fill (tokens.map (Token.replace Placeholder.asRequired)) values).outcome = .ok output := by
  have htoken : ∀ token ∈ tokens, (fill? values token).isSome ∧
      fill? values (token.replace Placeholder.asRequired) = fill? values token := by
    intro token htoken
    exact fill?_asRequired fun p hp => h p (hp ▸ htoken)
  -- Nothing is missing with the rules, and nothing without them.
  have hsome : missing values tokens = [] :=
    missing_eq_nil_iff.2 fun token hmem => (htoken token hmem).1
  have hsome' : missing values (tokens.map (Token.replace Placeholder.asRequired)) = [] := by
    rw [missing_eq_nil_iff]
    intro token hmem
    rcases List.mem_map.1 hmem with ⟨old, hold, rfl⟩
    rw [(htoken old hold).2]
    exact (htoken old hold).1
  have hparts : (tokens.map (Token.replace Placeholder.asRequired)).filterMap (fill? values) =
      tokens.filterMap (fill? values) := by
    rw [List.filterMap_map]
    exact List.filterMap_congr fun token hmem => (htoken token hmem).2
  refine ⟨.join (tokens.filterMap (fill? values)), ?_, ?_⟩
  · rw [outcome_fill, if_pos hsome]
  · rw [outcome_fill, if_pos hsome', hparts]

end Values

/-- A template without rules consists of the same texts, and of placeholders of
    the same names that need values. Forgetting the rules again changes nothing,
    and filling it with values for all names makes the same text as filling the
    template that had rules. -/
theorem outcome_ofText_normalized (text : String) :
    ∃ t u : Template, (ofText .standard text).outcome = .ok t ∧
      (ofText .standard t.normalized).outcome = .ok u ∧
      (Registry.standard.tokenize text).outcome = .ok t.tokens ∧
      (Registry.standard.tokenize t.normalized).outcome = .ok u.tokens ∧
      u.tokens = t.tokens.map (Token.replace fun p => ⟨p.name, .required⟩) ∧
      u.normalized = t.normalized ∧
      ∀ values : Values, (∀ p, .hole p ∈ t.tokens → ∃ value, values.Gives p.name value) →
        ∃ output, (t.fillWith values).outcome = .ok output ∧
          (u.fillWith values).outcome = .ok output := by
  rcases Registry.exists_outcome_tokenize text with ⟨tokens, htokens, -⟩
  let t : Template := ⟨Text.strip text, tokens⟩
  let u : Template := ⟨Text.strip t.normalized, tokens.map (Token.replace Placeholder.asRequired)⟩
  -- Reading the new text gives the old tokens without their rules, and the rest is about these.
  have hrequired : (Registry.standard.tokenize t.normalized).outcome = .ok u.tokens := by
    rw [normalized_eq]
    exact Registry.outcome_tokenize_replace (fun h => h.asRequired) htokens
  refine ⟨t, u, ?_, ?_, htokens, hrequired, rfl, ?_, ?_⟩
  · rw [outcome_ofText, htokens, Except.map]
  · rw [outcome_ofText, hrequired, Except.map]
  · rw [normalized_eq, normalized_eq, map_asRequired_asRequired]
  · intro values hvalues
    exact outcome_fill_asRequired hvalues

/-- Braces before a placeholder and an unfinished one behind it, a name with two
    values, and a value that looks like a placeholder. -/
theorem outcome_ofText_normalized_braces :
    let text := "\x7b\x7b\x7b a? \x7d\x7d\x7b\x7bb|none\x7d\x7d \x7b\x7b c"
    let values : Values := [("a", ""), ("b", "one"), ("b", "\x7b\x7b a \x7d\x7d")]
    ∃ t u : Template, (ofText .standard text).outcome = .ok t ∧
      (ofText .standard t.normalized).outcome = .ok u ∧
      (∀ p, .hole p ∈ t.tokens → ∃ value, values.Gives p.name value) ∧
      ∃ output, (t.fillWith values).outcome = .ok output ∧
        (u.fillWith values).outcome = .ok output := by
  intro text values
  rcases outcome_ofText_normalized text with ⟨t, u, ht, hu, htokens, -, -, -, hfill⟩
  let tokens : List Token := [.text "\x7b", .hole ⟨"a", .optional⟩,
    .hole ⟨"b", .fallback "none"⟩, .text " \x7b\x7b c"]
  have hscan : Registry.standard.scan (Text.trim text.toList) = .ok tokens := by decide +kernel
  rw [Registry.outcome_tokenize, hscan, Except.ok.injEq] at htokens
  have hvalues : ∀ p, .hole p ∈ t.tokens → ∃ value, values.Gives p.name value := by
    intro p hp
    rw [← htokens] at hp
    simp only [tokens, List.mem_cons, Token.hole.injEq, reduceCtorEq, List.not_mem_nil, or_false,
      false_or] at hp
    rcases hp with rfl | rfl
    · exact ⟨"", Values.get?_eq_some_iff.1 (by decide)⟩
    · exact ⟨"\x7b\x7b a \x7d\x7d", Values.get?_eq_some_iff.1 (by decide)⟩
  exact ⟨t, u, ht, hu, hvalues, hfill values hvalues⟩

end Stencil.Template
