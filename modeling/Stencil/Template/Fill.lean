import Stencil.Block.Property
import Stencil.Log.Message
import Stencil.Template.Error

/-!
# Filling Templates

The text that tokens make with the values of properties.

Text is copied. A placeholder is filled with the value of its name, as it is
and without looking for placeholders in it, or, if there is no such value, by
its rule. Each occurrence is filled on its own. If the rule of some placeholder
needs a value that is missing, filling fails and names all such placeholders.

## Main definitions

* `Values`: Names and their values; of several for a name the last counts.
* `fill?`: What fills a single token.
* `missing`: The names whose values are needed and missing.
* `fill`: The text that tokens make.

## Theorems

* `outcome_fill`: Filling succeeds just if no value is missing.
* `missing_eq_nil_iff`: What it means that no value is missing.
* `Values.get?_ofProperties_eq_none_iff`, `Values.mem_of_get?_ofProperties`: The
  values that properties give.
-/

namespace Stencil.Template

/-- Names and their values; of several values for a name the last counts. -/
abbrev Values := List (String × String)

/-- The value of a name. -/
def Values.get? (values : Values) (name : String) : Option String :=
  values.reverse.lookup name

/-- The values that properties give to their keys. -/
def Values.ofProperties (properties : List Block.Property) : Values :=
  properties.map fun p => (p.key, p.value)

/-- A name has no value just if no property has it as its key. -/
theorem Values.get?_ofProperties_eq_none_iff {ps : List Block.Property} {name : String} :
    (Values.ofProperties ps).get? name = none ↔ name ∉ ps.map Block.Property.key := by
  rw [get?, ofProperties, List.lookup_eq_none_iff]
  constructor
  · intro h hmem
    rcases List.mem_map.1 hmem with ⟨p, hp, rfl⟩
    have hne := h (p.key, p.value) (List.mem_reverse.2 (List.mem_map.2 ⟨p, hp, rfl⟩))
    exact absurd hne (by simp)
  · intro h entry hentry
    rcases List.mem_map.1 (List.mem_reverse.1 hentry) with ⟨p, hp, rfl⟩
    rw [bne_iff_ne]
    rintro rfl
    exact h (List.mem_map.2 ⟨p, hp, rfl⟩)

/-- A value of a name is that of a property that has the name as its key. -/
theorem Values.mem_of_get?_ofProperties {ps : List Block.Property} {name value : String}
    (h : (Values.ofProperties ps).get? name = some value) : ⟨name, value⟩ ∈ ps := by
  rcases List.lookup_eq_some_iff.1 h with ⟨before, after, heq, -⟩
  have hmem : (name, value) ∈ (Values.ofProperties ps).reverse := by
    rw [heq]
    simp
  rcases List.mem_map.1 (List.mem_reverse.1 hmem) with ⟨p, hp, hpair⟩
  rw [Prod.mk.injEq] at hpair
  rw [← hpair.1, ← hpair.2]
  exact hp

/-- What fills a token, if anything can. -/
def fill? (values : Values) : Token → Option String
  | .text content => some content
  | .hole p => values.get? p.name <|> p.rule.text?

/-- The names whose values are needed and missing, each once, in order of first
    occurrence. -/
def missing (values : Values) (tokens : List Token) : List String :=
  (tokens.filterMap fun t =>
    if (fill? values t).isNone then t.placeholder?.map Placeholder.name else none).eraseDups

/-- The text that tokens make with the given values. -/
def fill (tokens : List Token) (values : Values) : Trace Error String := do
  let names := missing values tokens
  if names = [] then
    Logged.say 2 ("Compiled " ++ toString tokens.length ++ " segments")
    return .join (tokens.filterMap (fill? values))
  else throw (.missingValues names)

/-- A text fills itself. -/
@[simp] theorem fill?_text (values : Values) (content : String) :
    fill? values (.text content) = some content := rfl

/-- No value is missing just if every token can be filled. -/
theorem missing_eq_nil_iff {values : Values} {tokens : List Token} :
    missing values tokens = [] ↔ ∀ t ∈ tokens, (fill? values t).isSome := by
  have hdups : ∀ l : List String, l.eraseDups = [] ↔ l = [] := by
    intro l
    cases l <;> simp [List.eraseDups_cons]
  rw [missing, hdups, List.filterMap_eq_nil_iff]
  refine forall₂_congr fun t _ => ?_
  cases t with
  | text content => simp
  | hole p => cases h : fill? values (.hole p) <;> simp [Token.placeholder?]

/-- Filling fails just if values are missing, and then names them. -/
theorem outcome_fill (tokens : List Token) (values : Values) :
    (fill tokens values).outcome =
      if missing values tokens = [] then .ok (.join (tokens.filterMap (fill? values)))
      else .error (.missingValues (missing values tokens)) := by
  simp only [fill]
  split <;> simp [Except.map]

end Stencil.Template
