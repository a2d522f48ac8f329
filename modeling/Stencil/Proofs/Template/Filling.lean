import Mathlib.Data.List.Forall2
import Stencil.Proofs.Occurrence
import Stencil.Template.Fill

/-!
# What Filling Makes

The text that tokens make with values, told token by token.

`fill` collects parts and missing names over all tokens at once, and whether a
token can be filled is asked before anything is put together. Here a token is
looked at on its own. `FilledWith` says what may stand in its place: the text
itself, the last value that its name was given, or, if the name was given none,
what its rule has to offer. Nothing is said about a required placeholder whose
name has no value, so there nothing may stand, and no text is made at all.

That a value is empty, or looks like a placeholder, makes no difference: a name
has a value if it is among the entries, whatever the value is.

The names in the failure are those of required placeholders, each once. An
occurrence of the name with another rule does not count, neither for the names
nor for their order: it is filled.

## Main definitions

* `Values.Gives`: A name is given a value, by the last entry that it has.
* `Token.FilledWith`: What stands in the place of a token.
* `requiredNames`: The names of the required placeholders.
* `Missing`: The names that a failure lists.

## Theorems

* `Values.get?_eq_some_iff`: The value that is found is the one that is given.
* `fill?_eq_some_iff`: What fills a token.
* `forall₂_filledWith_iff`: The parts of a text are what fills the tokens.
* `missing_missing`, `Missing.unique`: The missing names, and only these.
* `outcome_fill_iff`: The texts that are made, and the failures.
-/

namespace Stencil.Template

/-! ## Values of names -/

/-- A name is given a value: there is an entry that says so, and no later one
    for the name. -/
def Values.Gives (values : Values) (name value : String) : Prop :=
  ∃ before after, values = before ++ (name, value) :: after ∧ ∀ entry ∈ after, entry.1 ≠ name

/-- The value that is found is the one that is given. A list of values is searched from its end,
    for what is given later replaces what was given before. -/
theorem Values.get?_eq_some_iff {values : Values} {name value : String} :
    values.get? name = some value ↔ values.Gives name value := by
  rw [get?, List.lookup_eq_some_iff]
  constructor
  · rintro ⟨later, earlier, heq, hlater⟩
    refine ⟨earlier.reverse, later.reverse, ?_, ?_⟩
    · rw [← List.reverse_reverse values, heq]
      simp
    · intro entry hentry
      have hne := hlater entry (List.mem_reverse.1 hentry)
      rw [bne_iff_ne] at hne
      exact hne.symm
  · rintro ⟨before, after, rfl, hafter⟩
    refine ⟨after.reverse, before.reverse, by simp, ?_⟩
    intro entry hentry
    rw [bne_iff_ne]
    exact (hafter entry (List.mem_reverse.1 hentry)).symm

theorem Values.get?_eq_none_iff {values : Values} {name : String} :
    values.get? name = none ↔ ∀ value, ¬ values.Gives name value := by
  rw [Option.eq_none_iff_forall_ne_some]
  exact forall_congr' fun value => not_congr get?_eq_some_iff

/-! ## Single tokens -/

/-- What stands in the place of a token. Nothing stands in the place of a required placeholder
    without a value, so there is no case for it. -/
inductive Token.FilledWith (values : Values) : Token → String → Prop
  /-- A text stands for itself. -/
  | text (content : String) : FilledWith values (.text content) content
  /-- A placeholder is replaced by the value of its name, whatever its rule. -/
  | value {p : Placeholder} {value : String} (hgives : values.Gives p.name value) :
      FilledWith values (.hole p) value
  /-- Without a value, an optional placeholder leaves nothing behind. -/
  | optional {name : String} (hnone : ∀ value, ¬ values.Gives name value) :
      FilledWith values (.hole ⟨name, .optional⟩) ""
  /-- Without a value, this very placeholder's own fallback is taken. -/
  | fallback {name text : String} (hnone : ∀ value, ¬ values.Gives name value) :
      FilledWith values (.hole ⟨name, .fallback text⟩) text

section Tokens

variable {values : Values} {token : Token}

/-- What fills a token is what stands in its place. A value comes before the rule, so the cases
    are whether there is one, and the rule only if there is none. -/
theorem fill?_eq_some_iff {part : String} :
    fill? values token = some part ↔ token.FilledWith values part := by
  cases token with
  | text content =>
      rw [fill?_text, Option.some.injEq]
      constructor
      · rintro rfl
        exact .text _
      · rintro ⟨⟩
        rfl
  | hole p =>
      rcases p with ⟨name, rule⟩
      cases hfound : values.get? name with
      | some value =>
          have hgives := Values.get?_eq_some_iff.1 hfound
          simp only [fill?, hfound, Option.orElse_eq_orElse, Option.orElse_eq_or, Option.some_or,
            Option.some.injEq]
          constructor
          · rintro rfl
            exact .value hgives
          · intro h
            cases h with
            | value hgives' =>
                have hsame := Values.get?_eq_some_iff.2 hgives'
                rwa [hfound, Option.some.injEq] at hsame
            | optional hnone => exact absurd hgives (hnone _)
            | fallback hnone => exact absurd hgives (hnone _)
      | none =>
          have hnone := Values.get?_eq_none_iff.1 hfound
          simp only [fill?, hfound, Option.orElse_eq_orElse, Option.orElse_eq_or, Option.none_or]
          constructor
          · intro h
            cases rule with
            | required => cases h
            | optional =>
                cases h
                exact .optional hnone
            | fallback text =>
                cases h
                exact .fallback hnone
          · intro h
            cases h with
            | value hgives => exact absurd hgives (hnone _)
            | optional _ => rfl
            | fallback _ => rfl

end Tokens

/-! ## Whole texts -/

variable {values : Values} {tokens : List Token}

/-- Parts that stand in the places of tokens are what fills them, one for each. What fills a token
    is some text or nothing, and it is because no token is left without that the parts correspond
    to the tokens. -/
theorem forall₂_filledWith_iff {parts : List String} :
    List.Forall₂ (Token.FilledWith values) tokens parts ↔
      (∀ token ∈ tokens, (fill? values token).isSome) ∧
        tokens.filterMap (fill? values) = parts := by
  induction tokens generalizing parts with
  | nil =>
      rw [List.forall₂_nil_left_iff]
      constructor
      · rintro rfl
        exact ⟨List.forall_mem_nil _, rfl⟩
      · rintro ⟨-, heq⟩
        exact heq.symm
  | cons token tokens ih =>
      rw [List.forall₂_cons_left_iff, List.forall_mem_cons]
      constructor
      · rintro ⟨part, rest, hpart, hrest, rfl⟩
        have hfill := fill?_eq_some_iff.2 hpart
        rcases ih.1 hrest with ⟨hall, heq⟩
        refine ⟨⟨by rw [hfill]; rfl, hall⟩, ?_⟩
        rw [List.filterMap_cons_some hfill, heq]
      · rintro ⟨⟨hsome, hall⟩, heq⟩
        rcases Option.isSome_iff_exists.1 hsome with ⟨part, hfill⟩
        rw [List.filterMap_cons_some hfill] at heq
        exact ⟨part, _, fill?_eq_some_iff.1 hfill, ih.2 ⟨hall, rfl⟩, heq.symm⟩

/-! ## Missing names -/

/-- The names of the required placeholders among tokens, in order. -/
def requiredNames (tokens : List Token) : List String :=
  tokens.filterMap fun
    | .hole ⟨name, .required⟩ => some name
    | _ => none

theorem mem_requiredNames_iff {name : String} :
    name ∈ requiredNames tokens ↔ .hole ⟨name, .required⟩ ∈ tokens := by
  rw [requiredNames, List.mem_filterMap]
  constructor
  · rintro ⟨token, htoken, heq⟩
    split at heq
    · cases heq
      exact htoken
    · cases heq
  · intro h
    exact ⟨_, h, rfl⟩

/-- The names that a failure lists: those of required placeholders without a value,
    each once, in the order of first occurrence. -/
structure Missing (values : Values) (tokens : List Token) (names : List String) : Prop where
  mem_iff : ∀ name, name ∈ names ↔
    .hole ⟨name, .required⟩ ∈ tokens ∧ ∀ value, ¬ values.Gives name value
  ordered : names.Pairwise fun a b =>
    (requiredNames tokens).idxOf a < (requiredNames tokens).idxOf b

/-- There is one list of missing names. -/
theorem Missing.unique {names other : List String} (h : Missing values tokens names)
    (h' : Missing values tokens other) : names = other :=
  eq_of_pairwise_rank h.ordered h'.ordered fun name => (h.mem_iff name).trans (h'.mem_iff name).symm

/-- The names that are missing are the required ones without a value, each once and in the order
    in which they are first asked for. -/
theorem missing_eq (values : Values) (tokens : List Token) :
    missing values tokens =
      ((requiredNames tokens).filter fun name => (values.get? name).isNone).eraseDups := by
  rw [missing, requiredNames, List.filter_filterMap]
  congr 1
  refine List.filterMap_congr fun token _ => ?_
  cases token with
  | text content => rfl
  | hole p =>
      rcases p with ⟨name, rule⟩
      cases hfound : values.get? name <;> cases rule <;>
        simp [fill?, hfound, Rule.text?, Token.placeholder?, Option.filter]

theorem missing_missing (values : Values) (tokens : List Token) :
    Missing values tokens (missing values tokens) := by
  rw [missing_eq]
  constructor
  · intro name
    rw [List.mem_eraseDups, List.mem_filter, mem_requiredNames_iff, Option.isNone_iff_eq_none,
      Values.get?_eq_none_iff]
  · refine (pairwise_idxOf_eraseDups _).imp_of_mem fun {a b} ha hb hab => ?_
    rw [List.mem_eraseDups, List.mem_filter] at ha hb
    exact idxOf_lt_of_filter ha.2 hb.2 hab

/-! ## The outcome -/

/-- The complete outcome of filling. A text is made just if the name of every required placeholder
    has a value, and then it is what stands in the places of the tokens, one part after the other.
    Otherwise filling fails, and the failure names the required placeholders without a value.

    The two cases exclude each other and there is no third, so a failure is never for another
    reason, and no text is made with a gap in it. -/
theorem outcome_fill_iff (tokens : List Token) (values : Values) :
    ((∃ output, (fill tokens values).outcome = .ok output) ↔
      ∀ name, .hole ⟨name, .required⟩ ∈ tokens → ∃ value, values.Gives name value) ∧
    (∀ output, (fill tokens values).outcome = .ok output ↔
      ∃ parts, List.Forall₂ (Token.FilledWith values) tokens parts ∧ output = .join parts) ∧
    ∀ e, (fill tokens values).outcome = .error e ↔
      ∃ names, names ≠ [] ∧ Missing values tokens names ∧ e = .missingValues names := by
  have hmissing := missing_missing values tokens
  by_cases hnil : missing values tokens = []
  · -- Nothing is missing: every token can be filled.
    have hall := missing_eq_nil_iff.1 hnil
    have houtcome : (fill tokens values).outcome =
        .ok (.join (tokens.filterMap (fill? values))) := by
      rw [outcome_fill, if_pos hnil]
    rw [houtcome]
    refine ⟨⟨fun _ name hname => ?_, fun _ => ⟨_, rfl⟩⟩, fun output => ⟨?_, ?_⟩,
      fun e => ⟨by simp, ?_⟩⟩
    · by_contra hnone
      rw [not_exists] at hnone
      have hmem := (hmissing.mem_iff name).2 ⟨hname, hnone⟩
      rw [hnil] at hmem
      exact absurd hmem List.not_mem_nil
    · intro h
      cases h
      exact ⟨_, forall₂_filledWith_iff.2 ⟨hall, rfl⟩, rfl⟩
    · rintro ⟨parts, hparts, rfl⟩
      rw [(forall₂_filledWith_iff.1 hparts).2]
    · rintro ⟨names, hne, hnames, rfl⟩
      exact absurd ((hnames.unique hmissing).trans hnil) hne
  · -- Some token cannot be filled, and neither can the text.
    have houtcome : (fill tokens values).outcome =
        .error (.missingValues (missing values tokens)) := by
      rw [outcome_fill, if_neg hnil]
    have hsome : ¬ ∀ token ∈ tokens, (fill? values token).isSome :=
      fun hall => hnil (missing_eq_nil_iff.2 hall)
    rw [houtcome]
    refine ⟨⟨by simp, fun hgiven => ?_⟩, fun output => ⟨by simp, ?_⟩, fun e => ⟨?_, ?_⟩⟩
    · rcases List.exists_mem_of_ne_nil _ hnil with ⟨name, hname⟩
      rcases (hmissing.mem_iff name).1 hname with ⟨hrequired, hnone⟩
      rcases hgiven name hrequired with ⟨value, hvalue⟩
      exact absurd hvalue (hnone value)
    · rintro ⟨parts, hparts, -⟩
      exact absurd (forall₂_filledWith_iff.1 hparts).1 hsome
    · intro h
      cases h
      exact ⟨_, hnil, hmissing, rfl⟩
    · rintro ⟨names, -, hnames, rfl⟩
      rw [hnames.unique hmissing]

end Stencil.Template
