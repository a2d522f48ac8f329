import Mathlib.Data.List.Induction
import Stencil.Proofs.Occurrence
import Stencil.Template.Basic

/-!
# First Placeholders

The catalogue of tokens, token by token.

The catalogue grows while the tokens are read, and each placeholder is compared
with what is known so far. What is known are the first placeholders of the names
that were met, in the order in which they were met, and that stays so with every
token: a text and a further use of a name change nothing, and a new name goes to
the end. So a placeholder that is told apart is told apart from the first one of
its name, and because those before it were all accepted, it is the first one to
which that happens.

## Main definitions

* `First`: The first placeholder of its name.
* `IsCatalogue`: The first placeholders of all names, in order.
* `Agrees`, `FirstClash`: Agreement with the first one, and where it ends.

## Theorems

* `First.unique`, `exists_first`: Each name that is used has one first placeholder.
* `IsCatalogue.skip`, `IsCatalogue.concat`: What one more token does to a catalogue.
* `IsCatalogue.unique`: There is one catalogue.
* `IsCatalogue.find?_eq_some_iff`: Looking a name up in a catalogue.
* `catalogueFrom_of_isCatalogue`: What is made of tokens, after those that were read.
* `catalogue_cases`: What is made of all tokens.
-/

namespace Stencil.Template

/-! ## First placeholders -/

/-- The first placeholder of its name among tokens. Later ones of the name are compared with it. -/
def First (tokens : List Token) (p : Placeholder) : Prop :=
  ∃ before after, tokens = before ++ .hole p :: after ∧ ∀ q, .hole q ∈ before → q.name ≠ p.name

section First

variable {tokens : List Token} {p q : Placeholder}

theorem First.mem (h : First tokens p) : .hole p ∈ tokens := by
  rcases h with ⟨before, after, rfl, -⟩
  simp

/-- More tokens behind it do not change what is first. -/
theorem First.append (h : First tokens p) (more : List Token) : First (tokens ++ more) p := by
  rcases h with ⟨before, after, rfl, hbefore⟩
  exact ⟨before, after ++ more, by simp, hbefore⟩

/-- The first placeholders after one more token: those before, and the token itself if its name is
    new. The catalogue grows at its end, so this is the form in which the definition is used. -/
theorem first_concat_iff {token : Token} :
    First (tokens ++ [token]) p ↔
      First tokens p ∨ token = .hole p ∧ ∀ q, .hole q ∈ tokens → q.name ≠ p.name := by
  constructor
  · rintro ⟨before, after, heq, hbefore⟩
    -- It is the last token itself, or the last token stands behind it.
    rcases List.eq_nil_or_concat after with rfl | ⟨after, last, rfl⟩
    · rcases List.append_inj' heq rfl with ⟨rfl, hlast⟩
      exact .inr ⟨List.head_eq_of_cons_eq hlast, hbefore⟩
    · rw [List.concat_eq_append, ← List.cons_append, ← List.append_assoc] at heq
      exact .inl ⟨before, after, (List.append_inj' heq rfl).1, hbefore⟩
  · rintro (h | ⟨rfl, hnew⟩)
    · exact h.append _
    · exact ⟨tokens, [], rfl, hnew⟩

/-- A name has one first placeholder. -/
theorem First.unique (hp : First tokens p) (hq : First tokens q) (hname : p.name = q.name) :
    p = q := by
  induction tokens using List.reverseRecOn with
  | nil => exact absurd hp.mem List.not_mem_nil
  | append_singleton tokens token ih =>
      -- Two that were there before are the same. One that was there before keeps the
      -- last token from being first, and there is only one last token.
      rcases first_concat_iff.1 hp with hp | ⟨rfl, hnew⟩
      · rcases first_concat_iff.1 hq with hq | ⟨-, hnew⟩
        · exact ih hp hq
        · exact absurd hname (hnew p hp.mem)
      · rcases first_concat_iff.1 hq with hq | ⟨heq, -⟩
        · exact absurd hname.symm (hnew q hq.mem)
        · exact Token.hole.inj heq

/-- A name that is used has a first placeholder. -/
theorem exists_first (h : .hole p ∈ tokens) :
    ∃ first, First tokens first ∧ first.name = p.name := by
  induction tokens using List.reverseRecOn generalizing p with
  | nil => cases h
  | append_singleton tokens token ih =>
      -- Where the name was used before, its first placeholder was there before as well.
      by_cases hused : ∃ q, .hole q ∈ tokens ∧ q.name = p.name
      · rcases hused with ⟨q, hq, hname⟩
        rcases ih hq with ⟨first, hfirst, hsame⟩
        exact ⟨first, hfirst.append _, hsame.trans hname⟩
      · have hnew : ∀ q, .hole q ∈ tokens → q.name ≠ p.name :=
          fun q hq hname => hused ⟨q, hq, hname⟩
        rcases List.mem_append.1 h with h | h
        · exact absurd rfl (hnew p h)
        · exact ⟨p, first_concat_iff.2 (.inr ⟨(List.mem_singleton.1 h).symm, hnew⟩), rfl⟩

end First

/-! ## Catalogues -/

/-- The names that tokens use, in order. -/
def usedNames (tokens : List Token) : List String :=
  tokens.filterMap fun token => token.placeholder?.map (·.name)

/-- The first placeholders of all names, in the order in which the names appear. Both fields
    together leave one list only. -/
structure IsCatalogue (tokens : List Token) (ps : List Placeholder) : Prop where
  mem_iff : ∀ p, p ∈ ps ↔ First tokens p
  ordered : ps.Pairwise fun p q =>
    (usedNames tokens).idxOf p.name < (usedNames tokens).idxOf q.name

section Catalogue

variable {tokens : List Token} {ps : List Placeholder}

@[simp] theorem mem_usedNames_iff {name : String} :
    name ∈ usedNames tokens ↔ ∃ p, .hole p ∈ tokens ∧ p.name = name := by
  rw [usedNames, List.mem_filterMap]
  constructor
  · rintro ⟨_ | p, hmem, heq⟩
    · cases heq
    · exact ⟨p, hmem, Option.some.inj heq⟩
  · rintro ⟨p, hp, rfl⟩
    exact ⟨_, hp, rfl⟩

/-- More tokens behind them do not change the order of the placeholders. -/
theorem IsCatalogue.ordered_append (h : IsCatalogue tokens ps) (more : List Token) :
    ps.Pairwise fun p q =>
      (usedNames (tokens ++ more)).idxOf p.name < (usedNames (tokens ++ more)).idxOf q.name := by
  have hsame : ∀ p ∈ ps,
      (usedNames (tokens ++ more)).idxOf p.name = (usedNames tokens).idxOf p.name := by
    intro p hp
    rw [usedNames, List.filterMap_append]
    exact List.idxOf_append_of_mem (mem_usedNames_iff.2 ⟨p, ((h.mem_iff p).1 hp).mem, rfl⟩)
  refine h.ordered.imp_of_mem fun {p q} hp hq hpq => ?_
  rwa [hsame p hp, hsame q hq]

theorem isCatalogue_nil : IsCatalogue [] [] := by
  refine ⟨fun p => ⟨fun h => absurd h List.not_mem_nil, fun h => absurd h.mem List.not_mem_nil⟩, ?_⟩
  exact List.Pairwise.nil

/-- A token that is not the first of a name changes nothing. -/
theorem IsCatalogue.skip {token : Token} (h : IsCatalogue tokens ps)
    (hskip : ∀ p, token = .hole p → ∃ q, .hole q ∈ tokens ∧ q.name = p.name) :
    IsCatalogue (tokens ++ [token]) ps := by
  refine ⟨fun p => ?_, h.ordered_append _⟩
  rw [h.mem_iff, first_concat_iff]
  refine ⟨.inl, fun hp => hp.resolve_right ?_⟩
  rintro ⟨heq, hnew⟩
  rcases hskip p heq with ⟨q, hq, hname⟩
  exact hnew q hq hname

/-- The first placeholder of a name goes to the end, as its place is behind all places of the
    names before it. -/
theorem IsCatalogue.concat {p : Placeholder} (h : IsCatalogue tokens ps)
    (hnew : ∀ q, .hole q ∈ tokens → q.name ≠ p.name) :
    IsCatalogue (tokens ++ [.hole p]) (ps ++ [p]) := by
  constructor
  · intro q
    rw [List.mem_append, h.mem_iff, List.mem_singleton, first_concat_iff, Token.hole.injEq]
    refine or_congr_right ⟨?_, fun hq => hq.1.symm⟩
    rintro rfl
    exact ⟨rfl, hnew⟩
  · rw [List.pairwise_append]
    refine ⟨h.ordered_append _, List.pairwise_singleton .., fun q hq r hr => ?_⟩
    -- A name that was used stands before the end, and the new one does not.
    obtain rfl := List.mem_singleton.1 hr
    have hold : q.name ∈ usedNames tokens :=
      mem_usedNames_iff.2 ⟨q, ((h.mem_iff q).1 hq).mem, rfl⟩
    have hnot : r.name ∉ usedNames tokens := by
      rw [mem_usedNames_iff]
      rintro ⟨q, hq, hname⟩
      exact hnew q hq hname
    rw [usedNames, List.filterMap_append, ← usedNames, List.idxOf_append_of_mem hold,
      List.idxOf_append_of_notMem hnot]
    exact Nat.lt_of_lt_of_le (List.idxOf_lt_length_of_mem hold) (Nat.le_add_right ..)

/-- There is one catalogue. -/
theorem IsCatalogue.unique {other : List Placeholder} (h : IsCatalogue tokens ps)
    (h' : IsCatalogue tokens other) : ps = other :=
  eq_of_pairwise_rank h.ordered h'.ordered fun p => (h.mem_iff p).trans (h'.mem_iff p).symm

/-- What is found under a name is the first placeholder that has it. -/
theorem IsCatalogue.find?_eq_some_iff {name : String} {p : Placeholder}
    (h : IsCatalogue tokens ps) :
    ps.find? (·.name = name) = some p ↔ First tokens p ∧ p.name = name := by
  constructor
  · intro hfind
    exact ⟨(h.mem_iff p).1 (List.mem_of_find?_eq_some hfind), by simpa using List.find?_some hfind⟩
  · rintro ⟨hfirst, hname⟩
    -- Something is found, and a name has only one first placeholder.
    cases hfind : ps.find? (·.name = name) with
    | none =>
        have hne := List.find?_eq_none.1 hfind p ((h.mem_iff p).2 hfirst)
        simp [hname] at hne
    | some found =>
        have hfound : found.name = name := by simpa using List.find?_some hfind
        have hmem := (h.mem_iff found).1 (List.mem_of_find?_eq_some hfind)
        rw [hmem.unique hfirst (hfound.trans hname.symm)]

/-- Nothing is found under a name just if no placeholder has it. -/
theorem IsCatalogue.find?_eq_none_iff {name : String} (h : IsCatalogue tokens ps) :
    ps.find? (·.name = name) = none ↔ ∀ p, .hole p ∈ tokens → p.name ≠ name := by
  rw [Option.eq_none_iff_forall_ne_some]
  constructor
  · rintro hnone p hp rfl
    rcases exists_first hp with ⟨first, hfirst, hname⟩
    exact hnone first (h.find?_eq_some_iff.2 ⟨hfirst, hname⟩)
  · intro hnone p hfind
    rcases h.find?_eq_some_iff.1 hfind with ⟨hfirst, hname⟩
    exact hnone p hfirst.mem hname

/-- A catalogue has the names that are used. -/
theorem IsCatalogue.any_name_iff {name : String} (h : IsCatalogue tokens ps) :
    ps.any (·.name = name) = true ↔ ∃ p, .hole p ∈ tokens ∧ p.name = name := by
  simp only [List.any_eq_true, decide_eq_true_eq]
  constructor
  · rintro ⟨p, hp, hname⟩
    exact ⟨p, ((h.mem_iff p).1 hp).mem, hname⟩
  · rintro ⟨p, hp, rfl⟩
    rcases exists_first hp with ⟨first, hfirst, hname⟩
    exact ⟨first, (h.mem_iff first).2 hfirst, hname⟩

end Catalogue

/-! ## Agreement with first placeholders -/

/-- A placeholder that has the rule of the first one of its name. If all do, all of a name have
    one rule. -/
def Agrees (tokens : List Token) (p : Placeholder) : Prop :=
  ∀ first, First tokens first → first.name = p.name → first.rule = p.rule

/-- The first placeholder that does not agree with the first one of its name,
    and how they differ. -/
def FirstClash (tokens : List Token) (p : Placeholder) (clash : Clash) : Prop :=
  ∃ earlier later first, tokens = earlier ++ .hole p :: later ∧
    (∀ q, .hole q ∈ earlier → Agrees tokens q) ∧
    First tokens first ∧ first.name = p.name ∧ first.clash? p = some clash

/-- More tokens behind it do not change that a placeholder agrees. -/
theorem Agrees.append {tokens : List Token} {p : Placeholder} (h : Agrees tokens p)
    (hp : .hole p ∈ tokens) (more : List Token) : Agrees (tokens ++ more) p := by
  intro first hfirst hname
  rcases exists_first hp with ⟨old, hold, hsame⟩
  obtain rfl := hfirst.unique (hold.append more) (hname.trans hsame.symm)
  exact h first hold hname

/-- Tokens that agree, and one more that agrees with what was first. -/
theorem agrees_concat {tokens : List Token} {token : Token}
    (h : ∀ q, .hole q ∈ tokens → Agrees tokens q)
    (htoken : ∀ p, token = .hole p → Agrees (tokens ++ [token]) p) :
    ∀ q, .hole q ∈ tokens ++ [token] → Agrees (tokens ++ [token]) q := by
  intro q hq
  rcases List.mem_append.1 hq with hq | hq
  · exact (h q hq).append hq _
  · exact htoken q (List.mem_singleton.1 hq).symm

/-- What is made of tokens, if those before them agree and what is known is their catalogue: the
    catalogue of all of them, which agree, or the first clash. Both conditions carry over from
    token to token, and they hold at the start, where nothing was read. -/
theorem catalogueFrom_of_isCatalogue {before tokens : List Token} {known : List Placeholder}
    (h : IsCatalogue before known) (hagree : ∀ q, .hole q ∈ before → Agrees before q) :
    (∃ ps, catalogueFrom known tokens = .ok ps ∧ IsCatalogue (before ++ tokens) ps ∧
        ∀ q, .hole q ∈ before ++ tokens → Agrees (before ++ tokens) q) ∨
      ∃ p clash, catalogueFrom known tokens = .error (.conflict p.name clash) ∧
        FirstClash (before ++ tokens) p clash := by
  induction tokens generalizing before known with
  | nil => exact .inl ⟨known, rfl, by rwa [List.append_nil], by rwa [List.append_nil]⟩
  | cons token tokens ih =>
      -- The token goes over to those that have been read.
      rw [List.append_cons]
      cases token with
      | text content =>
          rw [catalogueFrom]
          refine ih (h.skip ?_) (agrees_concat hagree ?_)
          · rintro p ⟨⟩
          · rintro p ⟨⟩
      | hole p =>
          rw [catalogueFrom]
          cases hfind : known.find? (·.name = p.name) with
          | none =>
              have hnew := h.find?_eq_none_iff.1 hfind
              refine ih (h.concat hnew) (agrees_concat hagree ?_)
              -- The first one of the name is the placeholder itself.
              rintro _ ⟨⟩ first hfirst hname
              rw [hfirst.unique (first_concat_iff.2 (.inr ⟨rfl, hnew⟩)) hname]
          | some first =>
              rcases h.find?_eq_some_iff.1 hfind with ⟨hfirst, hname⟩
              cases hclash : first.clash? p with
              | none =>
                  simp only [hclash]
                  refine ih (h.skip ?_) (agrees_concat hagree ?_)
                  · rintro _ ⟨⟩
                    exact ⟨first, hfirst.mem, hname⟩
                  · rintro _ ⟨⟩ other hother hsame
                    rw [hother.unique (hfirst.append _) (hsame.trans hname.symm)]
                    exact Placeholder.clash?_eq_none_iff.1 hclash
              | some clash =>
                  -- The search ends here, and all before was accepted.
                  simp only [hclash]
                  rw [← List.append_cons]
                  refine .inr ⟨p, clash, rfl, before, tokens, first, rfl, ?_, hfirst.append _,
                    hname, hclash⟩
                  exact fun q hq => (hagree q hq).append hq _

/-- What is made of tokens: their catalogue, or the first clash. -/
theorem catalogue_cases (tokens : List Token) :
    (∃ ps, catalogue tokens = .ok ps ∧ IsCatalogue tokens ps ∧
        ∀ q, .hole q ∈ tokens → Agrees tokens q) ∨
      ∃ p clash, catalogue tokens = .error (.conflict p.name clash) ∧ FirstClash tokens p clash :=
  catalogueFrom_of_isCatalogue isCatalogue_nil fun _ hq => absurd hq List.not_mem_nil

end Stencil.Template
