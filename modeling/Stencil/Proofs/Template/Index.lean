import Stencil.Proofs.Template.Catalogue
import Stencil.Template.Index

/-!
# Answers about Placeholders

What a template answers about its placeholders, whatever it was asked before.

Only a complete catalogue is kept. So what is kept is always what would be made
anew, and no question has an influence on the answer to a later one: all answers
are those of the catalogue, or its failure.

## Main definitions

* `Index.after`: A template that has been asked questions.
* `Index.Sound`: What is kept is what would be made.

## Theorems

* `Index.Sound.ask`, `Index.Sound.after`: Questions keep an index sound.
* `Index.ask_after_new`: What was asked before has no influence.
* `ask_after`: The answers to all questions, at any time.
-/

namespace Stencil.Template

/-! ## Kept catalogues -/

namespace Index

/-- A template that has been asked questions, one after the other. -/
def after (index : Index) (asked : List Question) : Index :=
  asked.foldl (fun index question => (index.ask question).2) index

/-- What is kept, if something is, is what would be made. It is all that is needed of what was
    asked before. -/
def Sound (index : Index) : Prop :=
  ∀ ps, index.kept = some ps → index.template.placeholders = .ok ps

/-- A new template has nothing kept. -/
theorem sound_new (t : Template) : Sound ⟨t, none⟩ := by
  intro ps h
  cases h

/-- Asked or not, the catalogue is the one that would be made, and what is left
    is sound. -/
theorem Sound.catalogue {index : Index} (h : index.Sound) :
    index.catalogue.1 = index.template.placeholders ∧ index.catalogue.2.Sound := by
  rw [Index.catalogue]
  cases hkept : index.kept with
  | some ps => exact ⟨(h ps hkept).symm, h⟩
  | none =>
      cases hmade : index.template.placeholders with
      | ok ps =>
          -- What is kept from now on is what was made just now.
          refine ⟨rfl, ?_⟩
          rintro _ ⟨⟩
          exact hmade
      | error e => exact ⟨rfl, h⟩

/-- One question: the answer is that of the catalogue that would be made, and
    what is left is sound. -/
theorem Sound.ask {index : Index} (h : index.Sound) (question : Question) :
    (index.ask question).1 = index.template.placeholders.bind question.answer ∧
      (index.ask question).2.Sound := by
  refine ⟨?_, h.catalogue.2⟩
  rw [Index.ask, ← h.catalogue.1]

/-- Many questions: the template stays, and what is left is sound. -/
theorem Sound.after {index : Index} (h : index.Sound) (asked : List Question) :
    (index.after asked).Sound ∧ (index.after asked).template = index.template := by
  induction asked generalizing index with
  | nil => exact ⟨h, rfl⟩
  | cons question asked ih =>
      rcases ih (h.ask question).2 with ⟨hsound, htemplate⟩
      exact ⟨hsound, htemplate.trans (template_ask ..)⟩

/-- What was asked before has no influence on an answer. -/
theorem ask_after_new (t : Template) (asked : List Question) (question : Question) :
    ((Index.after ⟨t, none⟩ asked).ask question).1 = t.placeholders.bind question.answer := by
  rcases (sound_new t).after asked with ⟨hsound, htemplate⟩
  rw [(hsound.ask question).1, htemplate]

end Index

/-! ## Answers -/

/-- The answers of a template, whatever it was asked before. If its placeholders agree wherever
    they share a name, the first ones of all names are listed, and a name is answered with the
    first one that has it. If they do not, there is a first one that is not like the first of its
    name, and every question is answered with that.

    The catalogue is made at the first question and kept, unless it could not be made; then it is
    made again at the next question, with the same failure. -/
theorem ask_after (t : Template) (asked : List Question) :
    let answer question := ((Index.after ⟨t, none⟩ asked).ask question).1
    (∀ question, answer question = (Index.ask ⟨t, none⟩ question).1) ∧
    ((Consistent t.tokens ∧
        (∃ ps, IsCatalogue t.tokens ps ∧ answer .list = .ok (.listed ps)) ∧
        answer .validate = .ok .agreed ∧
        (∀ name, ∃ isThere, answer (.has name) = .ok (.known isThere) ∧
          (isThere = true ↔ ∃ p, .hole p ∈ t.tokens ∧ p.name = name)) ∧
        ∀ name,
          (∃ p, First t.tokens p ∧ p.name = name ∧ answer (.get name) = .ok (.found p)) ∨
          (∀ p, .hole p ∈ t.tokens → p.name ≠ name) ∧
            answer (.get name) = .error (.noPlaceholder name)) ∨
      ¬ Consistent t.tokens ∧ ∃ p clash, FirstClash t.tokens p clash ∧
        ∀ question, answer question = .error (.conflict p.name clash)) := by
  intro answer
  have hanswer : ∀ question, answer question = t.placeholders.bind question.answer :=
    Index.ask_after_new t asked
  refine ⟨fun question => (hanswer question).trans (Index.ask_after_new t [] question).symm, ?_⟩
  rcases catalogue_cases t.tokens with ⟨ps, hps, hcatalogue, hagree⟩ | ⟨p, clash, herror, hclash⟩
  · -- All questions are answered from the one catalogue.
    have hok : ∀ question, answer question = question.answer ps := by
      intro question
      rw [hanswer, Template.placeholders, hps]
      rfl
    refine .inl ⟨consistent_of_agrees hagree, ⟨ps, hcatalogue, hok _⟩, hok _, ?_, ?_⟩
    · intro name
      exact ⟨_, hok _, hcatalogue.any_name_iff⟩
    · intro name
      cases hfind : ps.find? (·.name = name) with
      | none =>
          refine .inr ⟨hcatalogue.find?_eq_none_iff.1 hfind, ?_⟩
          rw [hok, Question.answer, hfind]
      | some p =>
          rcases hcatalogue.find?_eq_some_iff.1 hfind with ⟨hfirst, hname⟩
          refine .inl ⟨p, hfirst, hname, ?_⟩
          rw [hok, Question.answer, hfind]
  · refine .inr ⟨hclash.not_consistent, p, clash, hclash, fun question => ?_⟩
    rw [hanswer, Template.placeholders, herror]
    rfl

-- A name that is used in one way only is not answered either, now or later.
example :
    let t : Template := ⟨"\x7b\x7b a \x7d\x7d\x7b\x7b b \x7d\x7d\x7b\x7b a? \x7d\x7d",
      [.hole ⟨"a", .required⟩, .hole ⟨"b", .required⟩, .hole ⟨"a", .optional⟩]⟩
    ((Index.after ⟨t, none⟩ [.list]).ask (.get "b")).1 =
      .error (.conflict "a" (.kinds .required .optional)) := by
  rfl

end Stencil.Template
