import Stencil.Template.Basic

/-!
# Questions to a Template

What a template is asked about its placeholders, again and again.

Every question is answered from the catalogue. The catalogue is made when the
first question comes, and is kept for those that come later. If it cannot be
made nothing is kept, not even a part of it: the question fails, and the next
one tries again.

## Main definitions

* `Question`, `Answer`: What can be asked, and what comes back.
* `Question.answer`: What a catalogue answers.
* `Index`: A template, and the catalogue that it keeps.
* `Index.catalogue`: The catalogue, made if there is none.
* `Index.ask`: Put a question.

## Theorems

* `Index.template_ask`: Questions leave the template alone.
-/

namespace Stencil.Template

/-- A question about the placeholders of a template. -/
inductive Question where
  /-- Which are there? -/
  | list
  /-- Do they agree with each other? -/
  | validate
  /-- Is there one of the name? -/
  | has (name : String)
  /-- Which one has the name? -/
  | get (name : String)
deriving DecidableEq, Repr

/-- What a question is answered with. -/
inductive Answer where
  /-- These are there. -/
  | listed (placeholders : List Placeholder)
  /-- They agree. -/
  | agreed
  /-- Whether the name is there. -/
  | known (isThere : Bool)
  /-- This one has the name. -/
  | found (placeholder : Placeholder)
deriving DecidableEq, Repr

/-- What a catalogue answers. -/
def Question.answer (placeholders : List Placeholder) : Question → Except Error Answer
  | list => .ok (.listed placeholders)
  | validate => .ok .agreed
  | has name => .ok (.known (placeholders.any (·.name = name)))
  | get name =>
    match placeholders.find? (·.name = name) with
    | some p => .ok (.found p)
    | none => .error (.noPlaceholder name)

/-- A template, and its catalogue once that has been made. -/
structure Index where
  template : Template
  /-- The catalogue that earlier questions left. -/
  kept : Option (List Placeholder) := none
deriving DecidableEq, Repr

namespace Index

/-- The catalogue. It is made if none is kept, and kept if it could be made. -/
def catalogue (index : Index) : Except Error (List Placeholder) × Index :=
  match index.kept with
  | some placeholders => (.ok placeholders, index)
  | none =>
    match index.template.placeholders with
    | .ok placeholders => (.ok placeholders, { index with kept := some placeholders })
    | .error e => (.error e, index)

/-- Put a question: what comes back, and the index after it. -/
def ask (index : Index) (question : Question) : Except Error Answer × Index :=
  let (placeholders, index) := index.catalogue
  (placeholders.bind question.answer, index)

/-- Questions leave the template alone. -/
@[simp] theorem template_ask (index : Index) (question : Question) :
    (index.ask question).2.template = index.template := by
  simp only [ask, catalogue]
  split
  · rfl
  · split <;> rfl

end Index

end Stencil.Template
