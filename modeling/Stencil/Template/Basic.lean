import Stencil.Template.Fill
import Stencil.Template.Scan

/-!
# Templates

A template's text, its tokens, and the placeholders that it has.

The catalogue of a template lists its placeholders, each name once, in the
order in which the names appear. There is one only if every use of a name
agrees with the first use of it; otherwise the first use that does not agree is
the failure.

## Main definitions

* `catalogue`: The placeholders among tokens.
* `Template`: A text and its tokens.
* `Template.ofText`: Read a template.
* `Template.placeholders`: The catalogue of a template.
* `Template.normalized`, `Template.text`: The template written anew.

## Theorems

* `Template.outcome_ofText`: A template has the tokens of its text.
-/

namespace Stencil.Template

/-- Add the placeholders among tokens to those that are known. -/
def catalogueFrom (known : List Placeholder) : List Token → Except Error (List Placeholder)
  | [] => .ok known
  | .text _ :: tokens => catalogueFrom known tokens
  | .hole p :: tokens =>
    match known.find? (·.name = p.name) with
    | none => catalogueFrom (known ++ [p]) tokens
    | some first =>
      match first.clash? p with
      | none => catalogueFrom known tokens
      | some clash => .error (.conflict p.name clash)

/-- The placeholders among tokens, each name once, in order of appearance. -/
def catalogue (tokens : List Token) : Except Error (List Placeholder) :=
  catalogueFrom [] tokens

end Stencil.Template

namespace Stencil

/-- A template's text without outer blanks, and its tokens. -/
structure Template where
  source : String
  tokens : List Template.Token
deriving DecidableEq, Repr

namespace Template

/-- Read a template, looking for the forms of a registry. -/
def ofText (r : Registry) (text : String) : Trace Error Template := do
  let source := Text.strip text
  return ⟨source, ← r.tokenize source⟩

/-- The placeholders of a template, each name once, in order of appearance. -/
def placeholders (t : Template) : Except Error (List Placeholder) :=
  catalogue t.tokens

/-- The template with each placeholder written as one that needs a value. -/
def normalized (t : Template) : String :=
  .join (t.tokens.map fun token => token.asRequired.source)

/-- The template with each placeholder written in its plain form. -/
def text (t : Template) : String :=
  .join (t.tokens.map Token.source)

/-- The text that the template makes with the given values. -/
def fillWith (t : Template) (values : Values) : Trace Error String :=
  fill t.tokens values

/-- A template has the tokens of its text, with or without outer blanks. -/
theorem outcome_ofText (r : Registry) (text : String) :
    (ofText r text).outcome =
      (r.tokenize text).outcome.map fun tokens => ⟨Text.strip text, tokens⟩ := by
  have hstrip : r.tokenize (Text.strip text) = r.tokenize text := by
    rw [Registry.tokenize, Registry.tokenize, Text.strip, String.toList_ofList, Text.trim_trim]
  simp only [ofText, hstrip, Trace.outcome_bind, Trace.outcome_pure]
  cases (r.tokenize text).outcome <;> rfl

end Template

end Stencil
