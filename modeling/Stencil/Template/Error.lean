import Stencil.Pattern.Fault
import Stencil.Report
import Stencil.Template.Token
import Stencil.Text.Quoted

/-!
# Failures of Templates

Why forms of placeholders do not go together, and why a template cannot be
read, asked or filled.

## Main definitions

* `Error`: The failures.
* `Error.report?`: What a host is told about one.
-/

namespace Stencil.Template

/-- Why forms do not go together, or a template cannot be used. -/
inductive Error where
  /-- The name of a form is no identifier. -/
  | badName (form : String)
  /-- Two forms have the same name. -/
  | takenName (form : String)
  /-- Two forms have the same pattern; the name is that of the first. -/
  | takenPattern (source first : String)
  /-- The pattern of a form cannot be read. -/
  | badPattern (form source : String) (reason : Pattern.Error)
  /-- Each pattern can be read, but not all of them side by side. -/
  | apart
  /-- The forms do not include the one that matched. -/
  | noForm
  /-- The pattern that matched knows nothing of a form. -/
  | unknownForm (form : String)
  /-- A form does not match the text that was found for it. -/
  | selfMismatch (form text : String)
  /-- A form captures fewer parts than it is to be built from. -/
  | noCapture (form : String)
  /-- A part that a form is to be built from was not captured. -/
  | emptyCapture (form : String)
  /-- A name is used in two ways. -/
  | conflict (name : String) (clash : Clash)
  /-- No placeholder has the name. -/
  | noPlaceholder (name : String)
  /-- Required placeholders have no value. -/
  | missingValues (names : List String)
deriving DecidableEq, Repr

/-- What a host is told. A question about a form or a capture that does not exist
    is no failure of any template and is not reported; neither is a limit in
    reading a pattern, nor that patterns do not stand side by side. -/
def Error.report? : Error → Option Report
  | badName form =>
    some (.badForms ("Placeholder syntax name '" ++ form ++ "' is not a valid identifier."))
  | takenName form =>
    some (.badForms ("Placeholder syntax with name '" ++ form ++ "' already exists."))
  | takenPattern source first =>
    some (.badForms ("Placeholder syntax with pattern '" ++ source ++
      "' already exists (registered as '" ++ first ++ "')."))
  | badPattern form source reason =>
    (reason.report? source).map fun text =>
      .badForms ("Placeholder syntax '" ++ form ++ "' has an invalid pattern: " ++ text)
  | noForm => some (.badTemplate "No placeholder syntax in this registry matched.")
  | selfMismatch form text =>
    some (.badTemplate ("Placeholder syntax '" ++ form ++ "' did not match its own text: " ++
      Text.quoted text))
  | conflict name clash => some (.conflict name clash.text)
  | noPlaceholder name =>
    some (.badTemplate ("Placeholder '" ++ name ++ "' not found in the template."))
  | missingValues names => some (.missingValues names)
  | apart | unknownForm _ | noCapture _ | emptyCapture _ => none

end Stencil.Template
