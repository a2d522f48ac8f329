import Stencil.Block.Error
import Stencil.Files.Loader
import Stencil.Template.Error

/-!
# Failures of Forging

Why a codeblock is not turned into output.

A failure is one of the parts that work together, or the lack of a property
that names a template. Most failures are the business of whoever wrote the
codeblock or the template, and are reported; the rest are mistakes of the host
and pass through.

## Main definitions

* `Failure`: The failures.
* `Failure.report?`: What a host is told about one.
-/

namespace Stencil

/-- Why a codeblock is not turned into output. -/
inductive Failure where
  /-- The source is no codeblock. -/
  | block (reason : Block.Error)
  /-- No property of the key names a template. -/
  | unnamed (key : String)
  /-- The template cannot be loaded. -/
  | load (reason : Files.Error)
  /-- The template cannot be read or filled. -/
  | template (reason : Template.Error)
  /-- The style to display the source in does not exist. -/
  | style (name : String)
deriving DecidableEq, Repr

/-- What a host is told, if the failure is to be reported. -/
def Failure.report? : Failure → Option Report
  | block reason => reason.report?
  | unnamed key => some (.notFound ("Codeblock has no " ++ key ++ " property."))
  | load reason => reason.report?
  | template reason => reason.report?
  | style _ => none

end Stencil
