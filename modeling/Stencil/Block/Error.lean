import Stencil.Block.Phase
import Stencil.Report

/-!
# Failures of Parsing

Why a text is no codeblock, and why a parser that was brought into a state of
its own cannot go on.

A text can fail in four ways: it is blank, it does not start with a
declaration, it leaves a fence open, or it declares a key twice. The other
failures cannot be reached from a text; they belong to a parser whose phase,
draft or fence was set by hand.

## Main definitions

* `Error`: The failures.
* `Error.report?`: What a host is told about one.
-/

namespace Stencil.Block

/-- Why parsing failed. -/
inductive Error where
  /-- The text is blank. -/
  | blank
  /-- The first line declares nothing. -/
  | noDeclaration (line : Int)
  /-- The text ends inside the fence that was opened on a line. -/
  | unclosedFence (opened : Int) (line : Int)
  /-- Keys were declared more than once. -/
  | duplicateKeys (keys : List String)
  /-- A line came in a phase that has no use for it. -/
  | noTransition (line : Int) (kind : LineKind) (phase : Phase)
  /-- The text ends in a phase in which it may not end, outside any fence. -/
  | unexpectedEnd (line : Int)
  /-- A line has no growing property to be added to. -/
  | noDraft (line : Int)
  /-- The phase cannot be reached, it can only be started from. -/
  | unreachable (phase : Phase)
deriving DecidableEq, Repr

/-- What a host is told; reaching the start is no failure of any source and is
    not reported. -/
def Error.report? : Error → Option Report
  | blank => some (.emptySource "Codeblock is empty or has only whitespaces.")
  | noDeclaration line =>
    some (.badSource "Codeblock must start with a property (key: value)." (some line))
  | unclosedFence opened line =>
    some (.badSource ("Unexpected end of input: unclosed code fence opened at line " ++
      toString opened ++ ".") (some line))
  | duplicateKeys keys => some (.duplicateKeys keys)
  | noTransition line kind phase => some (.noTransition line kind.name phase.name)
  | unexpectedEnd line => some (.badSource "Unexpected end of input." (some line))
  | noDraft line => some (.general (Report.onLine line "no active property to append to."))
  | unreachable _ => none

end Stencil.Block
