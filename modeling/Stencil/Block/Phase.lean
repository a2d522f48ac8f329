import Stencil.Block.Line

/-!
# Phases of Parsing

Where in a codeblock the parser is, and where the next line takes it.

The phase says what the last line was: nothing yet, a declaration, further
text of a value, or a line that opens, fills or closes a fence. The kind of
the next line decides the next phase. Inside a fence only the closing line is
special: declarations and further fences are text of the value there. Reaching
a phase has effects, which are listed here and carried out by the parser.

## Main definitions

* `Phase`: Where the parser is.
* `Phase.next?`: Where a line takes it.
* `Phase.isAccepting`, `Phase.isTerminal`: Where the text may end, and where
  no line leads on.
* `Effect`: What reaching a phase can do.
* `Phase.effects?`: What reaching a phase does.

## Theorems

* `next?_eq_none_of_isTerminal`: No line leads on from a terminal phase.
* `next?_fenced`: Inside a fence every line has a place.
-/

namespace Stencil.Block

/-- Where in a codeblock the parser is. -/
inductive Phase where
  /-- Before the first line. -/
  | start
  /-- After a declaration. -/
  | declared
  /-- After further text of a value. -/
  | text
  /-- After a line that opens a fence. -/
  | fenceOpened
  /-- After a line inside a fence. -/
  | fenced
  /-- After a line that closes a fence. -/
  | fenceClosed
  /-- After the last line. -/
  | ended
  /-- After a failure. -/
  | failed
deriving DecidableEq, Repr

/-- What reaching a phase can do. -/
inductive Effect where
  /-- Finish the growing property and start the one that the line declares. -/
  | startProperty
  /-- Add the line to the growing property. -/
  | appendLine
  /-- Remember the run that closes the fence. -/
  | openFence
  /-- Forget that run. -/
  | closeFence
  /-- Finish the growing property. -/
  | finishProperty
deriving DecidableEq, Repr

namespace Phase

/-- All phases. -/
def all : List Phase :=
  [start, declared, text, fenceOpened, fenced, fenceClosed, ended, failed]

/-- The name of a phase in messages. -/
def name : Phase → String
  | start => "Start"
  | declared => "PropertyDeclared"
  | text => "PropertyText"
  | fenceOpened => "FenceOpen"
  | fenced => "FenceText"
  | fenceClosed => "FenceClose"
  | ended => "End"
  | failed => "Error"

/-- Where a line takes the parser, if it leads anywhere. -/
def next? : Phase → LineKind → Option Phase
  | start, .declaration => some declared
  | declared, .declaration | text, .declaration | fenceClosed, .declaration => some declared
  | declared, .fenceOpen | text, .fenceOpen | fenceClosed, .fenceOpen => some fenceOpened
  | declared, .text | text, .text | fenceClosed, .text => some text
  | fenceOpened, .fenceClose | fenced, .fenceClose => some fenceClosed
  | fenceOpened, _ | fenced, _ => some fenced
  | _, _ => none

/-- The text may end in these phases. -/
def isAccepting : Phase → Bool
  | declared | text | fenceClosed => true
  | _ => false

/-- No line leads on from these phases. -/
def isTerminal : Phase → Bool
  | ended | failed => true
  | _ => false

/-- What reaching a phase does, in order; the start is never reached again. -/
def effects? : Phase → Option (List Effect)
  | start => none
  | declared => some [.startProperty]
  | text => some [.appendLine]
  | fenceOpened => some [.appendLine, .openFence]
  | fenced => some [.appendLine]
  | fenceClosed => some [.appendLine, .closeFence]
  | ended => some [.finishProperty]
  | failed => some []

/-- No line leads on from a terminal phase. -/
theorem next?_eq_none_of_isTerminal {p : Phase} (h : p.isTerminal) (k : LineKind) :
    p.next? k = none := by
  cases p <;> simp_all [isTerminal, next?]

/-- Inside a fence every line has a place. -/
theorem next?_fenced (k : LineKind) :
    fenced.next? k = some (if k = .fenceClose then fenceClosed else fenced) := by
  cases k <;> rfl

end Phase

/-- The name of an effect. -/
def Effect.name : Effect → String
  | startProperty => "property-start"
  | appendLine => "line-append"
  | openFence => "fence-open"
  | closeFence => "fence-close"
  | finishProperty => "finalize"

end Stencil.Block
