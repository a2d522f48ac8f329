import Stencil.Block.Error
import Stencil.Block.Property

/-!
# The Codeblock Parser

Reading a codeblock line by line.

The parser holds the properties it has finished, the one that is growing, and
the run that closes the open fence. It takes a line in three steps: `classify`
says what the line is, `resolve` finds the phase that the line leads to, and
`enter` takes the parser there and carries out the effects of the phase. Each
step is an action of its own, and an action that fails leaves the parser as it
was at that moment. `parse` runs the actions over the whole source, starting
from fresh properties and a closed fence, whatever was there before.

## Main definitions

* `Parser`: The state of a parser.
* `Parser.Action`: A step that may change the parser, fail and say something.
* `Parser.resolve`, `Parser.enter`, `Parser.finishInput`: The steps.
* `Parser.parse`: Read the whole source.
* `parse`: The properties of a text.

## Theorems

* `Parser.reset_reset`: Starting afresh twice is starting afresh once.
* `Parser.isOpen_reset`: A fresh parser has no fence open.
-/

namespace Stencil.Block

/-- The state of a parser. -/
structure Parser where
  /-- The text to be parsed. -/
  source : String
  /-- Whether changes of phase are messages too. -/
  debug : Bool := false
  phase : Phase := .start
  /-- The number of the last line taken. -/
  number : Int := 0
  /-- The properties finished so far. -/
  properties : List Property := []
  /-- The property that is growing. -/
  draft : Option Draft := none
  /-- The run that closes the open fence, if one is open. -/
  fence : Option String := none
  /-- The number of the line that opened the fence; 0 if none is open. -/
  fenceNumber : Int := 0
deriving DecidableEq, Repr

namespace Parser

/-- A step that may change the parser, fail and say something. -/
abbrev Action : Type → Type :=
  ExceptT Error (StateT Parser Logged)

/-- How an action ends on a parser, what it leaves and what it says. -/
def run {α : Type} (p : Parser) (action : Action α) : Logged (Except Error α × Parser) :=
  StateT.run (ExceptT.run action) p

/-- Whether a fence is open. -/
def isOpen (p : Parser) : Bool :=
  p.fence.isSome

/-- The parser before its first line. Line numbers are kept: the lines to come
    set them anew. -/
def reset (p : Parser) : Parser :=
  { p with phase := .start, properties := [], draft := none, fence := none }

/-- Say what the next line is. -/
def classify (text : String) : Action Line := do
  let p ← get
  Line.read p.fence text p.number

/-- The phase that a line leads to; a line that leads nowhere is a failure. -/
def resolve (line : Line) : Action Phase := do
  let p ← get
  match p.phase.next? line.kind with
  | some phase => return phase
  | none =>
    set { p with phase := .failed }
    if p.phase = .start then throw (.noDeclaration line.number)
    else throw (.noTransition line.number line.kind p.phase)

/-- Move the growing property, if there is one, to the finished ones. -/
def finishProperty : Action Unit :=
  modify fun p => match p.draft with
    | none => p
    | some draft => { p with properties := p.properties ++ [draft.finish], draft := none }

/-- Finish the growing property and start the one that the line declares. -/
def startProperty (line : Line) : Action Unit := do
  finishProperty
  modify fun p =>
    { p with draft := some ⟨line.key.getD "", [line.value.getD ""], line.number⟩ }

/-- Add the line to the growing property. -/
def appendLine (line : Line) : Action Unit := do
  let p ← get
  match p.draft with
  | none => throw (.noDraft line.number)
  | some draft => set { p with draft := some (draft.append line.content) }

/-- Remember the run that closes the fence. -/
def openFence (line : Line) : Action Unit :=
  modify fun p => { p with fence := some (line.fence.getD ""), fenceNumber := line.number }

/-- Forget the run that closes the fence. -/
def closeFence : Action Unit :=
  modify fun p => { p with fence := none, fenceNumber := 0 }

/-- Carry out one effect for a line. -/
def perform (line : Line) : Effect → Action Unit
  | .startProperty => startProperty line
  | .appendLine => appendLine line
  | .openFence => openFence line
  | .closeFence => closeFence
  | .finishProperty => finishProperty

/-- Carry out effects one after the other. -/
def performAll (line : Line) : List Effect → Action Unit
  | [] => pure ()
  | effect :: effects => do
    perform line effect
    performAll line effects

/-- Take the parser to a phase and carry out its effects. -/
def enter (phase : Phase) (line : Line) : Action Unit := do
  let p ← get
  if p.debug then Logged.say 3 (p.phase.name ++ " -> " ++ phase.name)
  set { p with phase }
  match phase.effects? with
  | none => throw (.unreachable phase)
  | some effects => performAll line effects

/-- Take the next line, which has the given number. -/
def takeLine (number : Int) (text : String) : Action Unit := do
  modify fun p => { p with number }
  let line ← classify text
  let phase ← resolve line
  enter phase line

/-- Take lines one after the other, numbered from the given number on. -/
def takeLines (number : Int) : List String → Action Unit
  | [] => pure ()
  | text :: rest => do
    takeLine number text
    takeLines (number + 1) rest

/-- The end of the source. The last effect needs no line, so an empty one
    stands for it. -/
def finishInput : Action Unit := do
  let p ← get
  if p.phase.isAccepting then enter .ended ⟨.text, "", 0, none, none, none⟩
  else
    set { p with phase := .failed }
    if p.isOpen then throw (.unclosedFence p.fenceNumber p.number)
    else throw (.unexpectedEnd p.number)

/-- The keys that occur more than once, each once, in order of first occurrence. -/
def duplicates (keys : List String) : List String :=
  keys.eraseDups.filter fun key => 1 < keys.count key

/-- Refuse keys that were declared more than once. -/
def checkKeys : Action Unit := do
  let p ← get
  let twice := duplicates (p.properties.map Property.key)
  if !twice.isEmpty then throw (.duplicateKeys twice)

/-- Read the whole source. -/
def parse : Action (List Property) := do
  let source := Text.strip (← get).source
  if source.isEmpty then throw .blank
  modify reset
  let lines := Text.lines source
  Logged.say 2 ("Parsing codeblock of " ++ toString lines.length ++ " lines")
  takeLines 1 lines
  finishInput
  checkKeys
  let p ← get
  Logged.say 2 ("Parsed " ++ toString p.properties.length ++ " properties")
  return p.properties

/-- Starting afresh twice is starting afresh once. -/
theorem reset_reset (p : Parser) : p.reset.reset = p.reset := rfl

/-- A fresh parser has no fence open. -/
theorem isOpen_reset (p : Parser) : p.reset.isOpen = false := rfl

end Parser

/-- The properties that a text declares. -/
def parse (text : String) (debug : Bool := false) : Trace Error (List Property) :=
  ExceptT.mk do
    let (outcome, _) ← Parser.run { source := text, debug } Parser.parse
    return outcome

end Stencil.Block
