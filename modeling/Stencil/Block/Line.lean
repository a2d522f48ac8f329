import Stencil.Log.Message
import Stencil.Text.Blank

/-!
# Lines of a Codeblock

What a single line of a codeblock is.

A line is looked at without its outer blanks. If a fence is open and the line
is exactly the run of backticks that opened it, the line closes the fence.
Otherwise it is a declaration if it is a key, a colon and a value; the opening
of a fence if it is three or more backticks, perhaps with a word after them;
and plain text in every other case. The kinds are tried in this order, so a
line that could be two things is the first of them.

What a kind captures (key and value, or the run of backticks) stands in
fields of the line that are empty for the other kinds.

## Main definitions

* `LineKind`: The four kinds of lines.
* `Line`: A line with its kind and what was captured.
* `declaration?`: The key and the value of a declaration.
* `fenceRun?`: The run of backticks that opens a fence.
* `Line.classify`: The line that a text is.

## Theorems

* `not_declaration_of_fenceRun`: No text is a declaration and opens a fence.
-/

namespace Stencil.Block

/-- The kinds of lines, in the order in which they are tried. -/
inductive LineKind where
  | fenceClose | declaration | fenceOpen | text
deriving DecidableEq, Repr

namespace LineKind

/-- All kinds, in the order in which they are tried. -/
def all : List LineKind :=
  [fenceClose, declaration, fenceOpen, text]

/-- The name of a kind in messages. -/
def name : LineKind → String
  | fenceClose => "fence-close"
  | declaration => "property-start"
  | fenceOpen => "fence-open"
  | text => "text"

end LineKind

/-- A line with its kind and what was captured. -/
structure Line where
  kind : LineKind
  /-- The text without its outer blanks. -/
  content : String := ""
  /-- The number of the line. -/
  number : Int := 0
  /-- The key of a declaration. -/
  key : Option String := none
  /-- The value that a declaration starts with. -/
  value : Option String := none
  /-- The run of backticks that opens or closes a fence. -/
  fence : Option String := none
deriving DecidableEq, Repr

/-- Keys are made of lower case ASCII letters and dashes. -/
def isKeyChar (c : Char) : Bool :=
  c.isLower || c == '-'

/-- Fences are made of backticks. -/
def isFenceChar (c : Char) : Bool :=
  c == '\x60'

/-- The key and the value of a declaration: a key, perhaps blanks, a colon, and
    a value that has no line feed once its leading blanks are dropped. -/
def declaration? (s : List Char) : Option (List Char × List Char) :=
  match Text.trimStart (s.dropWhile isKeyChar) with
  | ':' :: rest =>
    let key := s.takeWhile isKeyChar
    let value := Text.trimStart rest
    if key.isEmpty || value.contains '\n' then none else some (key, value)
  | _ => none

/-- The run of backticks that opens a fence: all the backticks that the text
    starts with, at least three, and then at most one word. -/
def fenceRun? (s : List Char) : Option (List Char) :=
  let run := s.takeWhile isFenceChar
  let info := Text.trim (s.dropWhile isFenceChar)
  if 3 ≤ run.length && !info.any Text.isBlank then some run else none

/-- The line that a text is; `fence` is the run that closes the open fence, if
    one is open. -/
def Line.classify (fence : Option String) (text : String) (number : Int) : Line :=
  let content := Text.strip text
  if fence = some content then
    { kind := .fenceClose, content, number, fence }
  else match declaration? content.toList with
    | some (key, value) =>
      { kind := .declaration, content, number, key := some (.ofList key),
        value := some (.ofList value) }
    | none =>
      match fenceRun? content.toList with
      | some run => { kind := .fenceOpen, content, number, fence := some (.ofList run) }
      | none => { kind := .text, content, number }

/-- Classify a text and say what it is. -/
def Line.read (fence : Option String) (text : String) (number : Int) : Logged Line := do
  let line := Line.classify fence text number
  Logged.say 3 ("Line " ++ toString number ++ ": " ++ line.kind.name)
  return line

@[simp] theorem Line.value_read (fence : Option String) (text : String) (number : Int) :
    (Line.read fence text number).value = Line.classify fence text number := rfl

/-- The content of a line is its text without outer blanks, whatever its kind. -/
@[simp] theorem Line.content_classify (fence : Option String) (text : String) (number : Int) :
    (Line.classify fence text number).content = Text.strip text := by
  unfold Line.classify
  dsimp only
  split
  · rfl
  · split
    · rfl
    · split <;> rfl

@[simp] theorem Line.number_classify (fence : Option String) (text : String) (number : Int) :
    (Line.classify fence text number).number = number := by
  unfold Line.classify
  dsimp only
  split
  · rfl
  · split
    · rfl
    · split <;> rfl

/-- A text that starts with a backtick has no key. -/
theorem declaration?_fenceChar (s : List Char) : declaration? ('\x60' :: s) = none := by
  have hk : isKeyChar '\x60' = false := by decide
  have hb : Text.isBlank '\x60' = false := by decide
  simp [declaration?, Text.trimStart, hk, hb]

/-- No text is a declaration and opens a fence. -/
theorem not_declaration_of_fenceRun {s run : List Char} (h : fenceRun? s = some run) :
    declaration? s = none := by
  cases s with
  | nil => rfl
  | cons c s =>
      by_cases hc : isFenceChar c
      · have : c = '\x60' := by simpa [isFenceChar] using hc
        rw [this]
        exact declaration?_fenceChar s
      · simp [fenceRun?, hc] at h

end Stencil.Block
