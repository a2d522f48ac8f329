import Stencil.Highlight.Highlighter

/-!
# A Formatter with a Pen

The lines of a displayed source, written by a formatter that takes one lexeme after the
other.

The formatter never looks back or ahead. It knows what it has written of the
line that it is on and which declaration the span has that it opened last. A
lexeme is cut at its line feeds. What comes before a line feed is added to the
line and the line is finished, its span closed; what comes after the last one is
added and the span is left open, for the next lexeme may have the same
declaration and then goes on in it. Before another declaration the span is
closed and a new one opened, and on the next line it is opened anew. A line that
something is on when all lexemes are written is finished in the end.

## Main definitions

* `Pen`: What a formatter has written, and what it remembers.
* `Pen.endLine`, `Pen.write`, `Pen.lexeme`: How it goes on.
* `formatted`: The lines that it writes.
-/

namespace Stencil.Highlight

/-- The tag of a span with a declaration. -/
def spanTag (declaration : String) : Text.Tag :=
  ⟨"span", [("style", declaration)]⟩

/-- What opens a span; characters without a declaration stand in none. -/
def openSpan (declaration? : Option String) : List Char :=
  declaration?.elim [] fun declaration => (spanTag declaration).opening

/-- What closes a span. -/
def closeSpan (declaration? : Option String) : List Char :=
  declaration?.elim [] fun declaration => (spanTag declaration).closing

/-- What a formatter has written, and what it remembers. -/
structure Pen where
  /-- The lines that are finished. -/
  lines : List Char := []
  /-- What is written of the line that it is on. -/
  line : List Char := []
  /-- The declaration of the span that was opened last. -/
  declaration? : Option String := none

namespace Pen

variable (h : Highlighter)

/-- Write what comes before a line feed, and finish the line. -/
def endLine (pen : Pen) (declaration? : Option String) (part : List Char) : Pen :=
  let own := openSpan declaration? ++ h.escaped part ++ closeSpan declaration?
  let rest :=
    if pen.line = [] then if part = [] then [] else own
    else if pen.declaration? ≠ declaration? ∧ part ≠ [] then closeSpan pen.declaration? ++ own
    else h.escaped part ++ closeSpan pen.declaration?
  { pen with lines := pen.lines ++ pen.line ++ rest ++ ['\n'], line := [] }

/-- Write what is on a line after the last line feed. -/
def write (pen : Pen) (declaration? : Option String) (part : List Char) : Pen :=
  if part = [] then pen
  else if pen.line ≠ [] ∧ pen.declaration? = declaration? then
    { pen with line := pen.line ++ h.escaped part }
  else
    let closed := if pen.line = [] then [] else closeSpan pen.declaration?
    { pen with
      line := pen.line ++ closed ++ openSpan declaration? ++ h.escaped part
      declaration? := declaration? }

/-- Write the parts of a lexeme, with line feeds between them. -/
def parts (pen : Pen) (declaration? : Option String) : List (List Char) → Pen
  | [] => pen
  | [part] => pen.write h declaration? part
  | part :: others => (pen.endLine h declaration? part).parts declaration? others

/-- Write a lexeme. -/
def lexeme (style : Style) (pen : Pen) (l : Lexeme) : Pen :=
  pen.parts h (style.declaration? l.kind) (l.text.splitOn '\n')

/-- All lines, the last one finished if something is on it. -/
def finish (pen : Pen) : List Char :=
  pen.lines ++ if pen.line = [] then [] else pen.line ++ closeSpan pen.declaration? ++ ['\n']

end Pen

/-- The lines that the formatter writes. -/
def formatted (h : Highlighter) (style : Style) (ls : List Lexeme) : List Char :=
  (ls.foldl (Pen.lexeme h style) {}).finish

end Stencil.Highlight
