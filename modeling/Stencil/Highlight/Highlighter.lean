import Stencil.Highlight.Language
import Stencil.Text.Markup

/-!
# Highlighters

What has to be lent for sources to be displayed.

How a source is taken apart is decided here, and so is in which order its lexemes are
written. All else belongs to whoever displays sources: which styles there are and what
they look like, with which tags a source is framed, how its characters are written in
marked-up text, and which lexers there are for other languages. These are data, and
nothing is said of them here. `IsSound`, where what is displayed is proved to be well
formed, says what is relied on.

## Main definitions

* `Style`: A background and the declarations for the kinds of lexemes.
* `Highlighter`: What is lent.
* `Highlighter.escaped`: A text as it is written.
-/

namespace Stencil.Highlight

/-- A background and the declarations for kinds of lexemes, in the language of style
    sheets. -/
structure Style where
  background : String
  declarations : List (Kind × String)
deriving DecidableEq, Repr

/-- The declaration for a kind, if it has one. -/
def Style.declaration? (style : Style) (kind : Kind) : Option String :=
  style.declarations.lookup kind

/-- What has to be lent for sources to be displayed. -/
structure Highlighter where
  /-- The characters that are replaced in sources, each with what stands for it. -/
  entities : List (Char × List Char)
  /-- The style of a name, if there is one. -/
  style? : String → Option Style
  /-- The tags around the lines of a source, from the outermost on. -/
  frame : Style → List Text.Tag
  /-- The lexer for another language, by the name of that. -/
  lexer? : String → Option Lexer

/-- A text as it is written. -/
def Highlighter.escaped (h : Highlighter) (s : List Char) : List Char :=
  s.flatMap (Text.replaced h.entities)

end Stencil.Highlight
