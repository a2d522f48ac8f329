import Stencil.Highlight.Pen

/-!
# Displayed Sources

Sources as marked-up text.

Around the lines that the formatter writes stand the tags that the highlighter frames
a source with. An empty span comes before the first line, so that line feeds at the
start of a source are not taken for nothing, and a line feed after it all.

## Main definitions

* `page`: Lexemes as marked-up text.
* `highlight?`: A source as marked-up text.
-/

namespace Stencil.Highlight

/-- Lexemes as marked-up text. -/
def page (h : Highlighter) (style : Style) (ls : List Lexeme) : List Char :=
  (h.frame style).flatMap Text.Tag.opening ++ ((⟨"span", []⟩ : Text.Tag).around "").toList ++
    formatted h style ls ++ (h.frame style).reverse.flatMap Text.Tag.closing ++ ['\n']

/-- A source in a language as marked-up text in a style, if there is a style of the
    name. -/
def highlight? (h : Highlighter) (language style source : String) : Option String :=
  (h.style? style).map fun style =>
    .ofList (page h style ((Lexer.ofName h.lexer? language).lexTidied source))

end Stencil.Highlight
