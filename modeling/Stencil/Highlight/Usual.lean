import Stencil.Highlight.Highlighter

/-!
# The Usual Highlighter

A highlighter to display sources with where nobody brings another.

It has four styles, which are looked up by their exact names, and no lexers for other
languages. Ampersands and angle brackets are replaced. Quotes mean nothing outside of
tags, so they can be kept as they are or replaced as well; both are usual.

Nothing that is proved of displayed sources rests on what is chosen here.

## Main definitions

* `Highlighter.usual`: The highlighter.
-/

namespace Stencil.Highlight

namespace Style

/-- Dark on a light ground. -/
def light : Style where
  background := "#f8f8f8"
  declarations :=
    [(.whitespace, "color: #BBB"), (.comment, "color: #3D7B7B; font-style: italic"),
      (.key, "color: #687822"), (.label, "color: #767600"), (.name, "color: #19177C"),
      (.builtin, "color: #008000"), (.operator, "color: #666"), (.string, "color: #BA2121"),
      (.backtick, "color: #BA2121"), (.doc, "color: #BA2121; font-style: italic")]

/-- Bright colours on a dark ground. -/
def monokai : Style where
  background := "#272822"
  declarations :=
    [(.whitespace, "color: #F8F8F2"), (.label, "color: #F8F8F2"), (.name, "color: #F8F8F2"),
      (.punctuation, "color: #F8F8F2"), (.comment, "color: #959077"), (.key, "color: #A6E22E"),
      (.builtin, "color: #A6E22E"), (.operator, "color: #FF4689"), (.string, "color: #E6DB74"),
      (.backtick, "color: #E6DB74"), (.doc, "color: #E6DB74")]

/-- Black and white. -/
def blackAndWhite : Style where
  background := "#ffffff"
  declarations :=
    [(.comment, "font-style: italic"), (.string, "font-style: italic"),
      (.backtick, "font-style: italic"), (.doc, "font-style: italic")]

/-- The colours of a terminal. -/
def vim : Style where
  background := "#000000"
  declarations :=
    [(.whitespace, "color: #CCC"), (.key, "color: #CCC"), (.label, "color: #CCC"),
      (.punctuation, "color: #CCC"), (.comment, "color: #000080"), (.name, "color: #00CDCD"),
      (.builtin, "color: #CD00CD"), (.operator, "color: #39C"), (.string, "color: #CD0000"),
      (.backtick, "color: #CD0000"), (.doc, "color: #CD0000")]

/-- The styles with their names. -/
def usual : List (String × Style) :=
  [("default", light), ("monokai", monokai), ("bw", blackAndWhite), ("vim", vim)]

end Style

/-- The characters that are replaced, quotes among them or not. -/
def usualEntities (quotes : Bool) : List (Char × List Char) :=
  [('&', "&amp;".toList), ('<', "&lt;".toList), ('>', "&gt;".toList)] ++
    if quotes then [('"', "&quot;".toList), ('\'', "&#39;".toList)] else []

/-- The highlighter, which replaces quotes or not. -/
def Highlighter.usual (quotes : Bool) : Highlighter where
  entities := usualEntities quotes
  style? name := Style.usual.lookup name
  frame style :=
    [⟨"div", [("class", "highlight"), ("style", "background: " ++ style.background)]⟩,
      ⟨"pre", [("style", "line-height: 125%;")]⟩]
  lexer? _ := none

end Stencil.Highlight
