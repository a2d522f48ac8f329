import Stencil.Highlight.BlockRules
import Stencil.Highlight.TemplateRules
import Stencil.Text.Case
import Stencil.Text.LineEnd

/-!
# Languages

The languages that a source can be displayed in, and the names they go by.

This library has lexers for two languages, that of codeblocks and that of templates.
Lexers for others can be lent to it and are asked for by their names; a name that nobody
knows stands for plain text. Before a source is taken apart it is put in order: a byte
order mark at its start is dropped, line ends are unified, line feeds at its two ends
are dropped, and one is added at the end.

## Main definitions

* `Lexer`: What takes a source apart.
* `Language`: The languages that have their lexers here.
* `Language.lex`: The lexemes of a source as it is.
* `tidy`: A source put in order.
* `Lexer.lexTidied`: The lexemes of a source put in order.
* `Lexer.ofName`: The lexer of a name.

## Theorems

* `Language.spelling_lex`: Lexemes spell the source, in every language.
* `tidy_eq`: What putting a text without carriage returns in order does.
* `endsLine_tidy`: A source put in order ends with a line feed.
-/

namespace Stencil.Highlight

/-- What takes a source apart, and what it is called. -/
structure Lexer where
  title : String
  lex : List Char → List Lexeme

/-- The languages that have their lexers here. -/
inductive Language where
  | codeblock | template | plain
deriving DecidableEq, Repr

namespace Language

/-- The names of a language, in lower case. -/
def names : Language → List String
  | codeblock => ["calloutforge", "codeblock"]
  | template => ["calloutforge-template", "cftemplate", "template"]
  | plain => []

/-- What a language is called. -/
def title : Language → String
  | codeblock => "Calloutforge Codeblock"
  | template => "Calloutforge Template"
  | plain => "Text only"

/-- The lexemes of a source as it is. -/
def lex : Language → List Char → List Lexeme
  | codeblock, s => Highlight.lex blockRules s
  | template, s => Highlight.lex templateRules s
  | plain, s => [⟨.text, s⟩]

/-- The lexer of a language. -/
def lexer (l : Language) : Lexer :=
  ⟨l.title, l.lex⟩

/-- Lexemes spell the source, in every language. -/
theorem spelling_lex (l : Language) (s : List Char) : spelling (l.lex s) = s := by
  cases l with
  | codeblock => exact Highlight.spelling_lex blockRules_faithful s
  | template => exact Highlight.spelling_lex templateRules_faithful s
  | plain => simp [lex]

end Language

/-- The text without the line feeds at its two ends. -/
def trimLines (s : List Char) : List Char :=
  ((s.dropWhile (· == '\n')).reverse.dropWhile (· == '\n')).reverse

/-- The text without a byte order mark at its start. -/
def dropMark : List Char → List Char
  | [] => []
  | c :: s => if c = '\ufeff' then s else c :: s

/-- A source put in order for display. -/
def tidy (s : List Char) : List Char :=
  trimLines (Text.unifyLineEnds (dropMark s)) ++ ['\n']

namespace Lexer

/-- The lexemes of a source put in order for display. -/
def lexTidied (l : Lexer) (s : String) : List Lexeme :=
  l.lex (tidy s.toList)

/-- The lexer of a name: that of a language, in whose names case does not matter, or
    else one that is lent, or else that of plain text. -/
def ofName (lent : String → Option Lexer) (name : String) : Lexer :=
  match [Language.codeblock, .template].find? (·.names.contains (Text.lowerCase name)) with
  | some language => language.lexer
  | none => (lent name).getD Language.plain.lexer

end Lexer

/-- The lexemes of a source in a language, put in order for display. -/
def Language.lexTidied (l : Language) (s : String) : List Lexeme :=
  l.lex (tidy s.toList)

theorem Language.lexTidied_lexer (l : Language) (s : String) : l.lexer.lexTidied s = l.lexTidied s :=
  rfl

/-- A language of this library is taken apart by its own lexer, whatever else is lent. -/
theorem Lexer.ofName_codeblock (lent : String → Option Lexer) :
    ofName lent "codeblock" = Language.codeblock.lexer := by
  have hfind : [Language.codeblock, .template].find?
      (·.names.contains (Text.lowerCase "codeblock")) = some .codeblock := by
    decide +kernel
  rw [ofName, hfind]

theorem mem_of_mem_dropMark {s : List Char} {c : Char} (h : c ∈ dropMark s) : c ∈ s := by
  cases s with
  | nil => exact h
  | cons d s =>
      rw [dropMark] at h
      split at h
      · exact List.mem_cons_of_mem _ h
      · exact h

theorem mem_of_mem_trimLines {s : List Char} {c : Char} (h : c ∈ trimLines s) : c ∈ s := by
  have hend := (List.dropWhile_sublist _).mem (List.mem_reverse.1 h)
  exact (List.dropWhile_sublist _).mem (List.mem_reverse.1 hend)

/-- A text without carriage returns loses characters at its ends only. -/
theorem tidy_eq {s : List Char} (hs : '\r' ∉ s) : tidy s = trimLines (dropMark s) ++ ['\n'] := by
  rw [tidy, Text.unifyLineEnds_eq_self fun h => hs (mem_of_mem_dropMark h)]

/-- A source put in order ends with a line feed. -/
theorem endsLine_tidy (s : List Char) : endsLine (tidy s) = true := by
  simp [endsLine, tidy]

end Stencil.Highlight
