import Stencil.Highlight.Lexeme
import Stencil.Template.Form

/-!
# Lexemes of a Template

The rules by which a template is taken apart for display.

A template is text with comments, placeholders and tags in it. The three forms
of placeholders in double braces are taken apart into braces, blanks, the name,
the sign of the form and the fallback; comments and tags are single lexemes.
Comments end on the line on which they start. An angle bracket or a brace that
starts none of these is text.

## Main definitions

* `throughClose`: A text up to the end of a comment.
* `templateRules`: The rules.

## Theorems

* `templateRules_faithful`: The rules give back what they take.
-/

namespace Stencil.Highlight

/-- The text up to the first end of a comment, with it, if that comes before the
    end of the line. -/
def throughClose : List Char → Option (List Char)
  | '-' :: '-' :: '>' :: _ => some ['-', '-', '>']
  | c :: s => if c = '\n' then none else (throughClose s).map (c :: ·)
  | [] => none

/-- A comment on one line. -/
def commentRule : Rule := fun _ s =>
  match s with
  | '<' :: '!' :: '-' :: '-' :: s =>
    (throughClose s).map fun t => [⟨.comment, '<' :: '!' :: '-' :: '-' :: t⟩]
  | _ => none

/-- What a placeholder in double braces starts with. -/
def openingPieces : List (Kind × Pattern) :=
  [(.punctuation, .inOrder [.char '\x7b', .char '\x7b']), (.whitespace, .blanks),
   (.name, Template.Registry.namePattern), (.whitespace, .blanks)]

/-- What a placeholder in double braces ends with. -/
def closingPieces : List (Kind × Pattern) :=
  [(.punctuation, .inOrder [.char '\x7d', .char '\x7d'])]

/-- A placeholder that needs a value. -/
def requiredRule : Rule :=
  .ofPieces (openingPieces ++ closingPieces)

/-- A placeholder that needs no value. -/
def optionalRule : Rule :=
  .ofPieces (openingPieces ++ [(.operator, .char '?'), (.whitespace, .blanks)] ++ closingPieces)

/-- A placeholder with a fallback; blanks after the bar are not part of it
    unless it has nothing else. -/
def fallbackRule : Rule :=
  .ofPieces (openingPieces ++ [(.operator, .char '|'), (.whitespace, .blanks),
    (.string, Template.Registry.fallbackPattern)] ++ closingPieces)

/-- A tag: angle brackets with something between them. -/
def tagRule : Rule :=
  .ofPieces [(.builtin, .inOrder [.char '<', .run (.allBut [.char '>']) 1 none, .char '>'])]

/-- The rules for templates. -/
def templateRules : List Rule :=
  [commentRule, requiredRule, optionalRule, fallbackRule, tagRule,
   .ofRun (fun c => c != '\x7b' && c != '<') .text, .ofChar (fun _ => true) .text]

theorem throughClose_isPrefix {s t : List Char} (h : throughClose s = some t) : t <+: s := by
  fun_induction throughClose s generalizing t with
  | case1 s => cases h; exact ⟨s, rfl⟩
  | case2 s => cases h
  | case3 c s _ _ ih =>
      obtain ⟨u, hu, rfl⟩ := Option.map_eq_some_iff.1 h
      exact List.cons_prefix_cons.2 ⟨rfl, ih hu⟩
  | case4 => cases h

theorem commentRule_faithful : commentRule.Faithful := by
  intro _ s ls h
  unfold commentRule at h
  split at h
  · obtain ⟨t, ht, rfl⟩ := Option.map_eq_some_iff.1 h
    simpa using throughClose_isPrefix ht
  · cases h

/-- The rules for templates give back what they take. -/
theorem templateRules_faithful : ∀ rule ∈ templateRules, rule.Faithful := by
  intro rule hrule
  simp only [templateRules, List.mem_cons, List.not_mem_nil, or_false] at hrule
  rcases hrule with rfl | rfl | rfl | rfl | rfl | rfl | rfl
  · exact commentRule_faithful
  · exact Rule.ofPieces_faithful _
  · exact Rule.ofPieces_faithful _
  · exact Rule.ofPieces_faithful _
  · exact Rule.ofPieces_faithful _
  · exact Rule.ofRun_faithful _ _
  · exact Rule.ofChar_faithful _ _

end Stencil.Highlight
