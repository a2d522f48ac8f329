import Stencil.Highlight.TemplateRules
import Stencil.Proofs.Block.Patterns
import Stencil.Proofs.Highlight.Grammar

/-!
# The Grammar of Templates

The rules for templates as they are written, and that they are the rules.

The three forms of placeholders are rows of groups, and the rules for them take the
same patterns without groups, so they agree as all rows do. The rule for comments
looks for the first end of a comment on the line, which is what a lazy repetition
finds. What is left is taken character by character, by one rule for line feeds and
one for all other characters.

## Main definitions

* `writtenTemplateRules`: The rules for templates, as they are written.
* `commentForm`, `tagForm`: The patterns of comments and tags.

## Theorems

* `scan_throughClose`, `first_commentForm`: A search for the end of a comment, and for one.
* `agree_commentRule`, `agree_requiredRule`, `agree_optionalRule`, `agree_fallbackRule`,
  `agree_tagRule`: The patterns find what the rules take.
* `agree_templateRules`: The written rules are the rules.
-/

namespace Stencil.Highlight

open Pattern (Cursor)

/-! ## How the rules are written -/

/-- A comment on one line. -/
def writtenComment : WrittenRule :=
  ⟨"<!--.*?-->", .whole .comment⟩

/-- A placeholder that needs a value. -/
def writtenRequired : WrittenRule :=
  ⟨"(\\\x7b\\\x7b)(\\s*)([a-zA-Z\\-]+)(\\s*)(\\\x7d\\\x7d)",
    .groups [.punctuation, .whitespace, .name, .whitespace, .punctuation]⟩

/-- A placeholder that needs no value. -/
def writtenOptional : WrittenRule :=
  ⟨"(\\\x7b\\\x7b)(\\s*)([a-zA-Z\\-]+)(\\s*)(\\?)(\\s*)(\\\x7d\\\x7d)",
    .groups [.punctuation, .whitespace, .name, .whitespace, .operator, .whitespace, .punctuation]⟩

/-- A placeholder with a fallback. -/
def writtenFallback : WrittenRule :=
  ⟨"(\\\x7b\\\x7b)(\\s*)([a-zA-Z\\-]+)(\\s*)(\\|)(\\s*)([^\\\x7d]+)(\\\x7d\\\x7d)",
    .groups [.punctuation, .whitespace, .name, .whitespace, .operator, .whitespace, .string,
      .punctuation]⟩

/-- A tag. -/
def writtenTag : WrittenRule :=
  ⟨"<[^>]+>", .whole .builtin⟩

/-- The rules for templates, as they are written. -/
def writtenTemplateRules : List WrittenRule :=
  [writtenComment, writtenRequired, writtenOptional, writtenFallback, writtenTag,
    ⟨"[^\x7b<]+", .whole .text⟩, ⟨".", .whole .text⟩, ⟨"\\n", .whole .text⟩]

/-- The end of a comment. -/
def closeForm : Pattern :=
  .inOrder (['-', '-', '>'].map Pattern.char)

/-- A comment on one line. -/
def commentForm : Pattern :=
  .inOrder (['<', '!', '-', '-'].map Pattern.char ++
    .repeated (.one Block.lineSet) 0 none false :: ['-', '-', '>'].map Pattern.char)

/-- A tag. -/
def tagForm : Pattern :=
  .inOrder [.char '<', .run (.allBut [.char '>']) 1 none, .char '>']

theorem pattern_writtenComment : writtenComment.pattern = .ok commentForm := rfl

theorem pattern_writtenTag : writtenTag.pattern = .ok tagForm := rfl

/-! ## Comments -/

/-- A search for the end of a comment comes to the first on the line. The pattern does not go past
    a line feed, and neither does the rule. -/
theorem scan_throughClose {α : Type} (past s : List Char) (spans : List (Nat × Pattern.Span))
    (found : Cursor → α) :
    Pattern.scan Block.lineSet spans (fun d => closeForm.first d fun d => some (found d)) past s =
      (throughClose s).map fun t => found (Cursor.pass ⟨past, s, spans⟩ t) := by
  have hclose : ∀ d : Cursor, (closeForm.first d fun d => some (found d)) =
      if ['-', '-', '>'] <+: d.rest then some (found (d.pass ['-', '-', '>'])) else none :=
    fun d => Pattern.first_chars ['-', '-', '>'] d
  fun_induction throughClose s generalizing past with
  | case1 s => exact Pattern.scan_of_some ((hclose _).trans (if_pos (by simp)))
  | case2 s hno =>
      -- The line ends without one, and the scan does not pass the line feed.
      have hstarts : ¬ ['-', '-', '>'] <+: '\n' :: s := by simp
      rw [Pattern.scan, hclose, if_neg hstarts, Option.none_or, if_neg]
      · rfl
      · rw [Block.contains_lineSet]
        exact fun h => h rfl
  | case3 c s hno hc ih =>
      have hstarts : ¬ ['-', '-', '>'] <+: c :: s := by
        rintro ⟨rest, hrest⟩
        obtain ⟨rfl, rfl⟩ := List.cons.inj hrest
        exact hno rest rfl rfl
      rw [Pattern.scan, hclose, if_neg hstarts, Option.none_or,
        if_pos ((Block.contains_lineSet c).2 hc), ih, Option.map_map]
      congr 1
      funext t
      simp [Cursor.pass]
  | case4 => rfl

/-- A search for a comment is one for its end, behind its start. The start is four fixed
    characters, which are passed or not. -/
theorem first_commentForm (past s : List Char) (found : Cursor → α) :
    (commentForm.first ⟨past, s, []⟩ fun d => some (found d)) =
      if ['<', '!', '-', '-'] <+: s then
        (throughClose (s.drop 4)).map fun t =>
          found (Cursor.pass ⟨past, s, []⟩ (['<', '!', '-', '-'] ++ t))
      else none := by
  let c : Cursor := ⟨past, s, []⟩
  have hopen : (commentForm.first c fun d => some (found d)) =
      if ['<', '!', '-', '-'] <+: s then
        Pattern.scan Block.lineSet [] (fun d => closeForm.first d fun d => some (found d))
          (c.pass ['<', '!', '-', '-']).past (s.drop 4)
      else none := by
    refine (Pattern.first_inOrder_append _ _ _).trans ((Pattern.first_chars _ _).trans ?_)
    rw [Pattern.first_inOrder_cons, Pattern.first_lazy]
    rfl
  have hplace : ∀ t, Cursor.pass ⟨(c.pass ['<', '!', '-', '-']).past, s.drop 4, []⟩ t =
      c.pass (['<', '!', '-', '-'] ++ t) := by
    intro t
    rw [Cursor.pass, Cursor.pass, Cursor.pass, List.reverse_append, List.append_assoc,
      List.length_append, List.drop_drop]
    rfl
  rw [hopen, scan_throughClose]
  simp only [hplace]
  rfl

/-- The rule for comments, by how a text starts. -/
theorem commentRule_eq (atLineStart : Bool) (s : List Char) :
    commentRule atLineStart s =
      if ['<', '!', '-', '-'] <+: s then
        (throughClose (s.drop 4)).map fun t => [⟨.comment, ['<', '!', '-', '-'] ++ t⟩]
      else none := by
  by_cases hstart : ['<', '!', '-', '-'] <+: s
  · rw [if_pos hstart]
    rcases hstart with ⟨rest, rfl⟩
    rfl
  · rw [if_neg hstart]
    unfold commentRule
    split
    · rename_i rest
      exact absurd (List.prefix_append ['<', '!', '-', '-'] rest) hstart
    · rfl

/-- The pattern for comments finds what the rule for comments takes. -/
theorem agree_commentRule : Agree [commentRule] [writtenComment] := by
  refine agree_singleton pattern_writtenComment fun past s => ?_
  let found : Cursor → List Lexeme × Cursor := fun d =>
    (writtenComment.shown.lexemes commentForm ⟨past, s, []⟩ d, ⟨d.past, d.rest, []⟩)
  refine (first_commentForm past s found).trans ?_
  rw [commentRule_eq]
  by_cases hstart : ['<', '!', '-', '-'] <+: s
  · rw [if_pos hstart, if_pos hstart, Option.map_map]
    rcases hstart with ⟨rest, rfl⟩
    refine Option.map_congr fun t ht => ?_
    -- All that was passed is the comment, and it is shown as one lexeme.
    let all := ['<', '!', '-', '-'] ++ t
    rcases throughClose_isPrefix ht with ⟨behind, hbehind⟩
    have hs : ['<', '!', '-', '-'] ++ rest = all ++ behind := by
      rw [List.append_assoc, hbehind]
      rfl
    have hshown : (Shown.whole .comment).lexemes commentForm ⟨past, _, []⟩
        (Cursor.pass ⟨past, _, []⟩ all) = [⟨.comment, all⟩] := lexemes_whole .comment commentForm hs
    show ((Shown.whole .comment).lexemes commentForm _ _, _) = ([⟨.comment, all⟩], _)
    rw [hshown, spelling_cons, spelling_nil, List.append_nil]
    rfl
  · rw [if_neg hstart, if_neg hstart]
    rfl

/-! ## Placeholders and tags -/

/-- The pattern for placeholders that need a value finds what the rule for them takes. -/
theorem agree_requiredRule : Agree [requiredRule] [writtenRequired] :=
  agree_ofPieces (by decide) rfl rfl

theorem agree_optionalRule : Agree [optionalRule] [writtenOptional] :=
  agree_ofPieces (by decide) rfl rfl

theorem agree_fallbackRule : Agree [fallbackRule] [writtenFallback] :=
  agree_ofPieces (by decide) rfl rfl

/-- The pattern for tags finds what the rule for tags takes. -/
theorem agree_tagRule : Agree [tagRule] [writtenTag] := by
  refine agree_ofPiece (by decide) pattern_writtenTag rfl fun s d hd => ?_
  rcases Pattern.exists_covers_of_mem_results (p := tagForm) (by decide) hd with
    ⟨t, captured, hcovers, hrest, -⟩
  rcases Pattern.covers_inOrder_char_iff.1 hcovers with ⟨u, rfl, -⟩
  show Pattern.before (Cursor.start s).rest d.rest ≠ []
  rw [hrest, Pattern.before_append_self]
  exact List.cons_ne_nil _ _

/-! ## All rules -/

theorem contains_textSet (c : Char) :
    (CharSet.allBut [.char '\x7b', .char '<']).contains c = (c != '\x7b' && c != '<') := by
  simp [CharSet.allBut, CharSet.contains, contains_member_char, bne]

/-- The rules for templates are those that are written. -/
theorem agree_templateRules : Agree templateRules writtenTemplateRules := by
  -- The written rules come in the same order, and the last two of them are one rule here.
  have hrun : Agree [.ofRun (fun c => c != '\x7b' && c != '<') .text]
      [⟨"[^\x7b<]+", .whole .text⟩] :=
    agree_ofRun contains_textSet rfl rfl
  have hline : Agree [.ofChar (· != '\n') .text] [⟨".", .whole .text⟩] :=
    agree_ofChar contains_line rfl rfl
  have hnewline : Agree [.ofChar (· == '\n') .text] [⟨"\\n", .whole .text⟩] :=
    agree_ofChar contains_newline rfl rfl
  have hchar : Agree [.ofChar (fun _ => true) .text]
      [⟨".", .whole .text⟩, ⟨"\\n", .whole .text⟩] := by
    intro past s
    refine ((hline.append hnewline) past s).trans ?_
    -- A character is a line feed or it is not.
    cases s with
    | nil => rfl
    | cons c s =>
        by_cases hc : c = '\n'
        · simp [Rule.ofChar, hc]
        · simp [Rule.ofChar, hc]
  exact agree_commentRule.append (agree_requiredRule.append (agree_optionalRule.append
    (agree_fallbackRule.append (agree_tagRule.append (hrun.append hchar)))))

end Stencil.Highlight
