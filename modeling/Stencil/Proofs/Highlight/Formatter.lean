import Mathlib.Data.List.Basic
import Stencil.Highlight.Page
import Stencil.Highlight.Usual
import Stencil.Proofs.Text.Tags
import Stencil.Text.Lines

/-!
# What the Formatter Writes

That a displayed source is well formed and shows the characters of its lexemes.

The formatter opens and closes spans wherever the declaration changes and at both ends
of each line, and a span that it has opened may stay open over many lexemes. So what it
has written at some point is in general not put together well: the last span of the line
has no end yet. One invariant carries the proof. All lines that are finished are put
together well, and what is written of the next line is as well, up to the opening tag of
its last span; after that tag come characters of that span only. Whatever the formatter
does next, it either goes on with these characters or closes the span, and the span that
it closes is the one that is open.

What the lines show are the characters of the lexemes, since the formatter writes each
part of a lexeme once and a line feed where a lexeme was cut. Only a last line without a
line feed gets one that it did not have, and a source put in order has no such line.

Of what is lent little is relied on: that characters are replaced by entities that stand
for them, ampersands and angle brackets among them, and that nothing in a style or a
frame ends a tag before its time.

## Main definitions

* `Highlighter.IsSound`: What is relied on.
* `IsSpan`: The tags that a style gives to spans.
* `IsPageTag`: The tags of a page.
* `Pen.Holds`: What the formatter has written so far.

## Theorems

* `Pen.Holds.write`, `Pen.Holds.endLine`: One step, within a line and at its end.
* `Pen.Holds.parts`, `Pen.Holds.lexemes`: A lexeme, and all of them.
* `writes_formatted`: The lines show the characters of the lexemes.
* `writes_page`: So does the page around them.
* `isSound_usual`: The usual highlighter can be relied on.
-/

namespace Stencil.Highlight

open Text (Tag Writes WritesWith)

/-! ## What is relied on -/

/-- What is relied on of a highlighter. It may escape more than is needed, with any entities that
    are known, and it may frame sources as it likes; but what it writes between and in tags must
    not be able to end them. -/
structure Highlighter.IsSound (h : Highlighter) : Prop where
  /-- Characters are replaced by entities that stand for them. -/
  known : ∀ entry ∈ h.entities, entry ∈ Text.knownEntities
  /-- The characters that mean something between tags are replaced. -/
  special : ∀ c ∈ ['&', '<', '>'], c ∈ h.entities.map Prod.fst
  /-- Sources are framed by elements of these names. -/
  frame : ∀ name style, h.style? name = some style →
    ∀ t ∈ h.frame style, t.IsPlain ∧ t.name ∈ ["div", "pre", "span"]
  /-- A declaration does not end the attribute that it is the value of. -/
  declarations : ∀ name style, h.style? name = some style →
    ∀ entry ∈ style.declarations, ∀ c ∈ entry.2.toList, c ∉ ['<', '>', '"']

/-- Whether quotes are replaced or kept, the usual highlighter can be relied on. So the conditions
    can be met, and by more than one way of escaping. -/
theorem isSound_usual (quotes : Bool) : (Highlighter.usual quotes).IsSound := by
  have hmem : ∀ {name style}, Style.usual.lookup name = some style →
      (name, style) ∈ Style.usual := by
    intro name style hlookup
    obtain ⟨before, after, heq, -⟩ := List.lookup_eq_some_iff.1 hlookup
    rw [heq]
    simp
  have hframe : ∀ entry ∈ Style.usual, ∀ t ∈ (Highlighter.usual quotes).frame entry.2,
      t.IsPlain ∧ t.name ∈ ["div", "pre", "span"] := by
    cases quotes <;> decide +kernel
  have hall : (Style.usual.all fun entry => entry.2.declarations.all fun declaration =>
      declaration.2.toList.all fun c => decide (c ∉ ['<', '>', '"'])) = true := by
    decide +kernel
  have hdeclarations : ∀ entry ∈ Style.usual, ∀ declaration ∈ entry.2.declarations,
      ∀ c ∈ declaration.2.toList, c ∉ ['<', '>', '"'] := by
    simpa only [List.all_eq_true, decide_eq_true_eq] using hall
  exact {
    known := by
      cases quotes <;> simp [Highlighter.usual, usualEntities, Text.knownEntities, Text.entities]
    special := by cases quotes <;> simp [Highlighter.usual, usualEntities]
    frame := fun _ _ hstyle => hframe _ (hmem hstyle)
    declarations := fun _ _ hstyle => hdeclarations _ (hmem hstyle) }

/-! ## Spans -/

/-- The tags that a style gives to spans. -/
def IsSpan (style : Style) (t : Tag) : Prop :=
  ∃ entry ∈ style.declarations, t = spanTag entry.2

/-- The style has the declaration, if there is one. -/
def Style.Has (style : Style) (declaration? : Option String) : Prop :=
  ∀ declaration, declaration? = some declaration → IsSpan style (spanTag declaration)

theorem Style.has_declaration? (style : Style) (kind : Kind) :
    style.Has (style.declaration? kind) := by
  intro declaration hdeclaration
  obtain ⟨before, after, heq, -⟩ := List.lookup_eq_some_iff.1 hdeclaration
  exact ⟨(kind, declaration), by rw [heq]; simp, rfl⟩

section Written

variable {h : Highlighter} {style : Style}

theorem escaped_append (s t : List Char) : h.escaped (s ++ t) = h.escaped s ++ h.escaped t :=
  List.flatMap_append

section Sound

variable (hsound : h.IsSound) {name : String} (hstyle : h.style? name = some style)

include hsound

theorem writes_escaped (s : List Char) : Writes [] (h.escaped s) s :=
  .replaced (Text.stands_replaced hsound.known hsound.special) s

/-- Of characters something is written. -/
theorem escaped_ne_nil {s : List Char} (hs : s ≠ []) : h.escaped s ≠ [] := by
  intro hnil
  rcases (writes_escaped hsound s).shows with ⟨pieces, hread, -, -, hshown⟩
  rw [hnil] at hread
  cases hread
  exact hs hshown.symm

include hstyle

/-- A span is put together well: its declaration does not end the tag early, and the characters in
    it hold no tags. -/
theorem writes_span {declaration? : Option String} (hhas : style.Has declaration?)
    (s : List Char) :
    WritesWith (IsSpan style) (openSpan declaration? ++ h.escaped s ++ closeSpan declaration?)
      s := by
  have hescaped := (writes_escaped hsound s).writesWith (IsSpan style)
  cases declaration? with
  | none =>
      rw [openSpan, closeSpan, Option.elim_none, Option.elim_none, List.nil_append, List.append_nil]
      exact hescaped
  | some declaration =>
      have hspan := hhas declaration rfl
      rcases hspan with ⟨entry, hentry, htag⟩
      have hplain : (spanTag declaration).IsPlain := by
        have hvalue := hsound.declarations _ _ hstyle entry hentry
        rw [htag]
        exact ⟨by simp [spanTag], by simp [spanTag], by simpa [spanTag] using hvalue⟩
      exact hescaped.element hplain ⟨entry, hentry, htag⟩

end Sound

end Written

/-! ## Steps -/

namespace Pen

/-- What the pen has written: finished lines, and of the next line its spans but the last
    one, and that one as far as it goes, still open. The lines show `before`, and what
    there is of the next one shows `line`. -/
structure Holds (h : Highlighter) (style : Style) (pen : Pen) (before line : List Char) :
    Prop where
  lines : WritesWith (IsSpan style) pen.lines before
  /-- It is one line. -/
  newline_notMem : '\n' ∉ line
  /-- The span that is open is one of the style. -/
  has : style.Has pen.declaration?
  /-- There is nothing on the line, or a last span. -/
  line : line = [] ∧ pen.line = [] ∨ ∃ written shown run, run ≠ [] ∧
    WritesWith (IsSpan style) written shown ∧ line = shown ++ run ∧
    pen.line = written ++ openSpan pen.declaration? ++ h.escaped run

variable {h : Highlighter} {style : Style} {pen : Pen} {before line part : List Char}
  {declaration? : Option String}

/-- What is needed to close the span that is open, if one is. At the start of a line none is. -/
def closing (pen : Pen) : List Char :=
  if pen.line = [] then [] else closeSpan pen.declaration?

theorem lines_write : (pen.write h declaration? part).lines = pen.lines := by
  unfold write
  split
  · rfl
  · split
    · rfl
    · rfl

theorem holds_empty : ({} : Pen).Holds h style [] [] where
  lines := Writes.nil.writesWith _
  newline_notMem := List.not_mem_nil
  has _ hnone := by cases hnone
  line := .inl ⟨rfl, rfl⟩

section Sound

variable (hsound : h.IsSound) {name : String} (hstyle : h.style? name = some style)

include hsound

theorem Holds.line_eq_nil_iff (hpen : pen.Holds h style before line) :
    pen.line = [] ↔ line = [] := by
  rcases hpen.line with ⟨hline, hnil⟩ | ⟨written, shown, run, hrun, -, hline, hopen⟩
  · exact iff_of_true hnil hline
  · rw [hopen, hline]
    exact iff_of_false
      (List.append_ne_nil_of_right_ne_nil _ (escaped_ne_nil hsound hrun))
      (List.append_ne_nil_of_right_ne_nil _ hrun)

include hstyle

/-- Once its last span is closed, a line is put together well. -/
theorem Holds.writes_closing (hpen : pen.Holds h style before line) :
    WritesWith (IsSpan style) (pen.line ++ pen.closing) line := by
  unfold closing
  by_cases hnil : pen.line = []
  · rw [if_pos hnil, hnil, (hpen.line_eq_nil_iff hsound).1 hnil]
    exact Writes.nil.writesWith _
  · rw [if_neg hnil]
    rcases hpen.line with ⟨-, hempty⟩ | ⟨written, shown, run, -, hwritten, hline, hopen⟩
    · exact absurd hempty hnil
    · rw [hopen, hline, List.append_assoc, List.append_assoc, ← List.append_assoc (openSpan _)]
      exact hwritten.append (writes_span hsound hstyle hpen.has run)

/-- Within a line the pen goes on with the part. It either lengthens the run of the open span or
    closes that span and opens one for the part, and the invariant has a form for both. -/
theorem Holds.write (hpen : pen.Holds h style before line) (hhas : style.Has declaration?)
    (hpart : '\n' ∉ part) :
    (pen.write h declaration? part).Holds h style before (line ++ part) := by
  have hnewline : '\n' ∉ line ++ part := by
    rw [List.mem_append, not_or]
    exact ⟨hpen.newline_notMem, hpart⟩
  have hlines : WritesWith (IsSpan style) (pen.write h declaration? part).lines before := by
    rw [lines_write]
    exact hpen.lines
  unfold Pen.write at hlines ⊢
  by_cases hempty : part = []
  · rw [if_pos hempty, hempty, List.append_nil]
    exact hpen
  · rw [if_neg hempty] at hlines ⊢
    by_cases hsame : pen.line ≠ [] ∧ pen.declaration? = declaration?
    · -- The part goes on in the span that is open.
      rw [if_pos hsame] at hlines ⊢
      rcases hpen.line with ⟨-, hnil⟩ | ⟨written, shown, run, hrun, hwritten, hline, hopen⟩
      · exact absurd hnil hsame.1
      · refine ⟨hlines, hnewline, hpen.has, .inr ⟨written, shown, run ++ part, ?_, hwritten, ?_, ?_⟩⟩
        · exact List.append_ne_nil_of_left_ne_nil hrun _
        · rw [hline, List.append_assoc]
        · rw [escaped_append, ← List.append_assoc, ← hopen]
    · -- It is the first of a span of its own, before which the line is put together well.
      rw [if_neg hsame] at hlines ⊢
      exact ⟨hlines, hnewline, hhas,
        .inr ⟨_, _, part, hempty, hpen.writes_closing hsound hstyle, rfl, rfl⟩⟩

omit hstyle in
/-- Finishing a line is writing the part and closing the span. -/
theorem lines_endLine : (pen.endLine h declaration? part).lines = pen.lines ++
    ((pen.write h declaration? part).line ++ (pen.write h declaration? part).closing) ++
      ['\n'] := by
  unfold endLine Pen.write closing
  by_cases hpart : part = []
  · subst hpart
    by_cases hline : pen.line = []
    · simp [hline]
    · simp [hline, Highlighter.escaped]
  · have hescaped := escaped_ne_nil hsound hpart
    by_cases hline : pen.line = []
    · simp [hline, hpart, hescaped]
    · by_cases hsame : pen.declaration? = declaration?
      · simp [hline, hpart, hsame]
      · simp [hline, hpart, hsame]

/-- A finished line is put together well, and nothing is on the next one. The line feed stands
    behind the end of the span, so no span goes over a line. -/
theorem Holds.endLine (hpen : pen.Holds h style before line) (hhas : style.Has declaration?)
    (hpart : '\n' ∉ part) :
    (pen.endLine h declaration? part).Holds h style (before ++ (line ++ part) ++ ['\n']) [] where
  lines := by
    rw [lines_endLine hsound]
    exact (hpen.lines.append ((hpen.write hsound hstyle hhas hpart).writes_closing hsound
      hstyle)).append (Writes.newline.writesWith _)
  newline_notMem := List.not_mem_nil
  has := hpen.has
  line := .inl ⟨rfl, rfl⟩

/-! ## Lexemes -/

/-- The parts of a lexeme are written with the line feeds that they were cut at. All but the last
    one finish a line. -/
theorem Holds.parts (hhas : style.Has declaration?) {others : List (List Char)}
    (hpen : pen.Holds h style before line) (hparts : ∀ p ∈ part :: others, '\n' ∉ p) :
    ∃ before' line', (pen.parts h declaration? (part :: others)).Holds h style before' line' ∧
      before' ++ line' = before ++ line ++ ['\n'].intercalate (part :: others) := by
  induction others generalizing pen before line part with
  | nil =>
      refine ⟨_, _, hpen.write hsound hstyle hhas (hparts part List.mem_cons_self), ?_⟩
      rw [List.intercalate_singleton, List.append_assoc]
  | cons other others ih =>
      have hended := hpen.endLine hsound hstyle hhas (hparts part List.mem_cons_self)
      rcases ih hended fun p hp => hparts p (List.mem_cons_of_mem _ hp) with
        ⟨before', line', hholds, heq⟩
      rw [Pen.parts]
      · refine ⟨before', line', hholds, ?_⟩
        rw [heq, List.intercalate_cons_cons]
        simp
      · exact fun hnil => List.cons_ne_nil _ _ hnil

/-- From a pen that holds a line, lexemes are written as what they spell. -/
theorem Holds.lexemes (ls : List Lexeme) (hpen : pen.Holds h style before line) :
    ∃ before' line', (ls.foldl (lexeme h style) pen).Holds h style before' line' ∧
      before' ++ line' = before ++ line ++ spelling ls := by
  induction ls generalizing pen before line with
  | nil => exact ⟨before, line, hpen, by rw [spelling_nil, List.append_nil]⟩
  | cons l ls ih =>
      -- A text is cut into one part at least, and joined again it is the text.
      have hparts : ∀ p ∈ l.text.splitOn '\n', '\n' ∉ p := fun p hp =>
        Text.notMem_of_mem_splitOn hp
      have hjoin : ['\n'].intercalate (l.text.splitOn '\n') = l.text := List.intercalate_splitOn _
      rcases hsplit : l.text.splitOn '\n' with _ | ⟨part, others⟩
      · exact absurd hsplit (List.splitOn_ne_nil _ _)
      · rw [hsplit] at hparts hjoin
        rcases hpen.parts hsound hstyle (style.has_declaration? l.kind) hparts with
          ⟨before', line', hholds, heq⟩
        rw [hjoin] at heq
        rw [List.foldl_cons, lexeme, hsplit]
        rcases ih hholds with ⟨before'', line'', hlast, hlasteq⟩
        refine ⟨before'', line'', hlast, ?_⟩
        rw [hlasteq, heq, spelling_cons, List.append_assoc]

end Sound

end Pen

/-! ## Pages -/

/-- The tags of a page: those of the frame, an empty span, and spans of the style. None of them is
    taken from the source. -/
def IsPageTag (h : Highlighter) (style : Style) (t : Tag) : Prop :=
  t ∈ h.frame style ∨ t = ⟨"span", []⟩ ∨ IsSpan style t

section Sound

variable {h : Highlighter} {style : Style} (hsound : h.IsSound) {name : String}
  (hstyle : h.style? name = some style)

include hsound hstyle

/-- The lines show the characters of the lexemes, if these end with a line feed. Otherwise the
    formatter would add one, and show more than there is. -/
theorem writes_formatted {ls : List Lexeme} (hends : endsLine (spelling ls) = true) :
    WritesWith (IsSpan style) (formatted h style ls) (spelling ls) := by
  rcases Pen.Holds.lexemes hsound hstyle ls Pen.holds_empty with ⟨before, line, hpen, heq⟩
  rw [List.append_nil, List.nil_append] at heq
  have hline : line = [] := by
    -- Otherwise the last character would be one of the line, which holds no line feed.
    refine Decidable.byContradiction fun hne => ?_
    rw [endsLine, ← heq, List.getLast?_append_of_ne_nil _ hne, beq_iff_eq] at hends
    exact hpen.newline_notMem (List.mem_of_getLast? hends)
  rw [hline, List.append_nil] at heq
  rw [formatted, Pen.finish, if_pos ((hpen.line_eq_nil_iff hsound).2 hline), List.append_nil, ← heq]
  exact hpen.lines

/-- A page shows the characters of the lexemes, if these end with a line feed, and a line
    feed after them. -/
theorem writes_page {ls : List Lexeme} (hends : endsLine (spelling ls) = true) :
    WritesWith (IsPageTag h style) (page h style ls) (spelling ls ++ ['\n']) := by
  have hempty : WritesWith (IsPageTag h style) ((⟨"span", []⟩ : Tag).around "").toList [] := by
    rw [Tag.toList_around]
    exact (Writes.nil.writesWith _).element (by decide) (.inr (.inl rfl))
  have hlines := (writes_formatted hsound hstyle hends).mono fun t ht =>
    (.inr (.inr ht) : IsPageTag h style t)
  have hframe : ∀ t ∈ h.frame style, t.IsPlain ∧ IsPageTag h style t := fun t ht =>
    ⟨(hsound.frame _ _ hstyle t ht).1, .inl ht⟩
  have hpage := ((hempty.append hlines).elements hframe).append (Writes.newline.writesWith _)
  rw [page]
  simpa [List.append_assoc] using hpage

theorem name_of_isPageTag {t : Tag} (ht : IsPageTag h style t) :
    t.name ∈ ["div", "pre", "span"] := by
  rcases ht with hframe | rfl | ⟨entry, -, rfl⟩
  · exact (hsound.frame _ _ hstyle t hframe).2
  · simp
  · simp [spanTag]

end Sound

end Stencil.Highlight
