import Stencil.Highlight.Language
import Stencil.Proofs.Highlight.BlockGrammar
import Stencil.Proofs.Highlight.Placeholders
import Stencil.Proofs.Highlight.TemplateGrammar

/-!
# Lossless Lexers

The lexers of codeblocks and of templates show every text as it is.

For each of the two, the loop over the rules as they are written comes to an end on
every text, and comes to the same lexemes however often it is run. The lexemes spell
the text, none of them is empty, and none is an error. Nothing is asked of the text:
it may be one that was put in order for display, or one as it stands.

What has to be known of the rules for that is little. They take what they show, so
nothing is lost (`Rule.Faithful`); they take something, so the loop does not stand
still (`Rule.Proper`); and wherever something is left one of them applies (`NoGaps`).

## Main definitions

* `Lossless`: Lexemes show a text as it is, and a lexer comes to them and to no others.

## Theorems

* `Rule.proper_of_pieces`, `Rule.proper_ofPieces`: Rules for pieces take something.
* `proper_blockRules`, `proper_templateRules`: The rules of the two lexers do.
* `noGaps_blockRules`, `noGaps_templateRules`: One of them applies everywhere.
* `lossless_lex`: The two lexers are lossless on every text.
-/

namespace Stencil.Highlight

open Pattern (Cursor CoverEach)

/-- Lexemes show a text as it is, and a lexer comes to them and to no others. The last field says
    that nothing was shown for want of a rule. -/
structure Lossless (rules : List WrittenRule) (s : List Char) (ls : List Lexeme) : Prop where
  lexes_iff : ∀ ms, Lexes rules (.start s) ms ↔ ms = ls
  spelling_eq : spelling ls = s
  of_mem : ∀ l ∈ ls, l.text ≠ [] ∧ l.kind ≠ .error

/-! ## Rules that take something -/

/-- Lexemes are pieces that are not empty. -/
theorem of_mem_lexemes {pieces : List (Kind × List Char)} {l : Lexeme} (h : l ∈ lexemes pieces) :
    l.text ≠ [] ∧ (l.kind, l.text) ∈ pieces := by
  rcases List.mem_map.1 h with ⟨p, hp, rfl⟩
  rw [List.mem_filter] at hp
  exact ⟨by simpa using hp.2, hp.1⟩

namespace Rule

/-- A rule that shows pieces is proper if they are never all empty. -/
theorem proper_of_pieces {rule : Rule} {kinds : List Kind}
    {taken : Bool → List Char → Option (List (List Char))}
    (hrule : ∀ atLineStart s, rule atLineStart s =
      (taken atLineStart s).map fun ts => lexemes (kinds.zip ts))
    (hkinds : .error ∉ kinds)
    (hlength : ∀ atLineStart s ts, taken atLineStart s = some ts → ts.length = kinds.length)
    (hne : ∀ atLineStart s ts, taken atLineStart s = some ts → ts.flatten ≠ []) :
    rule.Proper where
  spelling_ne_nil := by
    intro atLineStart s ls hls
    rw [hrule] at hls
    rcases Option.map_eq_some_iff.1 hls with ⟨ts, hts, rfl⟩
    rw [spelling_lexemes, flatMap_zip (hlength _ _ _ hts)]
    exact hne _ _ _ hts
  of_mem := by
    intro atLineStart s ls hls l hl
    rw [hrule] at hls
    rcases Option.map_eq_some_iff.1 hls with ⟨ts, -, rfl⟩
    rcases of_mem_lexemes hl with ⟨htext, hmem⟩
    -- The kind of a lexeme is one of the kinds that the rule has.
    refine ⟨htext, fun hkind => hkinds ?_⟩
    rw [← hkind]
    exact (List.of_mem_zip hmem).1

/-- A rule for plain patterns is proper if they cover no empty text. -/
theorem proper_ofPieces {pieces : List (Kind × Pattern)}
    (hplain : ∀ p ∈ pieces.map Prod.snd, p.isPlain = true)
    (hkinds : .error ∉ pieces.map Prod.fst)
    (hne : ∀ texts, CoverEach (pieces.map Prod.snd) texts → texts.flatten ≠ []) :
    (ofPieces pieces).Proper := by
  have hrule : ∀ atLineStart s, ofPieces pieces atLineStart s =
      (Pattern.pieces? (pieces.map Prod.snd) s).map fun ts =>
        lexemes ((pieces.map Prod.fst).zip ts) := fun _ _ => rfl
  refine proper_of_pieces hrule hkinds (fun _ s ts hts => ?_) fun _ s ts hts => ?_
  · rw [(Pattern.flatten_pieces hts).2, List.length_map, List.length_map]
  · exact hne ts (Pattern.coverEach_of_pieces? hplain hts).1

/-- A rule that shows a single piece is proper if it is never empty. -/
theorem proper_of_single {rule : Rule} {kind : Kind} (hkind : kind ≠ .error)
    (h : ∀ {atLineStart s ls}, rule atLineStart s = some ls →
      ∃ t, t ≠ [] ∧ ls = [⟨kind, t⟩]) : rule.Proper where
  spelling_ne_nil := by
    intro atLineStart s ls hls
    rcases h hls with ⟨t, ht, rfl⟩
    simpa using ht
  of_mem := by
    intro atLineStart s ls hls l hl
    rcases h hls with ⟨t, ht, rfl⟩
    rw [List.mem_singleton.1 hl]
    exact ⟨ht, hkind⟩

/-- A run that is taken is one piece. -/
theorem exists_of_ofRun {isPart : Char → Bool} {kind : Kind} {atLineStart : Bool} {s : List Char}
    {ls : List Lexeme} (h : ofRun isPart kind atLineStart s = some ls) :
    ∃ t, t ≠ [] ∧ ls = [⟨kind, t⟩] := by
  simp only [ofRun] at h
  split at h
  · cases h
  · rename_i hne
    exact ⟨_, fun hnil => hne (List.isEmpty_iff.2 hnil), (Option.some.inj h).symm⟩

/-- A character that is taken is one piece. -/
theorem exists_of_ofChar {isPart : Char → Bool} {kind : Kind} {atLineStart : Bool} {s : List Char}
    {ls : List Lexeme} (h : ofChar isPart kind atLineStart s = some ls) :
    ∃ t, t ≠ [] ∧ ls = [⟨kind, t⟩] := by
  unfold ofChar at h
  split at h
  · split at h
    · exact ⟨_, List.cons_ne_nil _ _, (Option.some.inj h).symm⟩
    · cases h
  · cases h

theorem proper_ofRun (isPart : Char → Bool) {kind : Kind} (hkind : kind ≠ .error) :
    (ofRun isPart kind).Proper :=
  proper_of_single hkind exists_of_ofRun

theorem proper_ofChar (isPart : Char → Bool) {kind : Kind} (hkind : kind ≠ .error) :
    (ofChar isPart kind).Proper :=
  proper_of_single hkind exists_of_ofChar

end Rule

/-! ## The rules for codeblocks -/

theorem proper_fenceRule : fenceRule.Proper := by
  refine Rule.proper_of_pieces fenceRule_eq (by decide) (fun _ _ _ => length_of_takenFence?)
    fun atLineStart s ts hts => ?_
  rcases exists_of_takenFence? hts with
    ⟨-, indent, run, rest, count, -, -, -, -, hleast, hmost, hpieces, -⟩
  rcases Option.map_eq_some_iff.1 hpieces with ⟨later, -, rfl⟩
  -- The run that opens the fence is among the pieces.
  rw [List.flatten_cons, List.flatten_cons]
  refine List.append_ne_nil_of_right_ne_nil _ (List.append_ne_nil_of_left_ne_nil ?_ _)
  rw [← List.length_pos_iff, List.length_take_of_le hmost]
  omega

theorem proper_declarationRule : declarationRule.Proper := by
  refine Rule.proper_of_pieces declarationRule_eq (by decide)
    (fun _ _ _ => length_of_takenDeclaration?) fun atLineStart s ts hts => ?_
  simp only [takenDeclaration?] at hts
  split at hts
  · rename_i hkey
    rcases Option.map_eq_some_iff.1 hts with ⟨later, -, rfl⟩
    rw [List.flatten_cons, List.flatten_cons]
    refine List.append_ne_nil_of_right_ne_nil _ (List.append_ne_nil_of_left_ne_nil ?_ _)
    rw [Bool.and_eq_true] at hkey
    simpa using hkey.2
  · cases hts

/-- The rules for codeblocks take something wherever they apply. -/
theorem proper_blockRules : ∀ rule ∈ blockRules, rule.Proper := by
  intro rule hrule
  simp only [blockRules, List.mem_cons, List.not_mem_nil, or_false] at hrule
  rcases hrule with rfl | rfl | rfl | rfl
  · exact proper_fenceRule
  · exact proper_declarationRule
  · exact Rule.proper_ofRun _ (by decide)
  · exact Rule.proper_ofChar _ (by decide)

/-- A character of a codeblock that starts nothing else is part of a line, or ends one. -/
theorem noGaps_blockRules : NoGaps blockRules := by
  intro atLineStart c s
  by_cases hc : c = '\n'
  · exact ⟨.ofChar (· == '\n') .whitespace, by simp [blockRules], by simp [Rule.ofChar, hc]⟩
  · exact ⟨.ofRun (· != '\n') .string, by simp [blockRules], by simp [Rule.ofRun, hc]⟩

/-! ## The rules for templates -/

theorem proper_commentRule : commentRule.Proper := by
  have hkind : Kind.comment ≠ .error := by decide
  refine Rule.proper_of_single hkind fun {atLineStart s ls} hls => ?_
  unfold commentRule at hls
  split at hls
  · rcases Option.map_eq_some_iff.1 hls with ⟨t, -, rfl⟩
    exact ⟨_, List.cons_ne_nil _ _, rfl⟩
  · cases hls

/-- What opens a placeholder is not empty. -/
theorem flatten_ne_nil_of_opening {ps : List Pattern} {texts : List (List Char)}
    (h : CoverEach (openingPieces.map Prod.snd ++ ps) texts) : texts.flatten ≠ [] := by
  rcases coverEach_openingPieces_iff.1 h with ⟨before, name, after, rest, rfl, -⟩
  exact List.cons_ne_nil _ _

theorem proper_holeRules : ∀ rule ∈ holeRules, rule.Proper := by
  intro rule hrule
  simp only [holeRules, List.mem_cons, List.not_mem_nil, or_false] at hrule
  rcases hrule with rfl | rfl | rfl
  · exact Rule.proper_ofPieces (by decide) (by decide) fun _ => flatten_ne_nil_of_opening
  · exact Rule.proper_ofPieces (by decide) (by decide) fun _ => flatten_ne_nil_of_opening
  · exact Rule.proper_ofPieces (by decide) (by decide) fun _ => flatten_ne_nil_of_opening

theorem proper_tagRule : tagRule.Proper := by
  refine Rule.proper_ofPieces (by decide) (by decide) fun texts h => ?_
  rcases Pattern.coverEach_cons_iff.1 h with ⟨t, rest, rfl, ⟨captured, ht⟩, -⟩
  dsimp only at ht
  rcases Pattern.covers_inOrder_char_iff.1 ht with ⟨u, rfl, -⟩
  exact List.cons_ne_nil _ _

/-- The rules for templates take something wherever they apply. -/
theorem proper_templateRules : ∀ rule ∈ templateRules, rule.Proper := by
  intro rule hrule
  have hcases : rule = commentRule ∨ rule ∈ holeRules ∨ rule = tagRule ∨
      rule = .ofRun (fun c => c != '\x7b' && c != '<') .text ∨
      rule = .ofChar (fun _ => true) .text := by
    simpa only [templateRules, holeRules, List.mem_cons, List.not_mem_nil, or_false, or_assoc]
      using hrule
  rcases hcases with rfl | hhole | rfl | rfl | rfl
  · exact proper_commentRule
  · exact proper_holeRules rule hhole
  · exact proper_tagRule
  · exact Rule.proper_ofRun _ (by decide)
  · exact Rule.proper_ofChar _ (by decide)

/-- A character of a template that starts nothing else is text. -/
theorem noGaps_templateRules : NoGaps templateRules := by
  intro atLineStart c s
  exact ⟨.ofChar (fun _ => true) .text, by simp [templateRules], rfl⟩

/-! ## The lexers -/

/-- The lexers of codeblocks and of templates are lossless and total. The loops over their rules
    as they are written come to an end on every text, as it stands or put in order for display,
    with the lexemes of the language and no others. These spell the text, and none of them is
    empty or an error.

    Nothing is asked of the text. At every place some rule applies, and all rules show what they
    take from its first character to its last, which is what keeps the text whole. -/
theorem lossless_lex (text : String) :
    Lossless writtenBlockRules text.toList (Language.codeblock.lex text.toList) ∧
      Lossless writtenBlockRules (tidy text.toList) (Language.codeblock.lexTidied text) ∧
      Lossless writtenTemplateRules text.toList (Language.template.lex text.toList) ∧
      Lossless writtenTemplateRules (tidy text.toList) (Language.template.lexTidied text) := by
  -- The same three facts about the rules are used for both languages.
  have hblock : ∀ s, Lossless writtenBlockRules s (Language.codeblock.lex s) := fun s =>
    ⟨fun _ => lexes_iff agree_blockRules blockRules_faithful proper_blockRules noGaps_blockRules,
      Language.codeblock.spelling_lex s,
      proper_lexFrom blockRules_faithful proper_blockRules noGaps_blockRules true s⟩
  have htemplate : ∀ s, Lossless writtenTemplateRules s (Language.template.lex s) := fun s =>
    ⟨fun _ => lexes_iff agree_templateRules templateRules_faithful proper_templateRules
        noGaps_templateRules,
      Language.template.spelling_lex s,
      proper_lexFrom templateRules_faithful proper_templateRules noGaps_templateRules true s⟩
  exact ⟨hblock _, hblock _, htemplate _, htemplate _⟩

end Stencil.Highlight
