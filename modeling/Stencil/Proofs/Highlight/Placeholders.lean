import Stencil.Highlight.Language
import Stencil.Proofs.Pattern.Pieces
import Stencil.Proofs.Template.Holes

/-!
# Placeholders for Display

The lexemes of a template show the placeholders that filling it would fill.

Two readings of a template meet here. The one searches for the next placeholder
and calls everything before it text. The other stands at a place, tries its
rules, and takes text up to the next brace if none applies. Between them stands
`Holes`: a rule for placeholders applies where a placeholder is written, takes all
of it and shows its parts, and text is taken only as far as no further placeholder
can start. The lexemes therefore keep in step with the placeholders, each step of
the lexer by one of the two ways to read on.

Before the lexer comes to it a template is put in order, other than it is put in
order for filling. Both change nothing but its ends.

## Main definitions

* `parts`: Names, signs and fallbacks among lexemes.
* `Template.Placeholder.parts`: The name of a placeholder, its sign and its fallback.

## Theorems

* `exists_written_of_holeRule`: A rule for placeholders takes a placeholder.
* `exists_holeRule_of_startsHole`: Where one is written, a rule applies.
* `lexemesAt_templateRules`: What stands at a place without an angle bracket.
* `parts_lexFrom`: Lexemes show the placeholders in a text.
* `parts_lexTidied`: The lexemes of a template show the placeholders among its tokens.
-/

namespace Stencil

namespace Highlight

open Template (Placeholder StartsHole Holes IsName Padded Inside)
open Pattern (CoverEach)

/-- Whether a piece is the name of a placeholder, its sign, or its fallback. Braces and blanks are
    the pieces that tell nothing about it. -/
def Kind.isPart : Kind → Bool
  | name | operator | string => true
  | _ => false

/-- A lexeme without the blanks around a fallback. On display the blanks behind it belong to it. -/
def Lexeme.stripped (l : Lexeme) : Lexeme :=
  if l.kind = .string then { l with text := Text.trim l.text } else l

/-- Names, signs and fallbacks among lexemes. -/
def parts (ls : List Lexeme) : List Lexeme :=
  (ls.filter (·.kind.isPart)).map Lexeme.stripped

end Highlight

/-- The name of a placeholder, its sign and its fallback, as far as it has them. -/
def Template.Placeholder.parts (p : Placeholder) : List Highlight.Lexeme :=
  ⟨.name, p.name.toList⟩ :: match p.rule with
    | .required => []
    | .optional => [⟨.operator, ['?']⟩]
    | .fallback text => [⟨.operator, ['|']⟩, ⟨.string, text.toList⟩]

namespace Highlight

open Template (Placeholder StartsHole Holes IsName Padded Inside)
open Pattern (CoverEach)

@[simp] theorem parts_nil : parts [] = [] := rfl

@[simp] theorem parts_append (ls ms : List Lexeme) : parts (ls ++ ms) = parts ls ++ parts ms := by
  simp [parts]

/-- Braces and blanks are no parts. -/
theorem parts_lexemes_cons {kind : Kind} (hkind : kind.isPart = false) (t : List Char)
    (pieces : List (Kind × List Char)) :
    parts (lexemes ((kind, t) :: pieces)) = parts (lexemes pieces) := by
  by_cases ht : t = []
  · simp [lexemes, ht]
  · simp [lexemes, ht, parts, hkind]

theorem parts_lexemes_cons_part {kind : Kind} (hkind : kind.isPart = true) {t : List Char}
    (ht : t ≠ []) (pieces : List (Kind × List Char)) :
    parts (lexemes ((kind, t) :: pieces)) =
      Lexeme.stripped ⟨kind, t⟩ :: parts (lexemes pieces) := by
  simp [lexemes, ht, parts, hkind]

/-! ## What the rules cover -/

theorem coverEach_openingPieces_iff {ps : List Pattern} {texts : List (List Char)} :
    CoverEach (openingPieces.map Prod.snd ++ ps) texts ↔
      ∃ before name after rest, texts = ['\x7b', '\x7b'] :: before :: name :: after :: rest ∧
        (∀ c ∈ before, Text.isBlank c = true) ∧ IsName name ∧
        (∀ c ∈ after, Text.isBlank c = true) ∧ CoverEach ps rest := by
  simp only [openingPieces, List.map_cons, List.map_nil, List.cons_append, List.nil_append,
    Pattern.coverEach_cons_iff, Pattern.covers_inOrder_char_iff, Pattern.covers_inOrder_nil_iff,
    Pattern.covers_blanks_iff, Template.Registry.covers_namePattern_iff]
  constructor
  · rintro ⟨_, _, rfl, ⟨_, _, rfl, _, rfl, rfl, rfl⟩, before, _, rfl, ⟨_, hbefore, rfl⟩, name, _,
      rfl, ⟨_, hname, rfl⟩, after, rest, rfl, ⟨_, hafter, rfl⟩, hrest⟩
    exact ⟨before, name, after, rest, rfl, hbefore, hname, hafter, hrest⟩
  · rintro ⟨before, name, after, rest, rfl, hbefore, hname, hafter, hrest⟩
    exact ⟨_, _, rfl, ⟨_, _, rfl, _, rfl, rfl, rfl⟩, before, _, rfl, ⟨_, hbefore, rfl⟩, name, _,
      rfl, ⟨_, hname, rfl⟩, after, rest, rfl, ⟨_, hafter, rfl⟩, hrest⟩

theorem coverEach_closingPieces_iff {texts : List (List Char)} :
    CoverEach (closingPieces.map Prod.snd) texts ↔ texts = [['\x7d', '\x7d']] := by
  simp only [closingPieces, List.map_cons, List.map_nil, Pattern.coverEach_cons_iff,
    Pattern.covers_inOrder_char_iff, Pattern.covers_inOrder_nil_iff, Pattern.coverEach_nil_iff]
  constructor
  · rintro ⟨_, _, rfl, ⟨_, _, rfl, _, rfl, rfl, rfl⟩, rfl⟩
    rfl
  · rintro rfl
    exact ⟨_, _, rfl, ⟨_, _, rfl, _, rfl, rfl, rfl⟩, rfl⟩

/-- The rules for placeholders. -/
def holeRules : List Rule :=
  [requiredRule, optionalRule, fallbackRule]

/-- A rule for pieces takes texts that its patterns cover, in order, and shows each of them with
    its kind. -/
theorem coverEach_of_ofPieces {pieces : List (Kind × Pattern)}
    (hplain : ∀ piece ∈ pieces, piece.2.isPlain = true) {atLineStart : Bool} {s : List Char}
    {ls : List Lexeme} (h : Rule.ofPieces pieces atLineStart s = some ls) :
    ∃ texts, CoverEach (pieces.map Prod.snd) texts ∧
      ls = lexemes ((pieces.map Prod.fst).zip texts) := by
  rcases Option.map_eq_some_iff.1 h with ⟨texts, htexts, rfl⟩
  refine ⟨texts, (Pattern.coverEach_of_pieces? (fun p hp => ?_) htexts).1, rfl⟩
  rcases List.mem_map.1 hp with ⟨piece, hpiece, rfl⟩
  exact hplain piece hpiece

/-- A rule for pieces applies where texts stand that its patterns cover. -/
theorem isSome_ofPieces {pieces : List (Kind × Pattern)} (texts : List (List Char))
    (h : CoverEach (pieces.map Prod.snd) texts) (atLineStart : Bool) {s : List Char}
    (hs : texts.flatten <+: s) : (Rule.ofPieces pieces atLineStart s).isSome = true := by
  rw [Rule.ofPieces, Option.isSome_map]
  exact Pattern.isSome_pieces?_of_coverEach h hs

theorem coverEach_optional_iff {texts : List (List Char)} :
    CoverEach ([Pattern.char '?', .blanks] ++ closingPieces.map Prod.snd) texts ↔
      ∃ last, texts = [['?'], last, ['\x7d', '\x7d']] ∧ ∀ c ∈ last, Text.isBlank c = true := by
  simp only [List.cons_append, List.nil_append, Pattern.coverEach_cons_iff, Pattern.covers_char_iff,
    Pattern.covers_blanks_iff, coverEach_closingPieces_iff]
  constructor
  · rintro ⟨_, _, rfl, ⟨_, rfl, rfl⟩, last, _, rfl, ⟨_, hlast, rfl⟩, rfl⟩
    exact ⟨last, rfl, hlast⟩
  · rintro ⟨last, rfl, hlast⟩
    exact ⟨_, _, rfl, ⟨_, rfl, rfl⟩, last, _, rfl, ⟨_, hlast, rfl⟩, rfl⟩

theorem coverEach_fallback_iff {texts : List (List Char)} :
    CoverEach ([Pattern.char '|', .blanks, Template.Registry.fallbackPattern] ++
        closingPieces.map Prod.snd) texts ↔
      ∃ before text, texts = [['|'], before, text, ['\x7d', '\x7d']] ∧
        (∀ c ∈ before, Text.isBlank c = true) ∧ text ≠ [] ∧ '\x7d' ∉ text := by
  simp only [List.cons_append, List.nil_append, Pattern.coverEach_cons_iff, Pattern.covers_char_iff,
    Pattern.covers_blanks_iff, Template.Registry.covers_fallbackPattern_iff,
    coverEach_closingPieces_iff]
  constructor
  · rintro ⟨_, _, rfl, ⟨_, rfl, rfl⟩, before, _, rfl, ⟨_, hbefore, rfl⟩, text, _, rfl,
      ⟨_, htext, rfl⟩, rfl⟩
    exact ⟨before, text, rfl, hbefore, htext⟩
  · rintro ⟨before, text, rfl, hbefore, htext⟩
    exact ⟨_, _, rfl, ⟨_, rfl, rfl⟩, before, _, rfl, ⟨_, hbefore, rfl⟩, text, _, rfl,
      ⟨_, htext, rfl⟩, rfl⟩

/-- What opens a placeholder shows its name. -/
theorem parts_lexemes_opening {before name after : List Char} (hname : IsName name)
    (pieces : List (Kind × List Char)) :
    parts (lexemes ((.punctuation, ['\x7b', '\x7b']) :: (.whitespace, before) :: (.name, name) ::
      (.whitespace, after) :: pieces)) = ⟨.name, name⟩ :: parts (lexemes pieces) := by
  rw [parts_lexemes_cons rfl, parts_lexemes_cons rfl, parts_lexemes_cons_part rfl hname.ne_nil,
    parts_lexemes_cons rfl]
  rfl

/-- A rule for placeholders takes a placeholder and shows its parts. The pieces of a match are
    those that the patterns cover, so this goes through the three rules piece by piece. -/
theorem exists_written_of_holeRule {rule : Rule} (hrule : rule ∈ holeRules) {atLineStart : Bool}
    {s : List Char} {ls : List Lexeme} (h : rule atLineStart s = some ls) :
    ∃ p : Placeholder, p.Written (spelling ls) ∧ parts ls = p.parts := by
  simp only [holeRules, List.mem_cons, List.not_mem_nil, or_false] at hrule
  rcases hrule with rfl | rfl | rfl
  · -- A name that is required.
    rcases coverEach_of_ofPieces (by decide) h with ⟨texts, hcover, rfl⟩
    rw [List.map_append, coverEach_openingPieces_iff] at hcover
    rcases hcover with ⟨before, name, after, rest, rfl, hbefore, hname, hafter, hrest⟩
    rw [coverEach_closingPieces_iff] at hrest
    subst hrest
    refine ⟨⟨.ofList name, .required⟩, ⟨_, .required hname ⟨hbefore, hafter⟩, ?_⟩, ?_⟩
    · simp [Template.inBraces, openingPieces, closingPieces]
    · refine (parts_lexemes_opening hname _).trans ?_
      rw [Placeholder.parts, String.toList_ofList]
      rfl
  · -- A name that is optional, with blanks on both sides of the question mark.
    rcases coverEach_of_ofPieces (by decide) h with ⟨texts, hcover, rfl⟩
    rw [List.append_assoc, List.map_append, coverEach_openingPieces_iff] at hcover
    rcases hcover with ⟨before, name, after, rest, rfl, hbefore, hname, hafter, hrest⟩
    rcases coverEach_optional_iff.1 hrest with ⟨last, rfl, hlast⟩
    refine ⟨⟨.ofList name, .optional⟩, ⟨_, .optional hname ⟨hbefore, hafter⟩ hlast, ?_⟩, ?_⟩
    · simp [Template.inBraces, openingPieces, closingPieces]
    · refine (parts_lexemes_opening hname
        [(.operator, ['?']), (.whitespace, last), (.punctuation, ['\x7d', '\x7d'])]).trans ?_
      rw [Placeholder.parts, String.toList_ofList,
        parts_lexemes_cons_part rfl (List.cons_ne_nil _ _), parts_lexemes_cons rfl]
      rfl
  · -- A name with a fallback.
    rcases coverEach_of_ofPieces (by decide) h with ⟨texts, hcover, rfl⟩
    rw [List.append_assoc, List.map_append, coverEach_openingPieces_iff] at hcover
    rcases hcover with ⟨before, name, after, rest, rfl, hbefore, hname, hafter, hrest⟩
    rcases coverEach_fallback_iff.1 hrest with ⟨blanks, text, rfl, hblanks, hne, hbrace⟩
    -- The blanks that the rule leaves out count as part of the fallback, up to its ends.
    have htrim : Text.trim (blanks ++ text) = Text.trim text := by
      have hpadded : Padded text (blanks ++ text ++ []) := ⟨hblanks, List.forall_mem_nil _⟩
      rw [← hpadded.trim_eq, List.append_nil]
    have hbraceNotMem : '\x7d' ∉ blanks ++ text := by
      rw [List.mem_append, not_or]
      exact ⟨fun hmem => absurd (hblanks _ hmem) (by decide), hbrace⟩
    refine ⟨⟨.ofList name, .fallback (.ofList (Text.trim (blanks ++ text)))⟩,
      ⟨_, .fallback hname ⟨hbefore, hafter⟩ (by simp [hne]) hbraceNotMem, ?_⟩, ?_⟩
    · simp [Template.inBraces, openingPieces, closingPieces]
    · refine (parts_lexemes_opening hname [(.operator, ['|']), (.whitespace, blanks),
        (.string, text), (.punctuation, ['\x7d', '\x7d'])]).trans ?_
      rw [Placeholder.parts, String.toList_ofList,
        parts_lexemes_cons_part rfl (List.cons_ne_nil _ _), parts_lexemes_cons rfl,
        parts_lexemes_cons_part rfl hne, htrim]
      simp only [String.toList_ofList]
      rfl

/-- Where a placeholder is written, a rule for placeholders applies: the one for its rule. It need
    not take this very placeholder, but there is just one at a place. -/
theorem exists_holeRule_of_startsHole {s : List Char} (h : StartsHole s) (atLineStart : Bool) :
    ∃ rule ∈ holeRules, (rule atLineStart s).isSome = true := by
  rcases h with ⟨p, lexeme, ⟨inner, hinner, rfl⟩, hbegins⟩
  have hopening : ∀ {before name after : List Char} {ps : List Pattern} {rest : List (List Char)},
      (∀ c ∈ before, Text.isBlank c = true) → IsName name → (∀ c ∈ after, Text.isBlank c = true) →
      CoverEach ps rest → CoverEach (openingPieces.map Prod.snd ++ ps)
        (['\x7b', '\x7b'] :: before :: name :: after :: rest) :=
    fun hbefore hname hafter hrest => coverEach_openingPieces_iff.2
      ⟨_, _, _, _, rfl, hbefore, hname, hafter, hrest⟩
  cases hinner with
  | @required name _ hname hpadded =>
      rcases hpadded with @⟨before, after, hbefore, hafter⟩
      refine ⟨requiredRule, by simp [holeRules], isSome_ofPieces
        [['\x7b', '\x7b'], before, name, after, ['\x7d', '\x7d']] ?_ _ ?_⟩
      · rw [List.map_append]
        exact hopening hbefore hname hafter (coverEach_closingPieces_iff.2 rfl)
      · simpa [Template.inBraces] using hbegins
  | @optional name _ last hname hpadded hlast =>
      rcases hpadded with @⟨before, after, hbefore, hafter⟩
      refine ⟨optionalRule, by simp [holeRules], isSome_ofPieces
        [['\x7b', '\x7b'], before, name, after, ['?'], last, ['\x7d', '\x7d']] ?_ _ ?_⟩
      · rw [List.append_assoc, List.map_append]
        exact hopening hbefore hname hafter (coverEach_optional_iff.2 ⟨last, rfl, hlast⟩)
      · simpa [Template.inBraces] using hbegins
  | @fallback name _ text hname hpadded hne hbrace =>
      rcases hpadded with @⟨before, after, hbefore, hafter⟩
      refine ⟨fallbackRule, by simp [holeRules], isSome_ofPieces
        [['\x7b', '\x7b'], before, name, after, ['|'], [], text, ['\x7d', '\x7d']] ?_ _ ?_⟩
      · rw [List.append_assoc, List.map_append]
        exact hopening hbefore hname hafter
          (coverEach_fallback_iff.2 ⟨[], text, rfl, List.forall_mem_nil _, hne, hbrace⟩)
      · simpa [Template.inBraces] using hbegins

/-! ## In step with the placeholders -/

theorem tagRule_eq_none {c : Char} (hc : c ≠ '<') (atLineStart : Bool) (s : List Char) :
    tagRule atLineStart (c :: s) = none := by
  cases h : tagRule atLineStart (c :: s) with
  | none => rfl
  | some ls =>
      rcases Option.map_eq_some_iff.1 h with ⟨texts, htexts, -⟩
      rcases Pattern.coverEach_of_pieces? (by decide) htexts with ⟨hcover, hbegins⟩
      -- The only piece starts with an angle bracket.
      simp only [List.map_cons, List.map_nil, Pattern.coverEach_cons_iff, Pattern.coverEach_nil_iff,
        Pattern.covers_inOrder_char_iff] at hcover
      rcases hcover with ⟨_, _, rfl, ⟨_, _, rfl, _⟩, rfl⟩
      rw [List.flatten_cons, List.cons_append, List.cons_prefix_cons] at hbegins
      exact absurd hbegins.1.symm hc

/-- At a place without an angle bracket stands a placeholder, or text up to the next brace or
    bracket. An opening brace that starts no placeholder is taken alone, so whatever starts behind
    it can still be seen. -/
theorem lexemesAt_templateRules (atLineStart : Bool) {c : Char} (hc : c ≠ '<') (s : List Char) :
    let ls := lexemesAt templateRules atLineStart c s
    (∃ p : Placeholder, p.Written (spelling ls) ∧ parts ls = p.parts) ∨
      (¬ StartsHole (c :: s) ∧ parts ls = [] ∧ '\x7b' ∉ (spelling ls).tail) := by
  intro ls
  have hcomment : commentRule atLineStart (c :: s) = none := by
    unfold commentRule
    split
    · rename_i heq
      exact absurd (List.cons.inj heq).1 hc
    · rfl
  have hls : ls = lexemesAt (holeRules ++ [tagRule,
      .ofRun (fun c => c != '\x7b' && c != '<') .text, .ofChar (fun _ => true) .text])
      atLineStart c s := lexemesAt_cons_of_none hcomment _
  by_cases hstart : StartsHole (c :: s)
  · -- The first rule that applies takes a placeholder, and that is not empty.
    have htake : ∀ rule ∈ holeRules, ∀ taken, rule atLineStart (c :: s) = some taken →
        spelling taken ≠ [] := by
      intro rule hrule taken htaken
      rcases exists_written_of_holeRule hrule htaken with ⟨p, hwritten, -⟩
      exact hwritten.ne_nil
    rcases exists_lexemesAt_append htake (exists_holeRule_of_startsHole hstart atLineStart) _ with
      ⟨rule, hrule, happlied⟩
    rw [← hls] at happlied
    exact .inl (exists_written_of_holeRule hrule happlied)
  · -- What such a rule takes would be a placeholder, so none applies, and the rules for text come
    -- next.
    have hnone : ∀ rule ∈ holeRules, rule atLineStart (c :: s) = none := by
      intro rule hrule
      cases htaken : rule atLineStart (c :: s) with
      | none => rfl
      | some taken =>
          rcases exists_written_of_holeRule hrule htaken with ⟨p, hwritten, -⟩
          have hmem : rule ∈ templateRules :=
            List.mem_cons_of_mem _ (List.mem_append_left [_, _, _] hrule)
          exact absurd ⟨p, _, hwritten, templateRules_faithful rule hmem _ _ _ htaken⟩ hstart
    rw [lexemesAt_append_of_none hnone, lexemesAt_cons_of_none (tagRule_eq_none hc _ _)] at hls
    refine .inr ⟨hstart, ?_⟩
    by_cases hopen : c = '\x7b'
    · have hrun : Rule.ofRun (fun c => c != '\x7b' && c != '<') .text atLineStart (c :: s) =
          none := by
        simp [Rule.ofRun, hopen]
      have hchar : Rule.ofChar (fun _ => true) .text atLineStart (c :: s) =
          some [⟨.text, [c]⟩] := rfl
      rw [hls, lexemesAt_cons_of_none hrun, lexemesAt_cons_of_some hchar (List.cons_ne_nil _ _)]
      exact ⟨rfl, List.not_mem_nil⟩
    · have hrun : Rule.ofRun (fun c => c != '\x7b' && c != '<') .text atLineStart (c :: s) =
          some [⟨.text, c :: s.takeWhile fun c => c != '\x7b' && c != '<'⟩] := by
        simp [Rule.ofRun, hopen, hc]
      rw [hls, lexemesAt_cons_of_some hrun (List.cons_ne_nil _ _)]
      refine ⟨rfl, fun hmem => ?_⟩
      have hchar := List.mem_takeWhile_imp (p := fun c => c != '\x7b' && c != '<')
        (by simpa [spelling] using hmem)
      exact absurd hchar (by decide)

/-- Lexemes show the placeholders in a text without angle brackets. The lexer moves on by what it
    takes, and the placeholders of the text that is left are those that are left. -/
theorem parts_lexFrom {ps : List Placeholder} {s : List Char} (hs : '<' ∉ s) (h : Holes ps s)
    (atLineStart : Bool) :
    parts (lexFrom templateRules atLineStart s) = ps.flatMap Placeholder.parts := by
  induction hlen : s.length using Nat.strongRecOn generalizing s ps atLineStart with
  | ind n ih =>
      cases s with
      | nil =>
          have hnil : ps = [] := h.unique .nil
          rw [hnil, lexFrom]
          rfl
      | cons c s =>
          rw [List.mem_cons, not_or] at hs
          rcases spelling_lexemesAt templateRules_faithful atLineStart c s with
            ⟨⟨rest, hrest⟩, hne⟩
          have hat := lexemesAt_templateRules atLineStart (Ne.symm hs.1) s
          generalize hls : lexemesAt templateRules atLineStart c s = ls at hrest hne hat
          rw [lexFrom_cons hls hne hrest, parts_append]
          have hsub : '<' ∉ rest := by
            intro hmem
            have hall : '<' ∈ c :: s := hrest ▸ List.mem_append_right _ hmem
            exact (List.mem_cons.1 hall).elim hs.1 hs.2
          have hshort : rest.length < n := by
            have hpos := List.length_pos_iff.2 hne
            have hsplit := congrArg List.length hrest
            rw [List.length_append] at hsplit
            omega
          rcases hat with ⟨p, hwritten, hparts⟩ | ⟨hnone, hparts, hfree⟩
          · -- What was taken is the first of the placeholders.
            rw [← hrest] at h
            rcases (Template.holes_written_append_iff hwritten).1 h with ⟨qs, rfl, hqs⟩
            rw [hparts, ih _ hshort hsub hqs _ rfl, List.flatMap_cons]
          · -- The rest of the text that was taken has no opening brace in it.
            have hqs : Holes ps rest := by
              cases hspelling : spelling ls with
              | nil => exact absurd hspelling hne
              | cons d taken =>
                  rw [hspelling, List.cons_append, List.cons.injEq] at hrest
                  rw [hspelling, List.tail_cons] at hfree
                  rw [Template.holes_cons_iff hnone, ← hrest.2,
                    Template.holes_append_left_iff hfree] at h
                  exact h
            rw [hparts, ih _ hshort hsub hqs _ rfl, List.nil_append]

/-! ## Templates put in order -/

/-- A mark at the start is no part of a placeholder. -/
theorem holes_dropMark_iff {ps : List Placeholder} (s : List Char) :
    Holes ps (dropMark s) ↔ Holes ps s := by
  cases s with
  | nil => exact Iff.rfl
  | cons c s =>
      by_cases hc : c = '\ufeff'
      · have hnone : ¬ StartsHole (c :: s) := Template.not_startsHole_cons (by rw [hc]; decide) s
        rw [dropMark, if_pos hc, Template.holes_cons_iff hnone]
      · rw [dropMark, if_neg hc]

/-- Putting a template in order leaves its placeholders alone. -/
theorem holes_tidy_iff {s : List Char} (hs : '\r' ∉ s) {ps : List Placeholder} :
    Holes ps (tidy s) ↔ Holes ps (Text.trim s) := by
  have hlines : Holes ps (trimLines (dropMark s)) ↔ Holes ps (dropMark s) :=
    Template.holes_trim_iff (by decide) (by decide)
  have hblanks : Holes ps (Text.trim s) ↔ Holes ps s :=
    Template.holes_trim_iff (by decide) (by decide)
  rw [tidy_eq hs, Template.holes_append_right_iff (by decide), hlines, holes_dropMark_iff, hblanks]

/-- The lexemes of a template without angle brackets and carriage returns show the
    placeholders among its tokens, in order: the name of each, its sign, and its fallback
    but for the blanks around it. -/
theorem parts_lexTidied {s : String} (hangle : '<' ∉ s.toList) (hreturn : '\r' ∉ s.toList) :
    ∃ tokens, (Template.Registry.standard.tokenize s).outcome = .ok tokens ∧
      parts (Language.template.lexTidied s) =
        (tokens.filterMap Template.Token.placeholder?).flatMap Placeholder.parts := by
  rcases Template.Registry.exists_outcome_tokenize s with ⟨tokens, htokens, htiles⟩
  have htidy : '<' ∉ tidy s.toList := by
    rw [tidy_eq hreturn, List.mem_append, not_or]
    exact ⟨fun h => hangle (mem_of_mem_dropMark (mem_of_mem_trimLines h)), by decide⟩
  exact ⟨tokens, htokens, parts_lexFrom htidy ((holes_tidy_iff hreturn).2 htiles.holes) true⟩

/-- Braces around braces, a dash as a name, and a fallback with a brace and a line feed in
    it: the only placeholders are the two that filling finds. -/
theorem parts_lexTidied_braces :
    let s := "\x7b\x7b\x7b\x7b a | \x7b \n\x7d\x7d\x7d " ++
      "\x7b\x7b b c \x7d\x7d \x7b\x7b - ? \x7d\x7d "
    ∃ tokens, (Template.Registry.standard.tokenize s).outcome = .ok tokens ∧
      parts (Language.template.lexTidied s) =
        (tokens.filterMap Template.Token.placeholder?).flatMap Placeholder.parts :=
  parts_lexTidied (by decide) (by decide)

end Highlight

end Stencil
