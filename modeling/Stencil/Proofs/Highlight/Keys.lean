import Stencil.Proofs.Block.Outcome
import Stencil.Proofs.Highlight.FenceRule

/-!
# Keys for Display

The lexemes of a codeblock show as keys what its lines say.

From the start of a line the lexer comes to the start of another one, and what it has
found until then has a key in it just if the first line declares. A step is a whole
fence if one is opened, and a whole line if not. By `keys_lexFrom`, the keys among the
lexemes are then those of `shownKeys`, which knows lines only.

Before the lexer comes to it, the source is put in order, which takes off fewer
blanks than parsing does; what remains are empty lines at its ends.

With that, whether the keys displayed are those declared is a matter of fences
alone. They are, if the lines are settled. If not, a key may be displayed that is the
content of a fence, and one may be missing that was declared.

## Theorems

* `key?_of_stripped`: Which line declares, in the words of the rule for declarations.
* `declarationRule_line`: The rule for declarations, at the start of a line.
* `lexFrom_fence`, `lexFrom_line`: A step of a whole fence, and of a whole line.
* `keys_lexFrom`: The keys among the lexemes of lines.
* `keys_lexTidied`: The keys displayed of a codeblock, and when they are its own.
* `keys_ne_two_words`: They are not if a line looks like the start of a fence.
-/

namespace Stencil.Highlight

open Block (isKeyChar declaration? Role)

/-! ## Declarations -/

/-- A line that declares, as the rule cuts it: what is left behind the key and blanks is a colon
    and a value. The rule reads the line from its indent on and does not strip it, so the blanks
    between key and colon have to be of the kinds that indent. -/
theorem Indented.cut_of_declaration {l : List Char} (hl : Indented l) {key value : List Char}
    (hd : declaration? (Text.trim l) = some (key, value)) :
    key ≠ [] ∧ (l.dropWhile isIndent).takeWhile isKeyChar = key ∧
      ∃ rest, ((l.dropWhile isIndent).dropWhile isKeyChar).dropWhile isIndent = ':' :: rest := by
  rcases (Block.declaration?_eq_some_iff _ _ _).1 hd with
    ⟨hne, hkey, blanks, rest, hblanks, hcut, -⟩
  rcases Text.exists_eq_trimEnd_append (l.dropWhile isIndent) with ⟨trail, hbody, -⟩
  rw [← hl.trim_eq, hcut, List.append_assoc, List.append_assoc, List.cons_append] at hbody
  have hindent : ∀ c ∈ blanks, isIndent c = true := by
    refine fun c hc => hl c ((List.dropWhile_suffix isIndent).mem ?_) (hblanks c hc)
    rw [hbody]
    exact List.mem_append_right _ (List.mem_append_left _ hc)
  refine ⟨hne, ?_, rest ++ trail, ?_⟩
  · rw [hbody, Block.takeWhile_cut _ hkey hblanks]
  · rw [hbody, Block.dropWhile_cut _ hkey hblanks, List.dropWhile_append_of_pos hindent]
    exact List.dropWhile_cons_of_neg (by decide)

/-- A line that can be cut so declares. What is stripped off it is behind the value or before the
    key, so the cut stays. -/
theorem Indented.declaration_ne_none_of_cut {l : List Char} (hl : Indented l) {value : List Char}
    (hkey : (l.dropWhile isIndent).takeWhile isKeyChar ≠ [])
    (htail : ((l.dropWhile isIndent).dropWhile isKeyChar).dropWhile isIndent = ':' :: value) :
    declaration? (Text.trim l) ≠ none := by
  have hbody : l.dropWhile isIndent = (l.dropWhile isIndent).takeWhile isKeyChar ++
      (((l.dropWhile isIndent).dropWhile isKeyChar).takeWhile isIndent ++ ':' :: value) := by
    rw [← htail, List.takeWhile_append_dropWhile, List.takeWhile_append_dropWhile]
  -- A value goes over one line, and what is left of the line is on it.
  have hnewline : '\n' ∉ Text.trimStart (Text.trimEnd value) := by
    intro hmem
    have hvalue : '\n' ∈ value :=
      (Text.trimEnd_isPrefix value).mem ((List.dropWhile_suffix _).mem hmem)
    refine hl.newline_notMem ((List.dropWhile_suffix isIndent).mem ?_)
    rw [hbody]
    simp [hvalue]
  rw [hl.trim_eq, hbody, ← List.append_assoc, Text.trimEnd_append_cons Block.isBlank_colon,
    List.append_assoc, Block.declaration?_append _ (fun c hc => List.mem_takeWhile_imp hc)
      fun c hc => isBlank_of_isIndent (List.mem_takeWhile_imp hc),
    if_neg (by simp [hkey, hnewline])]
  exact Option.some_ne_none _

/-- The key of a line, in the words of the rule. Parsing strips a line before it looks for a key
    and the rule does not, and this says that they find the same one. -/
theorem key?_of_stripped {l : List Char} (hl : Indented l) :
    let body := l.dropWhile isIndent
    let key := body.takeWhile isKeyChar
    (Role.of none (stripped l)).key? =
      match (body.dropWhile isKeyChar).dropWhile isIndent with
      | ':' :: _ => if key.isEmpty then none else some (.ofList key)
      | _ => none := by
  intro body key
  have hlist : (stripped l).toList = Text.trim l := String.toList_ofList
  cases hd : declaration? (Text.trim l) with
  | some captured =>
      rcases hl.cut_of_declaration hd with ⟨hne, hkey, rest, htail⟩
      rw [Role.of_none_of_declaration (hlist ▸ hd), htail]
      rw [show key = captured.1 from hkey, if_neg (by simpa using hne)]
      rfl
  | none =>
      rw [Role.of_of_not_declaration none (hlist ▸ hd)]
      split
      · rename_i value htail
        split
        · rfl
        · rename_i hne
          exact absurd hd (hl.declaration_ne_none_of_cut (mt List.isEmpty_iff.2 hne) htail)
      · rfl

/-- The rule for declarations, at the start of a line. -/
theorem declarationRule_line {l : List Char} (hl : Indented l) (m : List Char) :
    (∀ key, (Role.of none (stripped l)).key? = some key →
      ∃ ls, declarationRule true (l ++ '\n' :: m) = some ls ∧ spelling ls = l ∧ keys ls = [key]) ∧
    ((Role.of none (stripped l)).key? = none → declarationRule true (l ++ '\n' :: m) = none) := by
  have hindent : isIndent '\n' = false := by decide
  have hkeyStop : isKeyChar '\n' = false := by decide
  rw [key?_of_stripped hl]
  simp only [declarationRule, takeWhile_line hindent, dropWhile_line hindent,
    takeWhile_line hkeyStop, dropWhile_line hkeyStop, Bool.true_and]
  have hline : l = l.takeWhile isIndent ++ ((l.dropWhile isIndent).takeWhile isKeyChar ++
      (((l.dropWhile isIndent).dropWhile isKeyChar).takeWhile isIndent ++
        ((l.dropWhile isIndent).dropWhile isKeyChar).dropWhile isIndent)) := by
    rw [List.takeWhile_append_dropWhile, List.takeWhile_append_dropWhile,
      List.takeWhile_append_dropWhile]
  -- What comes behind the blanks decides: nothing, a colon, or something else.
  cases htail : ((l.dropWhile isIndent).dropWhile isKeyChar).dropWhile isIndent with
  | nil => exact ⟨fun _ h => absurd h (Option.some_ne_none _).symm, fun _ => rfl⟩
  | cons c value =>
      rw [List.cons_append]
      by_cases hc : c = ':'
      · subst hc
        by_cases hempty : ((l.dropWhile isIndent).takeWhile isKeyChar).isEmpty = true
        · simp only [hempty]
          exact ⟨fun _ h => absurd h (Option.some_ne_none _).symm, fun _ => rfl⟩
        · have hvalue : '\n' ∉ value.dropWhile isIndent := by
            intro hmem
            refine hl.newline_notMem ?_
            rw [hline, htail]
            simp [(List.dropWhile_suffix isIndent).mem hmem]
          simp only [hempty]
          refine ⟨fun key h => ⟨_, rfl, ?_, ?_⟩, fun h => absurd h (Option.some_ne_none _)⟩
          · conv_rhs => rw [hline, htail]
            rw [takeWhile_line hindent, dropWhile_line hindent, takeWhile_ne_newline hvalue]
            simp
          · rw [keys_lexemes_cons (by decide), keys_lexemes_cons_key (by simpa using hempty)]
            repeat rw [keys_lexemes_cons (by decide)]
            rw [← Option.some.inj h]
            rfl
      · simp [hc]

/-! ## A source line by line -/

/-- A line feed is a lexeme of its own, and a line starts behind it. None of the rules for lines
    takes one, and the last rule takes whatever is left. -/
theorem lexFrom_newline (atLineStart : Bool) (m : List Char) :
    lexFrom blockRules atLineStart ('\n' :: m) =
      ⟨.whitespace, ['\n']⟩ :: lexFrom blockRules true m := by
  have hfence : fenceRule atLineStart ('\n' :: m) = none := by
    cases atLineStart <;> rfl
  have hdeclaration : declarationRule atLineStart ('\n' :: m) = none := rfl
  have hrun : Rule.ofRun (· != '\n') .string atLineStart ('\n' :: m) = none := rfl
  have hchar : Rule.ofChar (· == '\n') .whitespace atLineStart ('\n' :: m) =
      some [⟨.whitespace, ['\n']⟩] := rfl
  have hat : lexemesAt blockRules atLineStart '\n' m = [⟨.whitespace, ['\n']⟩] := by
    rw [blockRules, lexemesAt_cons_of_none hfence, lexemesAt_cons_of_none hdeclaration,
      lexemesAt_cons_of_none hrun, lexemesAt_cons_of_some hchar (List.cons_ne_nil _ _)]
  rw [lexFrom_cons hat (List.cons_ne_nil _ _) rfl]
  rfl

/-- What is found at the start of a line, if it is the given lexemes up to a line feed. -/
theorem lexFrom_through_newline {l m : List Char} {ls : List Lexeme} {rest : List Char}
    (hls : ∀ c s, l ++ '\n' :: m = c :: s → lexemesAt blockRules true c s = ls)
    (hne : spelling ls ≠ []) (hrest : spelling ls ++ '\n' :: rest = l ++ '\n' :: m) :
    lexFrom blockRules true (l ++ '\n' :: m) =
      ls ++ ⟨.whitespace, ['\n']⟩ :: lexFrom blockRules true rest := by
  cases hs : l ++ '\n' :: m with
  | nil => simp at hs
  | cons c s =>
      rw [hs] at hrest
      rw [lexFrom_cons (hls c s hs) hne hrest, lexFrom_newline]

/-- A step of a whole fence: its lines are taken together, none of them shows a key, and the lines
    behind it come next. -/
theorem lexFrom_fence {l : List Char} (hl : Indented l) {lines : List (List Char)}
    (hlines : ∀ l ∈ lines, Indented l) {behind : List String}
    (hskip : skip? (stripped l) (lines.map stripped) = some behind) :
    ∃ ls rest, (∀ l ∈ rest, Indented l) ∧ behind = rest.map stripped ∧ keys ls = [] ∧
      lexFrom blockRules true (l ++ '\n' :: endedLines lines) =
        ls ++ lexFrom blockRules true (endedLines rest) := by
  rcases (fenceRule_line hl hlines).1 behind hskip with
    ⟨ls, hls, rest, hbehind, hrest, hkeys, hne, hspelling⟩
  refine ⟨ls ++ [⟨.whitespace, ['\n']⟩], rest, hrest, hbehind, ?_, ?_⟩
  · rw [keys_append, hkeys]
    rfl
  · rw [lexFrom_through_newline (fun c s hs => ?_) hne hspelling, List.append_assoc,
      List.singleton_append]
    rw [hs] at hls
    exact lexemesAt_cons_of_some hls hne _

/-- What is found at the start of a line that is not empty and opens no fence. It is a declaration
    if the line declares, and otherwise text up to the end of the line. -/
theorem lexemesAt_line {l : List Char} (hl : Indented l) (hempty : l ≠ []) {m : List Char}
    (hfence : fenceRule true (l ++ '\n' :: m) = none) :
    ∃ ls, (∀ c s, l ++ '\n' :: m = c :: s → lexemesAt blockRules true c s = ls) ∧
      spelling ls = l ∧ keys ls = (Role.of none (stripped l)).key?.toList := by
  have hdeclaration := declarationRule_line hl m
  cases hkey : (Role.of none (stripped l)).key? with
  | some key =>
      rcases hdeclaration.1 key hkey with ⟨ls, hls, hspelling, hkeys⟩
      refine ⟨ls, fun c s hs => ?_, hspelling, hkeys⟩
      rw [hs] at hls hfence
      rw [blockRules, lexemesAt_cons_of_none hfence,
        lexemesAt_cons_of_some hls (by rwa [hspelling])]
  | none =>
      -- The whole line is text.
      have hnone := hdeclaration.2 hkey
      refine ⟨[⟨.string, l⟩], fun c s hs => ?_, List.append_nil l, rfl⟩
      have hrun : Rule.ofRun (· != '\n') .string true (l ++ '\n' :: m) =
          some [⟨.string, l⟩] := by
        simp only [Rule.ofRun, takeWhile_ne_newline hl.newline_notMem]
        rw [if_neg (by simpa using hempty)]
      rw [hs] at hfence hnone hrun
      rw [blockRules, lexemesAt_cons_of_none hfence, lexemesAt_cons_of_none hnone,
        lexemesAt_cons_of_some hrun (by simpa using hempty)]

/-- A step of a whole line, which opens no fence: it shows its key, if it has one, and the lines
    behind it come next. -/
theorem lexFrom_line {l : List Char} (hl : Indented l) {lines : List (List Char)}
    (hlines : ∀ l ∈ lines, Indented l)
    (hskip : skip? (stripped l) (lines.map stripped) = none) :
    ∃ ls, keys ls = (Role.of none (stripped l)).key?.toList ∧
      lexFrom blockRules true (l ++ '\n' :: endedLines lines) =
        ls ++ lexFrom blockRules true (endedLines lines) := by
  by_cases hempty : l = []
  · subst hempty
    exact ⟨[⟨.whitespace, ['\n']⟩], rfl, lexFrom_newline true _⟩
  · rcases lexemesAt_line hl hempty ((fenceRule_line hl hlines).2 hskip) with
      ⟨ls, hls, hspelling, hkeys⟩
    refine ⟨ls ++ [⟨.whitespace, ['\n']⟩], ?_, ?_⟩
    · rw [keys_append, hkeys]
      exact List.append_nil _
    · rw [lexFrom_through_newline hls (by rwa [hspelling]) (by rw [hspelling]), List.append_assoc,
        List.singleton_append]

/-- The keys among the lexemes of a source, line by line. Both sides skip the same lines where
    there is a fence, and otherwise take one line at a time. -/
theorem keys_lexFrom {lines : List (List Char)} (hlines : ∀ l ∈ lines, Indented l) :
    keys (lexFrom blockRules true (endedLines lines)) = shownKeys (lines.map stripped) := by
  -- A step may take many lines, so the induction is on how many are left.
  induction hlen : lines.length using Nat.strongRecOn generalizing lines with
  | ind n ih =>
    cases lines with
    | nil =>
        rw [List.map_nil, shownKeys, endedLines, List.flatMap_nil, lexFrom]
        rfl
    | cons l lines =>
        rw [List.forall_mem_cons] at hlines
        rw [List.length_cons] at hlen
        rw [endedLines_cons, List.map_cons]
        cases hskip : skip? (stripped l) (lines.map stripped) with
        | some behind =>
            rcases lexFrom_fence hlines.1 hlines.2 hskip with ⟨ls, rest, hrest, rfl, hkeys, hlex⟩
            have hshort := length_skip?_le hskip
            rw [List.length_map, List.length_map] at hshort
            rw [hlex, keys_append, hkeys, shownKeys_cons_of_skip hskip, ih _ (by omega) hrest rfl,
              List.nil_append]
        | none =>
            rcases lexFrom_line hlines.1 hlines.2 hskip with ⟨ls, hkeys, hlex⟩
            rw [hlex, keys_append, hkeys, shownKeys_cons_of_not_skip hskip,
              ih _ (by omega) hlines.2 rfl]

/-! ## A source put in order -/

/-- Taking line feeds off the ends of a text does not change what is left when blanks
    are taken off. -/
theorem trim_trimLines (s : List Char) : Text.trim (trimLines s) = Text.trim s := by
  have hblank : ∀ c : Char, (c == '\n') = true → Text.isBlank c = true := by
    intro c hc
    rw [beq_iff_eq] at hc
    exact hc ▸ Text.isBlank_newline
  exact (Text.trim_rdropWhile hblank _).trans (Text.trim_dropWhile hblank s)

/-- Whether there are no other blanks can be computed. -/
theorem blanks_of_all {s : List Char}
    (h : (s.all fun c => !Text.isBlank c || c == ' ' || c == '\t' || c == '\n') = true) :
    ∀ c ∈ s, Text.isBlank c = true → c = ' ' ∨ c = '\t' ∨ c = '\n' := by
  intro c hc hblank
  have hone := List.all_eq_true.1 h c hc
  simpa [hblank, or_assoc] using hone

/-- The keys displayed of a source with no blanks but spaces, tabs and line feeds, if it
    starts with no byte order mark. -/
theorem keys_lexTidied_eq {source : String}
    (hblank : ∀ c ∈ source.toList, Text.isBlank c = true → c = ' ' ∨ c = '\t' ∨ c = '\n')
    (hmark : dropMark source.toList = source.toList) (hne : Text.strip source ≠ "") :
    keys (Language.codeblock.lexTidied source) =
      shownKeys (Text.strippedLines (Text.strip source)) := by
  have hreturn : '\r' ∉ source.toList := by
    intro hmem
    have hone := hblank _ hmem (by decide)
    revert hone
    decide
  have hlex : Language.codeblock.lexTidied source =
      lexFrom blockRules true (endedLines ((trimLines source.toList).splitOn '\n')) := by
    rw [endedLines_splitOn, Language.lexTidied, tidy_eq hreturn, hmark]
    rfl
  -- All blanks of the lines are spaces and tabs, since the third kind ends lines.
  have hindented : ∀ l ∈ (trimLines source.toList).splitOn '\n', Indented l := by
    intro l hl c hc hb
    have hmem : c ∈ trimLines source.toList ++ ['\n'] := by
      rw [← endedLines_splitOn]
      exact List.mem_flatMap.2 ⟨l, hl, List.mem_append_left _ hc⟩
    have hne : c ≠ '\n' := by
      rintro rfl
      exact Text.notMem_of_mem_splitOn hl hc
    rw [List.mem_append, List.mem_singleton, or_iff_left hne] at hmem
    rcases hblank c (mem_of_mem_trimLines hmem) hb with rfl | rfl | rfl
    · rfl
    · rfl
    · exact absurd rfl hne
  have hstrip : Text.strip (.ofList (trimLines source.toList)) = Text.strip source := by
    rw [Text.strip, String.toList_ofList, trim_trimLines, Text.strip]
  -- The source is tidied here and stripped there, and line by line that comes to the same.
  have hlines : ((trimLines source.toList).splitOn '\n').map stripped =
      Text.strippedLines (.ofList (trimLines source.toList)) := by
    rw [Text.strippedLines_eq, String.toList_ofList, Text.trimmedLines, List.map_map]
    rfl
  rw [hlex, keys_lexFrom hindented, hlines, ← hstrip, Text.strippedLines_strip (by rwa [hstrip]),
    shownKeys_trim]

/-- A source that declares a property starts with no byte order mark. Lexing drops a mark and
    parsing does not, and here it makes no difference. -/
theorem dropMark_of_isCodeblock {source : String}
    (h : Block.IsCodeblock (Text.strippedLines (Text.strip source))) :
    dropMark source.toList = source.toList := by
  cases hs : source.toList with
  | nil => rfl
  | cons c s =>
      rw [dropMark, if_neg]
      rintro rfl
      have hblank : Text.isBlank '\ufeff' = false := by decide
      -- The mark is no blank, so the first line starts with it.
      have htrim : Text.trim source.toList = '\ufeff' :: Text.trimEnd s := by
        rw [hs, Text.trim, Text.trimStart_cons_of_not_blank hblank,
          Text.trimEnd_cons_of_not_blank hblank]
      rcases Text.exists_splitOn_cons (Text.ne_newline_of_not_blank hblank) (Text.trimEnd s) with
        ⟨l, ls, -, hsplit⟩
      rcases h.declares with ⟨captured, hcaptured⟩
      rw [Text.strippedLines_eq, Text.toList_strip, htrim, Text.trimmedLines, hsplit, List.map_cons,
        List.map_cons, List.head?_cons, Option.bind_some, String.toList_ofList, Text.trim,
        Text.trimStart_cons_of_not_blank hblank, Text.trimEnd_cons_of_not_blank hblank] at hcaptured
      rcases (Block.declaration?_eq_some_iff _ captured.1 captured.2).1 hcaptured with
        ⟨hne, hkey, blanks, rest, -, hcut, -⟩
      rcases hc : captured.1 with _ | ⟨d, key⟩
      · exact hne hc
      · rw [hc, List.cons_append, List.cons.injEq] at hcut
        have hd := hkey d (by rw [hc]; exact List.mem_cons_self)
        rw [← hcut.1] at hd
        exact absurd hd (by decide)

/-- The keys displayed of a codeblock with no blanks but spaces, tabs and line feeds are the
    declarations that are not taken for the content of a fence. They are the keys of its
    properties, in order, unless a line outside of fences looks like the start of a fence without
    being one and a later line looks like its end.

    A fence is opened on display by any label behind the backticks, and when a codeblock is parsed
    by a single word. So there are lines that only one of the two takes for the start of a fence,
    and these are what the condition rules out. -/
theorem keys_lexTidied {source : String} {debug : Bool} {ps : List Block.Property}
    (hparse : (Block.parse source debug).outcome = .ok ps)
    (hblank : ∀ c ∈ source.toList, Text.isBlank c = true → c = ' ' ∨ c = '\t' ∨ c = '\n') :
    let lines := Text.strippedLines (Text.strip source)
    keys (Language.codeblock.lexTidied source) = shownKeys lines ∧
      (Settled lines → keys (Language.codeblock.lexTidied source) = ps.map Block.Property.key) := by
  intro lines
  rcases (Block.Parser.outcome_parse_eq_ok_iff source debug ps).1 hparse with
    ⟨hne, hcodeblock, rfl⟩
  have hkeys := keys_lexTidied_eq hblank (dropMark_of_isCodeblock hcodeblock) hne
  refine ⟨hkeys, fun hsettled => ?_⟩
  rw [hkeys, shownKeys_eq hcodeblock.closed hsettled, Block.map_key_gather, Block.declaredKeys]

/-- A fence with a word behind its backticks. -/
theorem keys_lexTidied_fenced :
    keys (Language.codeblock.lexTidied "a: x\n\x60\x60\x60py\nb: y\n\x60\x60\x60\nc: z") =
      ["a", "c"] := by
  have hlines : Text.strippedLines
      (Text.strip "a: x\n\x60\x60\x60py\nb: y\n\x60\x60\x60\nc: z") =
        ["a: x", "\x60\x60\x60py", "b: y", "\x60\x60\x60", "c: z"] := by
    decide
  have hparse : (Block.parse "a: x\n\x60\x60\x60py\nb: y\n\x60\x60\x60\nc: z" false).outcome =
      .ok [⟨"a", "x\n\x60\x60\x60py\nb: y\n\x60\x60\x60"⟩, ⟨"c", "z"⟩] := by
    rw [Block.Parser.outcome_parse_eq, hlines]
    decide
  have hsettled : Settled ["a: x", "\x60\x60\x60py", "b: y", "\x60\x60\x60", "c: z"] :=
    settled_of_forall (by decide)
  have hkeys := (keys_lexTidied hparse (blanks_of_all (by decide))).2
  rw [hlines] at hkeys
  rw [hkeys hsettled]
  rfl

/-- Two words behind backticks, which open no fence but are displayed as if they did: a
    key too many is displayed if the fence is opened below, and one too few if a key is
    declared before that. -/
theorem keys_ne_two_words :
    let many := "a: x\n\x60\x60\x60 p q\n\x60\x60\x60\nb: y\n\x60\x60\x60"
    let few := "a: x\n\x60\x60\x60 p q\nb: y\n\x60\x60\x60\n\x60\x60\x60"
    (∀ c ∈ many.toList ++ few.toList, Text.isBlank c = true → c = ' ' ∨ c = '\t' ∨ c = '\n') ∧
      (∃ ps, (Block.parse many).outcome = .ok ps ∧ ps.map Block.Property.key = ["a"] ∧
        keys (Language.codeblock.lexTidied many) = ["a", "b"]) ∧
      ∃ ps, (Block.parse few).outcome = .ok ps ∧ ps.map Block.Property.key = ["a", "b"] ∧
        keys (Language.codeblock.lexTidied few) = ["a"] := by
  intro many few
  have hmany : (Block.parse many).outcome =
      .ok [⟨"a", "x\n\x60\x60\x60 p q\n\x60\x60\x60\nb: y\n\x60\x60\x60"⟩] := by
    rw [Block.Parser.outcome_parse_eq]
    decide
  have hfew : (Block.parse few).outcome =
      .ok [⟨"a", "x\n\x60\x60\x60 p q"⟩, ⟨"b", "y\n\x60\x60\x60\n\x60\x60\x60"⟩] := by
    rw [Block.Parser.outcome_parse_eq]
    decide
  exact ⟨blanks_of_all (by decide), ⟨_, hmany, rfl, by decide +kernel⟩,
    ⟨_, hfew, rfl, by decide +kernel⟩⟩

end Stencil.Highlight
