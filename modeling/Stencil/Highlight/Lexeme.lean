import Stencil.Pattern.Pieces

/-!
# Lexemes

A source taken apart for display.

A lexeme is a piece of the source with a kind that decides its colour. A lexer
is a list of rules. At each place the rules are tried in order, and the first
that applies says into which lexemes the next characters go. A rule may depend
on what comes before the place only so far as it may ask to be at the start of
a line. Where no rule applies, one character is a lexeme of its own, marked as
an error; the lexers of this library have a rule for every place.

Whatever its rules are, a lexer drops nothing and adds nothing as long as each
rule gives back what it takes, which is what `Rule.Faithful` says.

## Main definitions

* `Kind`, `Lexeme`: Pieces of a source.
* `Rule`: What the next lexemes are, where it applies.
* `Rule.ofPieces`: The rule for patterns that follow each other, each with a kind.
* `lex`: The lexemes of a source.
* `Rule.Faithful`: A rule gives back what it takes.

## Theorems

* `lexFrom_cons`: A step of a lexer.
* `spelling_lex`: The lexemes of a source spell the source.
-/

namespace Stencil.Highlight

/-- What kind of thing a piece of a source is. -/
inductive Kind where
  | text | whitespace | comment | key | label | name | builtin | punctuation | operator
  | string | backtick | doc | error
  /-- A kind that only lexers from elsewhere know, by its title. -/
  | other (title : String)
deriving DecidableEq, Repr

/-- The title of a kind, with the kinds that it belongs to. -/
def Kind.title : Kind → String
  | text => "Text"
  | whitespace => "Text.Whitespace"
  | comment => "Comment"
  | key => "Name.Attribute"
  | label => "Name.Label"
  | name => "Name.Variable"
  | builtin => "Name.Builtin"
  | punctuation => "Punctuation"
  | operator => "Operator"
  | string => "Literal.String"
  | backtick => "Literal.String.Backtick"
  | doc => "Literal.String.Doc"
  | error => "Error"
  | other title => title

/-- A piece of a source. -/
structure Lexeme where
  kind : Kind
  text : List Char
deriving DecidableEq, Repr

/-- The characters of lexemes. -/
def spelling (ls : List Lexeme) : List Char :=
  ls.flatMap Lexeme.text

/-- The lexemes of the next characters, where the rule applies; it is told
    whether a line starts there. -/
abbrev Rule := (atLineStart : Bool) → List Char → Option (List Lexeme)

/-- Pieces with their kinds, without the empty ones. -/
def lexemes (pieces : List (Kind × List Char)) : List Lexeme :=
  (pieces.filter fun p => !p.2.isEmpty).map fun p => ⟨p.1, p.2⟩

/-- The rule for patterns that follow each other, each with a kind. -/
def Rule.ofPieces (pieces : List (Kind × Pattern)) : Rule := fun _ s =>
  (Pattern.pieces? (pieces.map Prod.snd) s).map fun texts =>
    lexemes ((pieces.map Prod.fst).zip texts)

/-- The rule for the longest run of a class, if it is not empty. -/
def Rule.ofRun (isPart : Char → Bool) (kind : Kind) : Rule := fun _ s =>
  let run := s.takeWhile isPart
  if run.isEmpty then none else some [⟨kind, run⟩]

/-- The rule for a single character. -/
def Rule.ofChar (isPart : Char → Bool) (kind : Kind) : Rule := fun _ s =>
  match s with
  | c :: _ => if isPart c then some [⟨kind, [c]⟩] else none
  | [] => none

/-- The lexemes at a place that is not the end: by the first rule that applies
    and takes something, or else an error. -/
def lexemesAt (rules : List Rule) (atLineStart : Bool) (c : Char) (s : List Char) : List Lexeme :=
  let found := rules.findSome? fun rule =>
    (rule atLineStart (c :: s)).filter fun ls => !(spelling ls).isEmpty
  found.getD [⟨.error, [c]⟩]

/-- Whether a line starts after the given characters. -/
def endsLine (s : List Char) : Bool :=
  s.getLast? == some '\n'

/-- The lexemes of a source from a place on. -/
def lexFrom (rules : List Rule) (atLineStart : Bool) : List Char → List Lexeme
  | [] => []
  | c :: s =>
    let ls := lexemesAt rules atLineStart c s
    let taken := (spelling ls).length - 1
    ls ++ lexFrom rules (endsLine (spelling ls)) (s.drop taken)
termination_by s => s.length
decreasing_by
  rw [List.length_drop, List.length_cons]
  omega

/-- The lexemes of a source. -/
def lex (rules : List Rule) (s : List Char) : List Lexeme :=
  lexFrom rules true s

/-- A rule gives back what it takes. -/
def Rule.Faithful (rule : Rule) : Prop :=
  ∀ atLineStart s ls, rule atLineStart s = some ls → spelling ls <+: s

@[simp] theorem spelling_nil : spelling [] = [] := rfl

@[simp] theorem spelling_cons (l : Lexeme) (ls : List Lexeme) :
    spelling (l :: ls) = l.text ++ spelling ls := by
  simp [spelling]

@[simp] theorem spelling_append (ls ms : List Lexeme) :
    spelling (ls ++ ms) = spelling ls ++ spelling ms := by
  simp [spelling]

/-- Empty pieces do not show in the spelling. -/
@[simp] theorem spelling_lexemes (pieces : List (Kind × List Char)) :
    spelling (lexemes pieces) = pieces.flatMap Prod.snd := by
  induction pieces with
  | nil => rfl
  | cons p ps ih =>
      simp only [lexemes, List.filter_cons, List.flatMap_cons] at ih ⊢
      split
      · simp [ih]
      · rename_i h
        have : p.2 = [] := by simpa using h
        simp [ih, this]

/-- A kind for each piece: with their kinds the pieces spell the same. -/
theorem flatMap_zip {kinds : List Kind} {texts : List (List Char)}
    (h : texts.length = kinds.length) : (kinds.zip texts).flatMap Prod.snd = texts.flatten := by
  induction kinds generalizing texts with
  | nil => simp_all
  | cons k ks ih =>
      cases texts with
      | nil => simp at h
      | cons t ts => simp [ih (by simpa using h)]

/-- Patterns that follow each other give back what they take. -/
theorem Rule.ofPieces_faithful (pieces : List (Kind × Pattern)) : (ofPieces pieces).Faithful := by
  intro _ s ls h
  obtain ⟨texts, htexts, rfl⟩ := Option.map_eq_some_iff.1 h
  obtain ⟨hflat, hlen⟩ := Pattern.flatten_pieces htexts
  rwa [spelling_lexemes, flatMap_zip (by simpa using hlen)]

theorem Rule.ofRun_faithful (isPart : Char → Bool) (kind : Kind) : (ofRun isPart kind).Faithful := by
  intro _ s ls h
  simp only [ofRun] at h
  split at h
  · cases h
  · cases h
    simpa using List.takeWhile_prefix isPart

theorem Rule.ofChar_faithful (isPart : Char → Bool) (kind : Kind) :
    (ofChar isPart kind).Faithful := by
  intro _ s ls h
  cases s with
  | nil => simp [ofChar] at h
  | cons c s =>
      simp only [ofChar] at h
      split at h
      · cases h
        simp
      · cases h

/-- A rule that applies and takes something decides what is found. -/
theorem lexemesAt_cons_of_some {rule : Rule} {atLineStart : Bool} {c : Char} {s : List Char}
    {ls : List Lexeme} (h : rule atLineStart (c :: s) = some ls) (hne : spelling ls ≠ [])
    (rules : List Rule) : lexemesAt (rule :: rules) atLineStart c s = ls := by
  simp [lexemesAt, h, hne, Option.filter]

/-- A rule that does not apply can be left out. -/
theorem lexemesAt_cons_of_none {rule : Rule} {atLineStart : Bool} {c : Char} {s : List Char}
    (h : rule atLineStart (c :: s) = none) (rules : List Rule) :
    lexemesAt (rule :: rules) atLineStart c s = lexemesAt rules atLineStart c s := by
  simp [lexemesAt, h]

/-- Nor do several that do not apply decide anything. -/
theorem lexemesAt_append_of_none {rules : List Rule} {atLineStart : Bool} {c : Char}
    {s : List Char} (h : ∀ rule ∈ rules, rule atLineStart (c :: s) = none) (later : List Rule) :
    lexemesAt (rules ++ later) atLineStart c s = lexemesAt later atLineStart c s := by
  induction rules with
  | nil => rfl
  | cons rule rules ih =>
      rw [List.forall_mem_cons] at h
      rw [List.cons_append, lexemesAt_cons_of_none h.1, ih h.2]

/-- If some rules take something wherever they apply, and one of them applies, then what
    is found is found by one of them. -/
theorem exists_lexemesAt_append {rules : List Rule} {atLineStart : Bool} {c : Char}
    {s : List Char} (htake : ∀ rule ∈ rules, ∀ ls, rule atLineStart (c :: s) = some ls →
      spelling ls ≠ [])
    (h : ∃ rule ∈ rules, (rule atLineStart (c :: s)).isSome = true) (later : List Rule) :
    ∃ rule ∈ rules,
      rule atLineStart (c :: s) = some (lexemesAt (rules ++ later) atLineStart c s) := by
  induction rules with
  | nil => simp at h
  | cons rule rules ih =>
      rw [List.forall_mem_cons] at htake
      cases hrule : rule atLineStart (c :: s) with
      | some ls =>
          refine ⟨rule, List.mem_cons_self, ?_⟩
          rw [List.cons_append, lexemesAt_cons_of_some hrule (htake.1 ls hrule), hrule]
      | none =>
          simp only [List.mem_cons, exists_eq_or_imp, hrule, Option.isSome_none,
            Bool.false_eq_true, false_or] at h
          rcases ih htake.2 h with ⟨found, hmem, hfound⟩
          refine ⟨found, List.mem_cons_of_mem _ hmem, ?_⟩
          rw [List.cons_append, lexemesAt_cons_of_none hrule, hfound]

/-- What is found at a place is a nonempty start of the rest of the source. -/
theorem spelling_lexemesAt {rules : List Rule} (h : ∀ rule ∈ rules, rule.Faithful)
    (atLineStart : Bool) (c : Char) (s : List Char) :
    spelling (lexemesAt rules atLineStart c s) <+: c :: s ∧
      spelling (lexemesAt rules atLineStart c s) ≠ [] := by
  simp only [lexemesAt]
  cases hf : rules.findSome? fun rule =>
      (rule atLineStart (c :: s)).filter fun ls => !(spelling ls).isEmpty with
  | none => simp
  | some ls =>
      obtain ⟨rule, hmem, hrule⟩ := List.exists_of_findSome?_eq_some hf
      obtain ⟨hls, hne⟩ := Option.filter_eq_some_iff.1 hrule
      exact ⟨h rule hmem _ _ _ hls, by simpa using hne⟩

/-- A step: the lexemes at the place, and those of what is left behind them. -/
theorem lexFrom_cons {rules : List Rule} {atLineStart : Bool} {c : Char} {s rest : List Char}
    {ls : List Lexeme} (hls : lexemesAt rules atLineStart c s = ls) (hne : spelling ls ≠ [])
    (hrest : spelling ls ++ rest = c :: s) :
    lexFrom rules atLineStart (c :: s) = ls ++ lexFrom rules (endsLine (spelling ls)) rest := by
  have hdrop : s.drop ((spelling ls).length - 1) = rest := by
    cases hspelling : spelling ls with
    | nil => exact absurd hspelling hne
    | cons d taken =>
        rw [hspelling, List.cons_append, List.cons.injEq] at hrest
        rw [← hrest.2, List.length_cons, Nat.add_sub_cancel, List.drop_left]
  rw [lexFrom, hls, hdrop]

theorem spelling_lexFrom {rules : List Rule} (h : ∀ rule ∈ rules, rule.Faithful)
    (atLineStart : Bool) (s : List Char) : spelling (lexFrom rules atLineStart s) = s := by
  induction hn : s.length using Nat.strongRecOn generalizing atLineStart s with
  | ind n ih =>
      cases s with
      | nil => simp [lexFrom]
      | cons c s =>
          -- Something is taken, so what is left is shorter.
          obtain ⟨⟨t, ht⟩, hne⟩ := spelling_lexemesAt h atLineStart c s
          have hshort : t.length < n := by
            have hpos := List.length_pos_iff.2 hne
            rw [← hn, ← ht, List.length_append]
            omega
          rw [lexFrom_cons rfl hne ht, spelling_append, ih _ hshort _ _ rfl, ht]

/-- The lexemes of a source spell the source. -/
theorem spelling_lex {rules : List Rule} (h : ∀ rule ∈ rules, rule.Faithful) (s : List Char) :
    spelling (lex rules s) = s :=
  spelling_lexFrom h true s

end Stencil.Highlight
