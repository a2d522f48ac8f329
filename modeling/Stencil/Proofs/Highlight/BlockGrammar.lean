import Stencil.Proofs.Highlight.FenceForm

/-!
# The Grammar of Codeblocks

The rules for codeblocks as they are written, and that they are the rules.

Besides fences there are declarations, and lines and line feeds that are neither. In
a declaration a run of blanks or of key characters has one length that counts, since
neither a colon nor what else follows it is one of its characters. Only the blanks
in front of a value could also be left to the value, but the search looks there last.

## Main definitions

* `writtenBlockRules`: The rules for codeblocks, as they are written.
* `declarationForm`: The pattern of declarations.

## Theorems

* `pattern_writtenDeclaration`: How the pattern is read.
* `first_keyForm`: A search for a key, and for the rest of a declaration.
* `agree_declarationRule`: The pattern finds what the rule takes.
* `agree_blockRules`: The written rules are the rules.
-/

namespace Stencil.Highlight

open Pattern (Cursor)

/-! ## How the rules are written -/

/-- A declaration: a key, a colon and a value, with blanks around them. -/
def writtenDeclaration : WrittenRule :=
  ⟨"^([ \\t]*)([a-z\\-]+)([ \\t]*)(:)([ \\t]*)(.*)$",
    .groups [.whitespace, .key, .whitespace, .punctuation, .whitespace, .string]⟩

/-- The rules for codeblocks, as they are written. -/
def writtenBlockRules : List WrittenRule :=
  [writtenFence, writtenDeclaration, ⟨".+", .whole .string⟩, ⟨"\\n", .whole .whitespace⟩]

/-- A declaration behind the colon. -/
def valueForm : List Pattern :=
  [.group 5 (.run indentSet 0 none), .group 6 (.run Block.lineSet 0 none), .anchor .lineStop]

/-- A declaration behind the key. -/
def colonForm : List Pattern :=
  .group 3 (.run indentSet 0 none) :: .group 4 (.char ':') :: valueForm

/-- A declaration. -/
def declarationForm : Pattern :=
  .inOrder (.anchor .lineStart :: .group 1 (.run indentSet 0 none) ::
    .group 2 (.run Block.keySet 1 none) :: colonForm)

theorem pattern_writtenDeclaration : writtenDeclaration.pattern = .ok declarationForm := rfl

/-! ## Declarations -/

section Search

variable {α : Type} (c : Cursor) (found : Cursor → α)

/-- Behind the colon something is always found, and first what is found behind as many blanks as
    there are. The value could start with blanks too, so here the longest run is not forced but
    only preferred. -/
theorem first_valueForm :
    ((Pattern.inOrder valueForm).first c fun d => some (found d)) =
      some (found (c.close 4 [c.rest.takeWhile isIndent,
        (c.rest.dropWhile isIndent).takeWhile (· != '\n')])) := by
  let blanks := c.rest.takeWhile isIndent
  let value := (c.rest.dropWhile isIndent).takeWhile (· != '\n')
  let m := (c.rest.dropWhile isIndent).dropWhile (· != '\n')
  let d := (c.pass blanks).cover 5 c
  have hm : ∀ x ∈ m.head?, x = '\n' := head_dropWhile_ne_newline _
  have hstop : ∀ e : Cursor,
      ((Pattern.inOrder [.anchor .lineStop]).first e fun e => some (found e)) =
      if e.rest.head?.all (· == '\n') = true then some (found e) else none := fun _ => rfl
  have hcut : c.rest = blanks ++ c.rest.dropWhile isIndent := List.takeWhile_append_dropWhile.symm
  have hd : d.rest = value ++ m :=
    (Cursor.rest_pass hcut).trans List.takeWhile_append_dropWhile.symm
  have hvalue : (Pattern.inOrder valueForm.tail).first d (fun e => some (found e)) =
      some (found (c.close 4 [blanks, value])) := by
    have hnewline : '\n' ∉ value := fun hmem => absurd (List.mem_takeWhile_imp hmem) (by decide)
    refine (Pattern.first_inOrder_cons _ _ _).trans ?_
    rw [first_lineGroup hd hnewline hm, hstop, if_pos]
    · rfl
    · show Option.all _ ((d.pass value).rest).head? = true
      rw [Cursor.rest_pass hd, Option.all_eq_true]
      exact fun x hx => beq_iff_eq.2 (hm x hx)
    · intro past x s hx
      rw [hstop, if_neg]
      simpa [Cursor.cover] using hx
  rw [valueForm, Pattern.first_inOrder_cons, Pattern.first_group]
  -- The longest run of blanks is tried first, and there something is found.
  refine Pattern.first_run_of_longest hcut ?_ (Nat.zero_le _) ?_ ?_
  · intro x hx
    rw [contains_indentSet]
    exact List.mem_takeWhile_imp hx
  · simpa using head_dropWhile_append c.rest (m := []) (by simp)
  · rw [← Cursor.pass_eq hcut]
    exact hvalue

/-- The pieces of a declaration behind the key. The value goes to the end of the line and may be
    empty. -/
def colonPieces? (s : List Char) : Option (List (List Char)) :=
  let value := (s.dropWhile isIndent).tail
  if (s.dropWhile isIndent).head? = some ':' then
    some [s.takeWhile isIndent, [':'], value.takeWhile isIndent,
      (value.dropWhile isIndent).takeWhile (· != '\n')]
  else none

theorem length_of_colonPieces? {s : List Char} {ts : List (List Char)}
    (h : colonPieces? s = some ts) : ts.length = 4 := by
  unfold colonPieces? at h
  split at h
  · rw [← Option.some.inj h]
    rfl
  · cases h

theorem first_colonForm :
    ((Pattern.inOrder colonForm).first c fun d => some (found d)) =
      (colonPieces? c.rest).map fun ts => found (c.close 2 ts) := by
  have hcolon : ∀ d : Cursor, ((Pattern.inOrder (.group 4 (.char ':') :: valueForm)).first d
      fun e => some (found e)) = if d.rest.head? = some ':' then
        (Pattern.inOrder valueForm).first ((d.pass [':']).cover 4 d) fun e => some (found e)
      else none :=
    fun d => (Pattern.first_inOrder_cons _ _ _).trans (Pattern.first_char ':' d)
  have hc : c.rest = c.rest ++ [] := (List.append_nil _).symm
  have hrest : ((c.pass (c.rest.takeWhile isIndent)).cover 3 c).rest = c.rest.dropWhile isIndent :=
    Cursor.rest_pass List.takeWhile_append_dropWhile.symm
  rw [colonForm, Pattern.first_inOrder_cons, first_indent hc (by simp), hcolon, hrest]
  · -- Behind the blanks there is a colon, and a value, or there is no declaration.
    rw [colonPieces?]
    by_cases hhead : (c.rest.dropWhile isIndent).head? = some ':'
    · let d := (c.pass (c.rest.takeWhile isIndent)).cover 3 c
      have hvalue : ((d.pass [':']).cover 4 d).rest = (c.rest.dropWhile isIndent).tail := by
        show d.rest.drop 1 = _
        rw [hrest, List.drop_one]
      rw [if_pos hhead, if_pos hhead, first_valueForm, hvalue]
      rfl
    · rw [if_neg hhead, if_neg hhead]
      rfl
  · intro past x s hx
    rw [hcolon, if_neg]
    intro hhead
    have hx' : x = ':' := Option.some.inj hhead
    exact absurd (hx' ▸ hx) (by decide)

theorem isIndent_of_isKeyChar {x : Char} (hx : Block.isKeyChar x = true) :
    isIndent x = false := by
  rw [Bool.eq_false_iff]
  intro hindent
  rw [isIndent, Bool.or_eq_true, beq_iff_eq, beq_iff_eq] at hindent
  rcases hindent with rfl | rfl
  · exact absurd hx (by decide)
  · exact absurd hx (by decide)

/-- A search for a key, and for the rest of a declaration behind it. A shorter key would leave a
    character of the key to stand before the colon. -/
theorem first_keyForm :
    ((Pattern.inOrder (.group 2 (.run Block.keySet 1 none) :: colonForm)).first c
      fun d => some (found d)) =
        if 1 ≤ (c.rest.takeWhile Block.isKeyChar).length then
          (colonPieces? (c.rest.dropWhile Block.isKeyChar)).map fun ts =>
            found (c.close 1 (c.rest.takeWhile Block.isKeyChar :: ts))
        else none := by
  have hcut : c.rest = c.rest.takeWhile Block.isKeyChar ++ c.rest.dropWhile Block.isKeyChar :=
    List.takeWhile_append_dropWhile.symm
  rw [Pattern.first_inOrder_cons, Pattern.first_group, Pattern.first_run_of_forced hcut,
    first_colonForm]
  · show (if _ then (colonPieces? (c.pass _).rest).map _ else none) = _
    rw [Cursor.rest_pass hcut]
    rfl
  · intro x hx
    rw [Block.contains_keySet]
    exact List.mem_takeWhile_imp hx
  · intro x hx
    have hhead := List.head?_dropWhile_not Block.isKeyChar c.rest
    rw [Option.mem_def.1 hx] at hhead
    rwa [Block.contains_keySet]
  · -- The colon is no character of a key, and neither are blanks.
    intro past x s hx
    rw [Block.contains_keySet] at hx
    have hcolon : x ≠ ':' := fun heq => absurd (heq ▸ hx) (by decide)
    have hindent : ¬ isIndent x = true := by
      rw [isIndent_of_isKeyChar hx]
      exact Bool.false_ne_true
    rw [first_colonForm, colonPieces?]
    show (if ((x :: s).dropWhile isIndent).head? = some ':' then _ else none).map _ = none
    rw [List.dropWhile_cons_of_neg hindent, if_neg (by simpa using hcolon)]
    rfl

end Search

/-- The pieces of the declaration that starts at a place. -/
def takenDeclaration? (atLineStart : Bool) (s : List Char) : Option (List (List Char)) :=
  let key := (s.dropWhile isIndent).takeWhile Block.isKeyChar
  if atLineStart && !key.isEmpty then
    (colonPieces? ((s.dropWhile isIndent).dropWhile Block.isKeyChar)).map fun ts =>
      s.takeWhile isIndent :: key :: ts
  else none

/-- The kinds of the pieces of a declaration. -/
def declarationKinds : List Kind :=
  [.whitespace, .key, .whitespace, .punctuation, .whitespace, .string]

theorem length_of_takenDeclaration? {atLineStart : Bool} {s : List Char} {ts : List (List Char)}
    (h : takenDeclaration? atLineStart s = some ts) : ts.length = declarationKinds.length := by
  simp only [takenDeclaration?] at h
  split at h
  · rcases Option.map_eq_some_iff.1 h with ⟨later, hlater, rfl⟩
    rw [List.length_cons, List.length_cons, length_of_colonPieces? hlater]
    rfl
  · cases h

theorem declarationRule_eq (atLineStart : Bool) (s : List Char) :
    declarationRule atLineStart s =
      (takenDeclaration? atLineStart s).map fun ts => lexemes (declarationKinds.zip ts) := by
  simp only [declarationRule, takenDeclaration?, colonPieces?]
  generalize (s.dropWhile isIndent).takeWhile Block.isKeyChar = key
  generalize (s.dropWhile isIndent).dropWhile Block.isKeyChar = rest
  -- What the two need are the key and what comes behind the blanks after it.
  cases rest.dropWhile isIndent with
  | nil =>
      rw [List.head?_nil, if_neg (Option.some_ne_none _).symm, Option.map_none, ite_self]
      rfl
  | cons x value =>
      rw [List.head?_cons, List.tail_cons]
      by_cases hx : x = ':'
      · subst hx
        rw [if_pos rfl, Option.map_some]
        cases atLineStart && !key.isEmpty with
        | false => rfl
        | true => rfl
      · rw [if_neg fun h => hx (Option.some.inj h), Option.map_none, ite_self, Option.map_none]
        split
        · rename_i heq
          exact absurd (List.cons.inj heq).1 hx
        · rfl

/-- The pattern for declarations finds what the rule for declarations takes. It could cut a line
    in several ways, and the first that it tries and that goes through is the one of the rule. -/
theorem agree_declarationRule : Agree [declarationRule] [writtenDeclaration] := by
  refine agree_of_pieces pattern_writtenDeclaration rfl rfl declarationRule_eq
    declarationRule_faithful (fun _ _ _ => length_of_takenDeclaration?) fun past s found => ?_
  let c : Cursor := ⟨past, s, []⟩
  let d := (c.pass (s.takeWhile isIndent)).cover 1 c
  have hc : c.rest = s ++ [] := (List.append_nil s).symm
  have hd : d.rest = s.dropWhile isIndent :=
    Cursor.rest_pass List.takeWhile_append_dropWhile.symm
  rw [declarationForm, first_indented hc (by simp), first_keyForm, takenDeclaration?]
  · show (if startsLine past = true then
      if 1 ≤ (d.rest.takeWhile Block.isKeyChar).length then
        (colonPieces? (d.rest.dropWhile Block.isKeyChar)).map _ else none
      else none) = _
    rw [hd]
    cases startsLine past with
    | false => rfl
    | true =>
        cases hkey : (s.dropWhile isIndent).takeWhile Block.isKeyChar with
        | nil => rfl
        | cons x key =>
            rw [if_pos rfl, if_pos (by simp)]
            show _ = ((colonPieces? _).map _).map _
            rw [Option.map_map]
            rfl
  · -- A key does not start with a blank.
    intro past x t hx
    have hkey : ¬ Block.isKeyChar x = true := by
      intro hkey
      rw [isIndent_of_isKeyChar hkey] at hx
      cases hx
    rw [first_keyForm]
    show (if 1 ≤ ((x :: t).takeWhile Block.isKeyChar).length then _ else none) = none
    rw [List.takeWhile_cons_of_neg hkey, if_neg (by simp)]

/-! ## All rules -/

/-- The rules for codeblocks are those that are written. -/
theorem agree_blockRules : Agree blockRules writtenBlockRules := by
  have hrun : Agree [.ofRun (· != '\n') .string] [⟨".+", .whole .string⟩] :=
    agree_ofRun contains_line rfl rfl
  have hchar : Agree [.ofChar (· == '\n') .whitespace] [⟨"\\n", .whole .whitespace⟩] :=
    agree_ofChar contains_newline rfl rfl
  exact agree_fenceRule.append (agree_declarationRule.append (hrun.append hchar))

end Stencil.Highlight
