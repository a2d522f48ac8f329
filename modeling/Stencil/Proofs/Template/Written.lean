import Stencil.Proofs.Text.Trim
import Stencil.Template.Token

/-!
# Written Placeholders

Which texts are placeholders, and which tokens a text consists of.

A placeholder is written in double braces: a name with blanks around it, and
then nothing, a question mark, or a bar and a text. `Inside` describes what
stands between the braces, without a pattern and without a search. Everything
else rests on one observation: there is no closing brace between the braces,
so a written placeholder ends at the first closing brace after its start.
Hence no two placeholders start at the same place of a text, and of what stands
behind a placeholder nothing matters to it.

`Tiles` cuts a text into tokens. Its rule for text tokens is the one that
makes the cut unique: within a text no placeholder starts, not even one that
would end behind the text. Where a text token ends is therefore decided by the
text itself, and so is everything that follows.

## Main definitions

* `IsName`, `Padded`: Names, and names with blanks around them.
* `Inside`: What stands between the braces of a placeholder.
* `Placeholder.Written`: A placeholder as it may be written.
* `StartsHole`: A placeholder is written at the start of a text.
* `Tiles`: The tokens that a text consists of.

## Theorems

* `Inside.unique`: What stands between the braces decides the placeholder.
* `Placeholder.Written.unique`: Only one placeholder is written at a place.
* `Tiles.unique`: A text consists of its tokens in one way only.
-/

namespace Stencil.Template

/-! ## Names -/

/-- Names of placeholders are made of ASCII letters and dashes. -/
def isNameChar (c : Char) : Bool :=
  c.isAlpha || c == '-'

/-- A name: some letters and dashes. -/
structure IsName (name : List Char) : Prop where
  ne_nil : name ≠ []
  isNameChar : ∀ c ∈ name, isNameChar c = true

/-- A text with blanks around it. -/
inductive Padded (inner : List Char) : List Char → Prop
  | intro {before after : List Char} (hbefore : ∀ c ∈ before, Text.isBlank c = true)
      (hafter : ∀ c ∈ after, Text.isBlank c = true) : Padded inner (before ++ inner ++ after)

/-- No blank is part of a name. -/
theorem isNameChar_eq_false_of_isBlank {c : Char} (h : Text.isBlank c = true) :
    isNameChar c = false := by
  have hdash : c ≠ '-' := by
    rintro rfl
    exact absurd h (by decide)
  simp only [Text.isBlank, Bool.or_eq_true, Bool.and_eq_true, decide_eq_true_eq, beq_iff_eq] at h
  rw [isNameChar, Bool.or_eq_false_iff, beq_eq_false_iff_ne]
  refine ⟨?_, hdash⟩
  -- There are letters from 65 to 90 and from 97 to 122, and no blanks from 33 to 132.
  rw [Bool.eq_false_iff]
  intro halpha
  have hrange : 65 ≤ c.toNat ∧ c.toNat ≤ 122 := by
    rcases (Bool.or_eq_true c.isUpper c.isLower).mp halpha with hupper | hlower
    · have hval : 'A'.val ≤ c.val ∧ c.val ≤ 'Z'.val := of_decide_eq_true hupper
      rw [UInt32.le_iff_toNat_le, UInt32.le_iff_toNat_le] at hval
      exact ⟨hval.1, Nat.le_trans hval.2 (by decide)⟩
    · have hval := (Bool.and_eq_true _ _).mp hlower
      rw [decide_eq_true_eq, decide_eq_true_eq, ge_iff_le, UInt32.le_iff_toNat_le,
        UInt32.le_iff_toNat_le] at hval
      exact ⟨Nat.le_trans (by decide) hval.1, hval.2⟩
  omega

theorem isBlank_eq_false_of_isNameChar {c : Char} (h : isNameChar c = true) :
    Text.isBlank c = false := by
  rw [Bool.eq_false_iff]
  intro hb
  rw [isNameChar_eq_false_of_isBlank hb] at h
  exact absurd h (by decide)

/-- A name has no blanks at its ends. -/
theorem IsName.trim_eq {name : List Char} (h : IsName name) : Text.trim name = name := by
  have hnone : ∀ c ∈ name, Text.isBlank c = false :=
    fun c hc => isBlank_eq_false_of_isNameChar (h.isNameChar c hc)
  rw [Text.trim_eq_self_iff]
  exact ⟨fun c hc => hnone c (List.mem_of_mem_head? hc),
    fun c hc => hnone c (List.mem_of_getLast? hc)⟩

/-- Trimming takes the blanks around a text away. -/
theorem Padded.trim_eq {inner s : List Char} (h : Padded inner s) :
    Text.trim s = Text.trim inner := by
  rcases h with @⟨before, after, hbefore, hafter⟩
  have hstart : Text.trimStart (before ++ inner ++ after) = Text.trimStart (inner ++ after) := by
    rw [Text.trimStart, List.append_assoc, List.dropWhile_append_of_pos hbefore, Text.trimStart]
  have hend : Text.trimEnd (inner ++ after) = Text.trimEnd inner := by
    have hrev : ∀ c ∈ after.reverse, Text.isBlank c = true :=
      fun c hc => hafter c (List.mem_reverse.1 hc)
    rw [Text.trimEnd, List.reverse_append, List.dropWhile_append_of_pos hrev, Text.trimEnd]
  rw [Text.trim, hstart, ← Text.trim, ← Text.trimStart_trimEnd, hend, Text.trimStart_trimEnd]

/-- Of two texts that are equal, the longest runs of a class at the start are equal, and so is
    what follows them. All that the grammar leaves open is of this kind: where blanks end, and
    where a name ends. -/
theorem append_inj_of_run {p : Char → Bool} {a b x y : List Char} (ha : ∀ c ∈ a, p c = true)
    (hb : ∀ c ∈ b, p c = true) (hx : ∀ c ∈ x.head?, p c = false)
    (hy : ∀ c ∈ y.head?, p c = false) (h : a ++ x = b ++ y) : a = b ∧ x = y := by
  have hrun : ∀ {run rest : List Char}, (∀ c ∈ run, p c = true) →
      (∀ c ∈ rest.head?, p c = false) → (run ++ rest).takeWhile p = run := by
    intro run rest hrun hrest
    have hstop : rest.takeWhile p = [] := by
      cases rest with
      | nil => rfl
      | cons c rest => simp [hrest c rfl]
    rw [List.takeWhile_append_of_pos hrun, hstop, List.append_nil]
  have heq : a = b := by
    rw [← hrun ha hx, ← hrun hb hy, h]
  subst heq
  exact ⟨rfl, List.append_cancel_left h⟩

/-- The first character of a text that is put together from two. -/
theorem head?_append_mem {a b : List Char} {c : Char} (h : c ∈ (a ++ b).head?) :
    c ∈ a.head? ∨ (a = [] ∧ c ∈ b.head?) := by
  cases a with
  | nil => exact Or.inr ⟨rfl, h⟩
  | cons d a => exact Or.inl h

/-- A padded name ends where something follows that is neither a blank nor part of a name. It is
    three runs one after the other, and no character belongs to two neighbouring ones. -/
theorem Padded.append_inj {name name' s s' x y : List Char} (hname : IsName name)
    (hname' : IsName name') (hs : Padded name s) (hs' : Padded name' s')
    (hx : ∀ c ∈ x.head?, Text.isBlank c = false ∧ isNameChar c = false)
    (hy : ∀ c ∈ y.head?, Text.isBlank c = false ∧ isNameChar c = false)
    (h : s ++ x = s' ++ y) : name = name' ∧ s = s' ∧ x = y := by
  rcases hs with @⟨before, after, hbefore, hafter⟩
  rcases hs' with @⟨before', after', hbefore', hafter'⟩
  simp only [List.append_assoc] at h
  -- Before the name: what follows the blanks is the start of a name.
  have hfirst : ∀ {name rest : List Char}, IsName name →
      ∀ c ∈ (name ++ rest).head?, Text.isBlank c = false := by
    intro name rest hname c hc
    rcases head?_append_mem hc with hmem | ⟨hnil, -⟩
    · exact isBlank_eq_false_of_isNameChar (hname.isNameChar c (List.mem_of_mem_head? hmem))
    · exact absurd hnil hname.ne_nil
  rcases append_inj_of_run hbefore hbefore' (hfirst hname) (hfirst hname') h with
    ⟨rfl, hfromName⟩
  -- The name: what follows it is a blank, or what follows the padding.
  have hstop : ∀ {after x : List Char}, (∀ c ∈ after, Text.isBlank c = true) →
      (∀ c ∈ x.head?, Text.isBlank c = false ∧ isNameChar c = false) →
      ∀ c ∈ (after ++ x).head?, isNameChar c = false := by
    intro after x hafter hx c hc
    rcases head?_append_mem hc with hmem | ⟨-, hmem⟩
    · exact isNameChar_eq_false_of_isBlank (hafter c (List.mem_of_mem_head? hmem))
    · exact (hx c hmem).2
  rcases append_inj_of_run hname.isNameChar hname'.isNameChar (hstop hafter hx)
    (hstop hafter' hy) hfromName with ⟨rfl, hfromAfter⟩
  rcases append_inj_of_run hafter hafter' (fun c hc => (hx c hc).1) (fun c hc => (hy c hc).1)
    hfromAfter with ⟨rfl, heq⟩
  exact ⟨rfl, rfl, heq⟩

/-- A character of a padded name is a blank or part of the name. -/
theorem Padded.mem {name s : List Char} (h : Padded name s) {c : Char} (hc : c ∈ s) :
    Text.isBlank c = true ∨ c ∈ name := by
  rcases h with ⟨hbefore, hafter⟩
  simp only [List.mem_append] at hc
  rcases hc with (hc | hc) | hc
  · exact Or.inl (hbefore c hc)
  · exact Or.inr hc
  · exact Or.inl (hafter c hc)

/-! ## Between the braces -/

/-- What stands between the braces of a placeholder. Blanks may stand around the name and around
    what follows it, and those around a fallback are no part of it. -/
inductive Inside : Placeholder → List Char → Prop
  /-- A name. -/
  | required {name padded : List Char} (hname : IsName name) (hpadded : Padded name padded) :
      Inside ⟨.ofList name, .required⟩ padded
  /-- A name and a question mark. -/
  | optional {name padded last : List Char} (hname : IsName name) (hpadded : Padded name padded)
      (hlast : ∀ c ∈ last, Text.isBlank c = true) :
      Inside ⟨.ofList name, .optional⟩ (padded ++ '?' :: last)
  /-- A name, a bar, and a text without a closing brace. -/
  | fallback {name padded text : List Char} (hname : IsName name) (hpadded : Padded name padded)
      (hne : text ≠ []) (hbrace : '\x7d' ∉ text) :
      Inside ⟨.ofList name, .fallback (.ofList (Text.trim text))⟩ (padded ++ '|' :: text)

/-- Neither a blank nor part of a name. -/
theorem not_padding_of_mem {c : Char} (h : c ∈ ['?', '|', '\x7b', '\x7d']) :
    Text.isBlank c = false ∧ isNameChar c = false := by
  simp only [List.mem_cons, List.not_mem_nil, or_false] at h
  rcases h with rfl | rfl | rfl | rfl <;> exact ⟨by decide, by decide⟩

/-- Marks and braces are no part of a padded name. -/
theorem Padded.notMem {name s : List Char} (hname : IsName name) (h : Padded name s) {c : Char}
    (hc : c ∈ ['?', '|', '\x7b', '\x7d']) : c ∉ s := by
  intro hmem
  have hneither := not_padding_of_mem hc
  rcases h.mem hmem with hblank | hpart
  · rw [hneither.1] at hblank
    exact absurd hblank (by decide)
  · have hchar := hname.isNameChar c hpart
    rw [hneither.2] at hchar
    exact absurd hchar (by decide)

/-- There is no closing brace between the braces. -/
theorem Inside.brace_notMem {p : Placeholder} {s : List Char} (h : Inside p s) : '\x7d' ∉ s := by
  cases h with
  | required hname hpadded => exact hpadded.notMem hname (by decide)
  | @optional name padded last hname hpadded hlast =>
      have hpart := hpadded.notMem hname (c := '\x7d') (by decide)
      have hblank : '\x7d' ∉ last := fun hmem => absurd (hlast _ hmem) (by decide)
      simp [hpart, hblank]
  | @fallback name padded text hname hpadded hne hbrace =>
      have hpart := hpadded.notMem hname (c := '\x7d') (by decide)
      simp [hpart, hbrace]

/-- What stands between the braces decides the placeholder. The sign behind the name says which
    rule it is, and no sign can be part of a name. -/
theorem Inside.unique {p q : Placeholder} {s : List Char} (hp : Inside p s) (hq : Inside q s) :
    p = q := by
  -- What follows the padded name is empty or starts with a mark, and tells which rule it is.
  have hnil : ∀ c ∈ ([] : List Char).head?, Text.isBlank c = false ∧ isNameChar c = false := by
    simp
  have hmark : ∀ {d : Char} (rest : List Char), d ∈ ['?', '|', '\x7b', '\x7d'] →
      ∀ c ∈ (d :: rest).head?, Text.isBlank c = false ∧ isNameChar c = false := by
    intro d rest hd c hc
    rw [List.head?_cons, Option.mem_some_iff] at hc
    exact hc ▸ not_padding_of_mem hd
  have htail : ∀ {p : Placeholder} {s : List Char}, Inside p s →
      ∃ name padded tail, IsName name ∧ Padded name padded ∧ s = padded ++ tail ∧
        (∀ c ∈ tail.head?, Text.isBlank c = false ∧ isNameChar c = false) ∧
        p = ⟨.ofList name, match tail with
          | [] => .required
          | '?' :: _ => .optional
          | _ :: text => .fallback (.ofList (Text.trim text))⟩ := by
    intro p s h
    cases h with
    | @required name _ hname hpadded =>
        exact ⟨name, s, [], hname, hpadded, by simp, hnil, rfl⟩
    | @optional name padded last hname hpadded hlast =>
        exact ⟨name, padded, _, hname, hpadded, rfl, hmark last (by decide), rfl⟩
    | @fallback name padded text hname hpadded hne hbrace =>
        exact ⟨name, padded, _, hname, hpadded, rfl, hmark text (by decide), rfl⟩
  rcases htail hp with ⟨name, padded, tail, hname, hpadded, hs, hstop, rfl⟩
  rcases htail hq with ⟨name', padded', tail', hname', hpadded', hs', hstop', rfl⟩
  rcases hpadded.append_inj hname hname' hpadded' hstop hstop' (hs.symm.trans hs') with
    ⟨rfl, -, rfl⟩
  rfl

/-! ## Written placeholders -/

/-- A text in double braces. -/
def inBraces (s : List Char) : List Char :=
  '\x7b' :: '\x7b' :: (s ++ ['\x7d', '\x7d'])

/-- A placeholder as it may be written. -/
def Placeholder.Written (p : Placeholder) (s : List Char) : Prop :=
  ∃ inner, Inside p inner ∧ s = inBraces inner

/-- A placeholder is written at the start of a text. What comes after it may be anything, as the
    braces at its end are the first ones. -/
def StartsHole (s : List Char) : Prop :=
  ∃ p lexeme, Placeholder.Written p lexeme ∧ lexeme <+: s

/-- A text without closing braces ends where the first closing brace is. This is how the end of a
    placeholder is found, even if its fallback holds opening braces. -/
theorem append_brace_inj {s t x y : List Char} (hs : '\x7d' ∉ s) (ht : '\x7d' ∉ t)
    (h : s ++ '\x7d' :: x = t ++ '\x7d' :: y) : s = t ∧ x = y := by
  have hclass : ∀ {s : List Char}, '\x7d' ∉ s → ∀ c ∈ s, (c != '\x7d') = true := by
    intro s hs c hc
    rw [bne_iff_ne]
    rintro rfl
    exact hs hc
  rcases append_inj_of_run (hclass hs) (hclass ht) (by simp) (by simp) h with ⟨rfl, hrest⟩
  exact ⟨rfl, (List.cons.inj hrest).2⟩

/-- Only one placeholder is written at a place, and only in one way. -/
theorem Placeholder.Written.unique {p q : Placeholder} {s t x y : List Char} (hp : p.Written s)
    (hq : q.Written t) (h : s ++ x = t ++ y) : p = q ∧ s = t ∧ x = y := by
  rcases hp with ⟨inner, hinner, rfl⟩
  rcases hq with ⟨inner', hinner', rfl⟩
  simp only [inBraces, List.cons_append, List.append_assoc, List.nil_append, List.cons.injEq,
    true_and] at h
  rcases append_brace_inj hinner.brace_notMem hinner'.brace_notMem h with ⟨rfl, hrest⟩
  exact ⟨hinner.unique hinner', rfl, (List.cons.inj hrest).2⟩

theorem Placeholder.Written.ne_nil {p : Placeholder} {s : List Char} (h : p.Written s) :
    s ≠ [] := by
  rcases h with ⟨inner, -, rfl⟩
  exact List.cons_ne_nil _ _

theorem Placeholder.Written.startsHole {p : Placeholder} {s : List Char} (h : p.Written s)
    (rest : List Char) : StartsHole (s ++ rest) :=
  ⟨p, s, h, List.prefix_append s rest⟩

theorem not_startsHole_nil : ¬ StartsHole [] := by
  rintro ⟨p, s, hs, hprefix⟩
  exact hs.ne_nil (List.prefix_nil.1 hprefix)

/-! ## Tokens of a text -/

/-- The tokens that a text consists of. The conditions on a text make sure that it ends where the
    next placeholder starts, so there is one way to cut. -/
inductive Tiles : List Token → List Char → Prop
  /-- No token makes the empty text. -/
  | nil : Tiles [] []
  /-- A placeholder stands as it may be written. -/
  | hole {p : Placeholder} {lexeme rest : List Char} {tokens : List Token}
      (hwritten : p.Written lexeme) (h : Tiles tokens rest) :
      Tiles (.hole p :: tokens) (lexeme ++ rest)
  /-- A text stands as it is. It is not empty, no further text follows it, and
      from no place within it a placeholder starts, wherever that would end. -/
  | text {content : String} {rest : List Char} {tokens : List Token} (hne : content ≠ "")
      (hnext : ∀ token ∈ tokens.head?, token.placeholder?.isSome = true)
      (hfree : ∀ before after, content.toList = before ++ after → after ≠ [] →
        ¬ StartsHole (after ++ rest))
      (h : Tiles tokens rest) : Tiles (.text content :: tokens) (content.toList ++ rest)

/-- A text that starts with a text token starts with no placeholder. -/
theorem not_startsHole_of_tiles_text {content : String} {tokens : List Token} {s : List Char}
    (h : Tiles (.text content :: tokens) s) : s ≠ [] ∧ ¬ StartsHole s := by
  cases h with
  | @text content rest tokens hne hnext hfree h =>
      have hlist : content.toList ≠ [] := by
        rwa [Ne, ← String.toList_empty, String.toList_inj]
      exact ⟨by simp [hlist], hfree [] _ rfl hlist⟩

/-- What follows a text token is the end, or starts with a placeholder. -/
theorem eq_nil_or_startsHole_of_tiles {tokens : List Token} {s : List Char}
    (h : Tiles tokens s) (hnext : ∀ token ∈ tokens.head?, token.placeholder?.isSome = true) :
    s = [] ∨ StartsHole s := by
  cases h with
  | nil => exact Or.inl rfl
  | hole hwritten h => exact Or.inr (hwritten.startsHole _)
  | text hne hnext' hfree h =>
      have htext := hnext _ rfl
      exact absurd htext (by simp [Token.placeholder?])

/-- A text that reaches up to a placeholder or the end, and does not hold the start of one, is no
    longer than another such text. So both are the same, and texts between placeholders end in one
    place only. -/
theorem length_le_of_free {s t x y : List Char} (h : s ++ x = t ++ y)
    (hfree : ∀ before after, t = before ++ after → after ≠ [] → ¬ StartsHole (after ++ y))
    (hx : x = [] ∨ StartsHole x) : t.length ≤ s.length := by
  by_contra hlt
  -- Otherwise the placeholder after the one text starts within the other.
  rcases List.append_eq_append_iff.1 h with ⟨u, ht, hxu⟩ | ⟨u, hs, -⟩
  · have hu : u ≠ [] := by
      rintro rfl
      rw [ht, List.append_nil] at hlt
      exact hlt (Nat.le_refl _)
    rcases hx with hnil | hstart
    · rw [hnil] at hxu
      exact hu (List.append_eq_nil_iff.1 hxu.symm).1
    · rw [hxu] at hstart
      exact hfree s u ht hu hstart
  · rw [hs, List.length_append] at hlt
    omega

/-- A text consists of its tokens in one way only. At a place where a placeholder starts, a text
    cannot; and where none starts, the text goes on up to the next one. -/
theorem Tiles.unique {tokens tokens' : List Token} {s : List Char} (h : Tiles tokens s)
    (h' : Tiles tokens' s) : tokens = tokens' := by
  induction h generalizing tokens' with
  | nil =>
      cases hs : tokens' with
      | nil => rfl
      | cons t ts =>
          rw [hs] at h'
          cases t with
          | text content => exact absurd rfl (not_startsHole_of_tiles_text h').1
          | hole p =>
              generalize hnil : ([] : List Char) = s at h'
              cases h' with
              | hole hwritten h =>
                  exact absurd (List.append_eq_nil_iff.1 hnil.symm).1 hwritten.ne_nil
  | @hole p lexeme rest tokens hwritten h ih =>
      generalize hs : lexeme ++ rest = s at h'
      cases h' with
      | nil => exact absurd (List.append_eq_nil_iff.1 hs).1 hwritten.ne_nil
      | hole hwritten' h' =>
          rcases hwritten.unique hwritten' hs with ⟨rfl, rfl, rfl⟩
          rw [ih h']
      | text hne hnext hfree h' =>
          have hstart := hwritten.startsHole rest
          rw [hs] at hstart
          exact absurd hstart (not_startsHole_of_tiles_text (.text hne hnext hfree h')).2
  | @text content rest tokens hne hnext hfree h ih =>
      have hfirst := not_startsHole_of_tiles_text (.text hne hnext hfree h)
      generalize hs : content.toList ++ rest = s at h' hfirst
      cases h' with
      | nil => exact absurd rfl hfirst.1
      | hole hwritten' h' => exact absurd (hwritten'.startsHole _) hfirst.2
      | @text content' rest' tokens' hne' hnext' hfree' h' =>
          -- Neither of the two texts is longer than the other.
          have hle := length_le_of_free hs hfree' (eq_nil_or_startsHole_of_tiles h hnext)
          have hge := length_le_of_free hs.symm hfree (eq_nil_or_startsHole_of_tiles h' hnext')
          rcases List.append_inj hs (Nat.le_antisymm hge hle) with ⟨hcontent, rfl⟩
          rw [String.toList_inj.1 hcontent, ih h']

end Stencil.Template
