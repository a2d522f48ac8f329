import Stencil.Proofs.Template.Found
import Stencil.Template.Basic

/-!
# Templates Written Anew

A template whose placeholders are written in another way.

Writing a placeholder anew changes the text right next to texts that may end in
a brace, or hold the start of a placeholder that is never finished. No new
placeholder comes into being that way. `startsHole_swap` is the reason: whether
a placeholder starts at a place before another one depends only on what lies
between the two. Either it ends there, at a closing brace; or there is none, and
then it reaches up to the end of the other, and would do so however that is
written.

So the tokens of a text stay what they are if each placeholder is replaced by
one that is written in its plain form, be it the same placeholder or another.
The plain form of a placeholder is one in which it may be written, and neither
of its ends is blank, so nothing is trimmed off a template that is written anew
that was not trimmed off before.

## Main definitions

* `Token.replace`: A token with its placeholder replaced.

## Theorems

* `startsHole_swap`: How a placeholder is written does not matter to what
  starts before it.
* `Placeholder.Written.source`: The plain form is one that may be read.
* `Tiles.replace`: Tokens stay tokens when placeholders are written anew.
* `outcome_tokenize_replace`: A template that is written anew is read as written.
* `outcome_ofText_text`: Writing a template in its plain form changes nothing.
-/

namespace Stencil.Template

/-! ## Before a placeholder -/

/-- Nothing and no brace starts what stands between the braces, so of three braces in a row the
    last two open a placeholder. -/
theorem Inside.head_ne_brace {p : Placeholder} {s t : List Char} (h : Inside p s) :
    s ≠ [] ∧ s ≠ '\x7b' :: t := by
  have hpadded : ∀ {name padded tail : List Char}, IsName name → Padded name padded →
      padded ++ tail ≠ [] ∧ padded ++ tail ≠ '\x7b' :: t := by
    intro name padded tail hname hpadded
    have hbrace := hpadded.notMem hname (c := '\x7b') (by decide)
    have hne : padded ≠ [] := by
      rcases hpadded with ⟨hbefore, hafter⟩
      simp [hname.ne_nil]
    refine ⟨by simp [hne], fun heq => ?_⟩
    rcases List.exists_cons_of_ne_nil hne with ⟨c, rest, rfl⟩
    rw [List.cons_append, List.cons.injEq] at heq
    exact hbrace (heq.1 ▸ List.mem_cons_self ..)
  cases h with
  | required hname hs =>
      have hpad : s ++ [] ≠ [] ∧ s ++ [] ≠ '\x7b' :: t := hpadded hname hs
      rwa [List.append_nil] at hpad
  | optional hname hs hlast => exact hpadded hname hs
  | fallback hname hs hne hbrace => exact hpadded hname hs

/-- An opening brace can only stand in a fallback, where it may as well be
    followed by something else. -/
theorem Inside.swap {p : Placeholder} {s t t' : List Char} (h : Inside p (s ++ '\x7b' :: t))
    (ht' : '\x7d' ∉ t') : ∃ q, Inside q (s ++ '\x7b' :: t') := by
  have hmem : '\x7b' ∈ s ++ '\x7b' :: t := by simp
  generalize hinner : s ++ '\x7b' :: t = inner at h hmem
  cases h with
  | required hname hpadded => exact absurd hmem (hpadded.notMem hname (by decide))
  | @optional name padded last hname hpadded hlast =>
      have hpart := hpadded.notMem hname (c := '\x7b') (by decide)
      have hblank : '\x7b' ∉ last := fun h => absurd (hlast _ h) (by decide)
      simp [hpart, hblank] at hmem
  | @fallback name padded text hname hpadded hne hbrace =>
      have hpart := hpadded.notMem hname (c := '\x7b') (by decide)
      -- The brace stands behind the bar, for it is no part of the name.
      rcases List.append_eq_append_iff.1 hinner with ⟨u, hpad, htail⟩ | ⟨u, hs, htail⟩
      · rcases u with _ | ⟨c, u⟩
        · exact absurd (List.cons.inj htail).1 (by decide)
        · have hc : c = '\x7b' := (List.cons.inj htail).1.symm
          rw [hpad, hc] at hpart
          exact absurd (by simp) hpart
      · rcases u with _ | ⟨c, u⟩
        · exact absurd (List.cons.inj htail).1 (by decide)
        · rw [List.cons_append, List.cons.injEq] at htail
          rcases htail with ⟨rfl, rfl⟩
          rw [hs, List.append_assoc, List.cons_append]
          refine ⟨_, .fallback hname hpadded (by simp) ?_⟩
          simp only [List.mem_append, List.mem_cons, not_or] at hbrace ⊢
          exact ⟨hbrace.1, by decide, ht'⟩

/-- How a placeholder is written, and what follows it, does not matter to what starts before it.
    That can be seen from where the first closing brace is: before the placeholder, or at its end,
    and only a fallback reaches that far. -/
theorem startsHole_swap {p q : Placeholder} {u s t x y : List Char} (hp : p.Written s)
    (hq : q.Written t) (hu : u ≠ []) (h : StartsHole (u ++ (s ++ x))) :
    StartsHole (u ++ (t ++ y)) := by
  rcases hp with ⟨b, hb, rfl⟩
  rcases hq with ⟨b', hb', rfl⟩
  rcases h with ⟨r, lexeme, ⟨inner, hinner, rfl⟩, rest, heq⟩
  simp only [inBraces, List.cons_append, List.append_assoc, List.nil_append] at heq
  rcases u with _ | ⟨c, _ | ⟨d, u⟩⟩
  · exact absurd rfl hu
  · -- Only one brace lies before: the other is followed by a third.
    simp only [List.cons_append, List.nil_append, List.cons.injEq, true_and] at heq
    rcases inner with _ | ⟨e, inner⟩
    · exact absurd rfl (hinner.head_ne_brace (t := [])).1
    · rw [List.cons_append, List.cons.injEq] at heq
      rw [heq.2.1] at hinner
      exact absurd rfl (hinner.head_ne_brace (t := inner)).2
  · simp only [List.cons_append, List.cons.injEq] at heq
    rcases heq with ⟨rfl, rfl, heq⟩
    by_cases hclose : '\x7d' ∈ u
    · -- It ends before the other placeholder starts.
      rcases List.eq_append_cons_of_mem hclose with ⟨v, w, rfl, hv⟩
      rw [List.append_assoc, List.cons_append] at heq
      rcases append_brace_inj hinner.brace_notMem hv heq with ⟨rfl, hrest⟩
      rcases w with _ | ⟨e, w⟩
      · exact absurd (List.cons.inj hrest).1 (by decide)
      · have he : e = '\x7d' := (List.cons.inj hrest).1.symm
        refine ⟨r, inBraces inner, ⟨inner, hinner, rfl⟩, w ++ (inBraces b' ++ y), ?_⟩
        simp [inBraces, he]
    · -- It reaches up to the end of the other, whatever that is.
      have hinside : '\x7d' ∉ u ++ '\x7b' :: '\x7b' :: b := by
        simp [hclose, hb.brace_notMem]
      have heq' : inner ++ '\x7d' :: ('\x7d' :: rest)
          = (u ++ '\x7b' :: '\x7b' :: b) ++ '\x7d' :: ('\x7d' :: x) := by
        rw [heq]
        simp
      rcases append_brace_inj hinner.brace_notMem hinside heq' with ⟨rfl, -⟩
      have hopen : '\x7d' ∉ '\x7b' :: b' := by
        simp [hb'.brace_notMem]
      rcases hinner.swap hopen with ⟨r', hinner'⟩
      refine ⟨r', _, ⟨_, hinner', rfl⟩, y, ?_⟩
      simp [inBraces]

/-! ## Plain forms -/

/-- A placeholder in its plain form may be read, as the placeholder that it is. -/
theorem Placeholder.Written.source {p : Placeholder} {s : List Char} (h : p.Written s) :
    p.Written p.source.toList := by
  have hspace : ∀ c ∈ [' '], Text.isBlank c = true := by
    intro c hc
    rw [List.mem_singleton.1 hc]
    exact Text.isBlank_space
  rcases h with ⟨inner, hinner, rfl⟩
  cases hinner with
  | @required name padded hname hpadded =>
      have hwide : Padded name ([' '] ++ name ++ [' ']) := ⟨hspace, hspace⟩
      refine ⟨_, .required hname hwide, ?_⟩
      simp [Placeholder.source, braced, inBraces]
  | @optional name padded last hname hpadded hlast =>
      have hwide : Padded name ([' '] ++ name ++ []) := ⟨hspace, List.forall_mem_nil _⟩
      refine ⟨_, .optional hname hwide hspace, ?_⟩
      simp [Placeholder.source, braced, inBraces]
  | @fallback name padded text hname hpadded hne hbrace =>
      have hwide : Padded name ([' '] ++ name ++ [' ']) := ⟨hspace, hspace⟩
      -- The fallback is written without outer blanks, and with one blank at each side.
      have htext : Padded (Text.trim text) ([' '] ++ Text.trim text ++ [' ']) := ⟨hspace, hspace⟩
      have htrim : Text.trim ([' '] ++ Text.trim text ++ [' ']) = Text.trim text := by
        rw [htext.trim_eq, Text.trim_trim]
      have hmem : '\x7d' ∉ [' '] ++ Text.trim text ++ [' '] := by
        have hinner : '\x7d' ∉ Text.trim text := fun h => hbrace (Text.mem_of_mem_trim h)
        simp [hinner]
      have hinside := Inside.fallback hname hwide (by simp) hmem
      rw [htrim] at hinside
      refine ⟨_, hinside, ?_⟩
      simp [Placeholder.source, braced, inBraces]

/-- A placeholder that needs a value, in its plain form, may be read. -/
theorem Placeholder.Written.asRequired {p : Placeholder} {s : List Char} (h : p.Written s) :
    p.asRequired.Written p.asRequired.source.toList := by
  have hrequired : ∀ {name padded : List Char} {rule : Rule}, IsName name → Padded name padded →
      (Placeholder.asRequired ⟨.ofList name, rule⟩).Written (inBraces padded) :=
    fun hname hpadded => ⟨_, .required hname hpadded, rfl⟩
  rcases h with ⟨inner, hinner, rfl⟩
  cases hinner with
  | required hname hpadded => exact (hrequired hname hpadded).source
  | optional hname hpadded hlast => exact (hrequired hname hpadded).source
  | fallback hname hpadded hne hbrace => exact (hrequired hname hpadded).source

/-! ## Replaced placeholders -/

/-- A token with its placeholder replaced. To write a template anew and to forget its rules are
    both of this kind. -/
def Token.replace (f : Placeholder → Placeholder) : Token → Token
  | text content => text content
  | hole p => hole (f p)

theorem map_replace_id (tokens : List Token) : tokens.map (Token.replace id) = tokens := by
  have hid : ∀ t ∈ tokens, Token.replace id t = t := by
    intro t _
    cases t <;> rfl
  rw [List.map_congr_left hid, List.map_id']

/-- The characters of tokens that are written one after the other, each in its plain form. -/
def written (tokens : List Token) : List Char :=
  tokens.flatMap fun t => t.source.toList

theorem toList_join_source (tokens : List Token) :
    (String.join (tokens.map Token.source)).toList = written tokens := by
  rw [String.toList_join, List.flatMap_map, written]

/-- Tokens that make the empty text are none. -/
theorem eq_nil_of_tiles_nil {tokens : List Token} (h : Tiles tokens []) : tokens = [] :=
  h.unique .nil

section Replace

variable {f : Placeholder → Placeholder} {tokens : List Token} {s : List Char}

/-- Tokens stay tokens when their placeholders are replaced and written anew. The texts between
    them are kept, and in none of them does a placeholder start that did not start there before. -/
theorem Tiles.replace (hf : ∀ {p s}, p.Written s → (f p).Written (f p).source.toList)
    (h : Tiles tokens s) :
    Tiles (tokens.map (Token.replace f)) (written (tokens.map (Token.replace f))) := by
  induction h with
  | nil => exact .nil
  | hole hwritten h ih => exact .hole (hf hwritten) ih
  | @text content rest tokens hne hnext hfree h ih =>
      refine .text hne ?_ ?_ ih
      · intro token htoken
        rw [List.head?_map] at htoken
        rcases Option.map_eq_some_iff.1 htoken with ⟨old, hold, rfl⟩
        have hhole := hnext old hold
        cases old with
        | text content => exact absurd hhole (by simp [Token.placeholder?])
        | hole p => rfl
      · intro before after heq hafter hstart
        -- What starts in the text would have started there before.
        cases h with
        | nil => exact hfree before after heq hafter hstart
        | hole hwritten h =>
            exact hfree before after heq hafter
              (startsHole_swap (hf hwritten) hwritten hafter hstart)
        | text hne' hnext' hfree' h =>
            have htext := hnext _ rfl
            exact absurd htext (by simp [Token.placeholder?])

/-- No blank starts a plain form. -/
theorem isBlank_head_source {p : Placeholder} {c : Char} (h : c ∈ p.source.toList.head?) :
    Text.isBlank c = false := by
  have hopen : p.source.toList.head? = some '\x7b' := by
    simp [Placeholder.source, braced]
  rw [hopen, Option.mem_some_iff] at h
  exact h ▸ by decide

/-- No blank ends a plain form. -/
theorem isBlank_last_source {p : Placeholder} {c : Char} (h : c ∈ p.source.toList.getLast?) :
    Text.isBlank c = false := by
  have hclose : p.source.toList.getLast? = some '\x7d' := by
    simp [Placeholder.source, braced, List.getLast?_cons]
  rw [hclose, Option.mem_some_iff] at h
  exact h ▸ by decide

/-- A blank at the start of a text that is written anew was there before. Reading takes blanks off
    the ends, and this is why it takes none off the new text. -/
theorem Tiles.head?_replace (h : Tiles tokens s) {c : Char}
    (hc : c ∈ (written (tokens.map (Token.replace f))).head?) :
    Text.isBlank c = false ∨ c ∈ s.head? := by
  cases h with
  | nil => exact Or.inr hc
  | @hole p lexeme rest tokens hwritten h =>
      rcases head?_append_mem hc with hfirst | ⟨hnil, -⟩
      · exact Or.inl (isBlank_head_source hfirst)
      · have hne : (f p).source.toList ≠ [] := by
          simp [Placeholder.source, braced]
        exact absurd hnil hne
  | @text content rest tokens hne hnext hfree h =>
      have hlist : content.toList ≠ [] := by
        rwa [Ne, ← String.toList_empty, String.toList_inj]
      rcases head?_append_mem hc with hfirst | ⟨hnil, -⟩
      · rw [List.head?_append_of_ne_nil _ hlist]
        exact Or.inr hfirst
      · exact absurd hnil hlist

/-- The last character of a text that is put together from two. -/
theorem getLast?_append_mem {a b : List Char} {c : Char} (h : c ∈ (a ++ b).getLast?) :
    c ∈ b.getLast? ∨ (b = [] ∧ c ∈ a.getLast?) := by
  rw [List.getLast?_append] at h
  cases hb : b.getLast? with
  | none =>
      rw [hb, Option.none_or] at h
      exact Or.inr ⟨List.getLast?_eq_none_iff.1 hb, h⟩
  | some d =>
      rw [hb, Option.some_or] at h
      exact Or.inl h

/-- A blank at the end of a text that is written anew was there before. -/
theorem Tiles.getLast?_replace
    (hf : ∀ {p s}, p.Written s → (f p).Written (f p).source.toList) (h : Tiles tokens s)
    {c : Char} (hc : c ∈ (written (tokens.map (Token.replace f))).getLast?) :
    Text.isBlank c = false ∨ c ∈ s.getLast? := by
  induction h with
  | nil => exact Or.inr hc
  | @hole p lexeme rest tokens hwritten h ih =>
      rcases getLast?_append_mem hc with hlater | ⟨-, hlast⟩
      · exact (ih hlater).imp_right List.mem_getLast?_append_of_mem_getLast?
      · exact Or.inl (isBlank_last_source hlast)
  | @text content rest tokens hne hnext hfree h ih =>
      rcases getLast?_append_mem hc with hlater | ⟨hnil, hlast⟩
      · exact (ih hlater).imp_right List.mem_getLast?_append_of_mem_getLast?
      · -- Nothing follows the text now, so nothing followed it before.
        have htokens : tokens = [] := by
          have hreplaced := h.replace hf
          rw [show written (tokens.map (Token.replace f)) = [] from hnil] at hreplaced
          exact List.map_eq_nil_iff.1 (eq_nil_of_tiles_nil hreplaced)
        subst htokens
        cases h
        rw [List.append_nil]
        exact Or.inr hlast

/-- Nothing is trimmed off a template that is written anew. -/
theorem Tiles.trim_replace (hf : ∀ {p s}, p.Written s → (f p).Written (f p).source.toList)
    (h : Tiles tokens (Text.trim s)) :
    Text.trim (written (tokens.map (Token.replace f))) = written (tokens.map (Token.replace f)) := by
  rcases (Text.trim_eq_self_iff _).1 (Text.trim_trim s) with ⟨hhead, hlast⟩
  rw [Text.trim_eq_self_iff]
  exact ⟨fun c hc => (h.head?_replace hc).elim id (hhead c),
    fun c hc => (h.getLast?_replace hf hc).elim id (hlast c)⟩

end Replace

namespace Registry

/-- A template whose placeholders are replaced and written in their plain forms
    is read as it was written. -/
theorem outcome_tokenize_replace {f : Placeholder → Placeholder}
    (hf : ∀ {p s}, p.Written s → (f p).Written (f p).source.toList) {text : String}
    {tokens : List Token} (h : (standard.tokenize text).outcome = .ok tokens) :
    (standard.tokenize (.join ((tokens.map (Token.replace f)).map Token.source))).outcome =
      .ok (tokens.map (Token.replace f)) := by
  rcases exists_outcome_tokenize text with ⟨found, hfound, htiles⟩
  rw [h, Except.ok.injEq] at hfound
  subst hfound
  apply outcome_tokenize_of_tiles
  rw [toList_join_source, htiles.trim_replace hf]
  exact htiles.replace hf

end Registry

/-- A template in its plain form has the same tokens. So it is its own plain form, and filling it
    with any values gives the same. The texts between the placeholders may hold braces of their
    own, and these come to stand next to other characters than before; still no new placeholder
    arises from them. -/
theorem outcome_ofText_text (text : String) :
    ∃ t : Template, (ofText .standard text).outcome = .ok t ∧
      (Registry.standard.tokenize text).outcome = .ok t.tokens ∧
      (Registry.standard.tokenize t.text).outcome = .ok t.tokens ∧
      ∃ u : Template, (ofText .standard t.text).outcome = .ok u ∧ u.text = t.text ∧
        ∀ values, (u.fillWith values).outcome = (t.fillWith values).outcome := by
  rcases Registry.exists_outcome_tokenize text with ⟨tokens, htokens, -⟩
  have hread : ∀ {text : String}, (Registry.standard.tokenize text).outcome = .ok tokens →
      (ofText .standard text).outcome = .ok ⟨Text.strip text, tokens⟩ := by
    intro text h
    rw [outcome_ofText, h, Except.map]
  -- The plain form depends on the tokens only.
  have htext : ∀ source, (⟨source, tokens⟩ : Template).text = .join (tokens.map Token.source) :=
    fun source => by rw [Template.text]
  -- To write it anew and replace nothing gives the same tokens.
  have hagain : ∀ source,
      (Registry.standard.tokenize (⟨source, tokens⟩ : Template).text).outcome = .ok tokens := by
    intro source
    have hreplace := Registry.outcome_tokenize_replace (f := id) (fun h => h.source) htokens
    rw [map_replace_id] at hreplace
    rw [htext, hreplace]
  refine ⟨_, hread htokens, htokens, hagain _, _, hread (hagain _), ?_, ?_⟩
  · rw [htext, htext]
  · intro values
    rw [fillWith, fillWith]

end Stencil.Template
