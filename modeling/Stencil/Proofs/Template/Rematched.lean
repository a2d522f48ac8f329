import Stencil.Proofs.Template.Combined

/-!
# Finds That Are Matched Once More

That a placeholder is built from what was captured when it was found.

All patterns of a registry are looked for in one pass, side by side, each in a group
of its own. What was found is then matched a second time, by the pattern of its form
alone and without the text around it. The two could disagree: the second time, a run
that was cut short to leave something for the next piece might do without, or
a default might take blanks that it did not take before; and the groups have other
numbers.

They do agree for patterns put together from runs, sequences, alternatives and
groups. The form that is asked is the one whose pattern was found, since
each find carries the name of its form; and what this pattern found first at the place
is what it finds first in the text that was found.

## Main definitions

* `Pattern.isSimple`: A supported pattern that depends on nothing but what it covers.
* `groupNumber`: The number of the group of a form after others.
* `Registry.Rematches`: A find, the form that it is of, and what both matches say.

## Theorems

* `Registry.fit?_combinedFrom`: What is found by all patterns side by side.
* `Registry.exists_rematches`: What is found at a place is matched once more.
* `Registry.exists_of_scanFrom_error`: What goes wrong in a scan goes wrong with a find.
* `Registry.rematched`: No find fails to match once more, and all captures are those
  of the find.
-/

namespace Stencil

open Pattern (Cursor)

namespace Pattern

/-- Whether a pattern is supported and, if it can be read, put together from runs,
    sequences, alternatives and groups. -/
def isSimple (source : String) : Bool :=
  isSupported source && (ofSource source).toOption.all isPlain

/-- Names in brackets of several kinds, texts between braces, single characters. -/
example : ["\\[\\[\\s*([a-zA-Z\\-]+)\\s*\\]\\]", "\\\x7b\\\x7b([^\x7d]*)\\\x7d\\\x7d",
    "\\\x7b\\\x7b\\s*([a-zA-Z\\-]+)\\s*!\\s*\\\x7d\\\x7d", "\\$\\(([a-z]+)=([^)]*)\\)", "<([a-z]+)>",
    "<([a-z]+)> *", "x", Template.Form.required.source, Template.Form.optional.source,
    Template.Form.fallback.source].all isSimple = true := by
  decide +kernel

end Pattern

namespace Template

/-- The number of the group of a form that comes after others, if the first of them
    has the given one. -/
def groupNumber (first : Nat) : List Entry → Nat
  | [] => first
  | entry :: before => groupNumber (first + (entry.pattern.groups + 1)) before

namespace Registry

variable {r : Registry} {forms : List Form} {mustCover : Bool} {past s : List Char}

/-! ## All patterns side by side -/

/-- Of two alternatives, the one that is found first is that of the one, if there is any. -/
theorem fit?_either (p q : Pattern) (mustCover : Bool) (c : Cursor) :
    (Pattern.either p q).fit? mustCover c = (p.fit? mustCover c).or (q.fit? mustCover c) := by
  rw [Pattern.fit?_eq_findSome?, Pattern.fit?_eq_findSome?, Pattern.fit?_eq_findSome?,
    Pattern.results, List.findSome?_append]

theorem fit?_nowhere (mustCover : Bool) (c : Cursor) :
    (Pattern.look false 0 .empty).fit? mustCover c = none := by
  rw [Pattern.fit?_eq_findSome?]
  rfl

/-- What is found first is that of the first pattern, or else of those after it. The last pattern
    has nothing after it, and nothing is what no alternative finds. -/
theorem fit?_combinedFrom_cons (number : Nat) (entry : Entry) (entries : List Entry)
    (c : Cursor) :
    (combinedFrom number (entry :: entries)).fit? mustCover c =
      ((entry.alternative number).fit? mustCover c).or
        ((combinedFrom (number + (entry.pattern.groups + 1)) entries).fit? mustCover c) := by
  cases entries with
  | nil => rw [combinedFrom, combinedFrom, fit?_nowhere, Option.or_none]
  | cons next entries =>
      rw [combinedFrom, fit?_either]
      exact List.cons_ne_nil _ _

/-- Nothing is found if no pattern fits. -/
theorem fit?_combinedFrom_eq_none {entries : List Entry}
    (hplain : ∀ entry ∈ entries, entry.pattern.isPlain = true)
    (h : ∀ entry ∈ entries, entry.pattern.fit? mustCover ⟨past, s, []⟩ = none) (number : Nat) :
    (combinedFrom number entries).fit? mustCover ⟨past, s, []⟩ = none := by
  induction entries generalizing number with
  | nil => exact fit?_nowhere _ _
  | cons entry entries ih =>
      rw [List.forall_mem_cons] at hplain h
      rw [fit?_combinedFrom_cons, ih hplain.2 h.2, Entry.alternative,
        Pattern.fit?_group_raise hplain.1, h.1]
      rfl

/-- What is found is what the first pattern finds that fits, in a group of its own. The groups of
    the pattern are counted on from those of the patterns before it, though these have found
    nothing. -/
theorem fit?_combinedFrom {before after : List Entry} {entry : Entry} {d : Cursor}
    (hplain : ∀ other ∈ before ++ entry :: after, other.pattern.isPlain = true)
    (hbefore : ∀ other ∈ before, other.pattern.fit? mustCover ⟨past, s, []⟩ = none)
    (hentry : entry.pattern.fit? mustCover ⟨past, s, []⟩ = some d) (number : Nat) :
    (combinedFrom number (before ++ entry :: after)).fit? mustCover ⟨past, s, []⟩ =
      some ((d.raise (groupNumber number before)).cover (groupNumber number before)
        ⟨past, s, []⟩) := by
  induction before generalizing number with
  | nil =>
      rw [List.nil_append, fit?_combinedFrom_cons, Entry.alternative,
        Pattern.fit?_group_raise (hplain entry (by simp)), hentry]
      rfl
  | cons first before ih =>
      -- The first pattern finds nothing, so its alternative is left and only its groups are
      -- counted.
      rw [List.cons_append, List.forall_mem_cons] at hplain
      rw [List.forall_mem_cons] at hbefore
      rw [List.cons_append, fit?_combinedFrom_cons, Entry.alternative,
        Pattern.fit?_group_raise hplain.1, hbefore.1, ih hplain.2 hbefore.2]
      rfl

/-! ## Finds and captures -/

/-- A find at a place is of a form that comes after others, and is matched once more by
    the pattern of that form; `d` is where all patterns side by side come to. -/
structure Rematches (r : Registry) (mustCover : Bool) (past s : List Char) (find : Find)
    (before : List Entry) (entry : Entry) (d : Cursor) : Prop where
  among : before ++ [entry] <+: r.entries
  /-- The pattern of the form is the one that its source describes on its own. -/
  ofSource : Pattern.ofSource entry.form.source = .ok entry.pattern
  /-- It fits at the place, and none of those before it does. -/
  fits : (entry.pattern.fit? mustCover ⟨past, s, []⟩).isSome = true
  skipped : ∀ other ∈ before, other.pattern.fit? mustCover ⟨past, s, []⟩ = none
  identified : identify find r.entries = .ok entry
  /-- All patterns side by side find the same text. -/
  combined : r.combined.fit? mustCover ⟨past, s, []⟩ = some d
  covers : find.text ++ d.rest = s
  /-- Matched once more, it captures what the same groups captured there. -/
  whole : entry.pattern.whole? find.text =
    some (entry.pattern.capturesFrom (groupNumber 1 before) d)
  build : r.build find =
    entry.form.placeholder (entry.pattern.capturesFrom (groupNumber 1 before) d)

section Simple

variable (h : ∀ form ∈ forms, Pattern.isSimple form.source = true) (hr : ofForms forms = .ok r)

include h hr

/-- A registry of simple patterns is local, and all its patterns are plain: each can be read
    anywhere, and looks at nothing but the text that it finds. -/
theorem isLocal_and_isPlain : r.IsLocal ∧ ∀ entry ∈ r.entries, entry.pattern.isPlain = true := by
  have hsimple : ∀ form ∈ forms, Pattern.isSupported form.source = true ∧
      (Pattern.ofSource form.source).toOption.all Pattern.isPlain = true :=
    fun form hform => Bool.and_eq_true_iff.1 (h form hform)
  have hlocal := (isLocal_of_ofForms (fun form hform => (hsimple form hform).1) hr).1
  refine ⟨hlocal, fun entry hentry => ?_⟩
  have hform : entry.form ∈ forms := by
    rw [← forms_ofForms hr]
    exact List.mem_map_of_mem hentry
  -- The entry holds the pattern that its source describes, of which the condition speaks.
  have hplain := (hsimple entry.form hform).2
  rwa [hlocal.ofSource entry hentry] at hplain

/-- What is found at a place is matched once more by the first form whose own pattern fits there.
    A plain pattern does not look past what it finds, so it finds the same in the text alone, and
    the numbers of its groups are the same but for where they start. -/
theorem exists_rematches {find : Find} {rest : List Char}
    (hfind : r.findAt? mustCover past s = some (find, rest)) :
    ∃ before entry d, d.rest = rest ∧ r.Rematches mustCover past s find before entry d := by
  rcases isLocal_and_isPlain h hr with ⟨hlocal, hplain⟩
  have happend := findAt?_append hfind
  rw [findAt?, List.findSome?_eq_some_iff] at hfind
  rcases hfind with ⟨before, entry, after, hentries, hfound, hbefore⟩
  have hentry : entry ∈ r.entries := by simp [hentries]
  rw [hlocal.placed_eq hentry, Option.map_eq_some_iff] at hfound
  rcases hfound with ⟨c, hc, heq⟩
  cases heq
  -- The entries that were passed over found nothing in their places, so nothing on their own.
  have hskipped : ∀ other ∈ before, other.pattern.fit? mustCover ⟨past, s, []⟩ = none := by
    intro other hother
    have hnone := hbefore other hother
    rwa [hlocal.placed_eq (by simp [hentries, hother]), Option.map_eq_none_iff] at hnone
  let number := groupNumber 1 before
  -- Side by side, and alone on the text that was found.
  have hcombined := fit?_combinedFrom (hentries ▸ hplain) hskipped hc 1
  rw [← hentries] at hcombined
  have hwhole := Pattern.whole?_of_fit? (hplain entry hentry) hc
  rw [← Pattern.capturesFrom_cover _ number ⟨past, s, []⟩] at hwhole
  rcases hlocal.build_eq hentry c (Pattern.before s c.rest) with ⟨hidentify, hbuild⟩
  rw [Entry.placeholder, hwhole] at hbuild
  exact ⟨before, entry, (c.raise number).cover number ⟨past, s, []⟩, rfl, {
    among := ⟨after, by rw [hentries, List.append_assoc]; rfl⟩
    ofSource := hlocal.ofSource entry hentry
    fits := by rw [hc]; rfl
    skipped := hskipped
    identified := hidentify
    combined := hcombined
    covers := happend
    whole := hwhole
    build := hbuild }⟩

/-- Nothing is found at a place just if all patterns side by side find nothing there. -/
theorem findAt?_eq_none_iff : r.findAt? mustCover past s = none ↔
    r.combined.fit? mustCover ⟨past, s, []⟩ = none := by
  rcases isLocal_and_isPlain h hr with ⟨hlocal, hplain⟩
  constructor
  · intro hnone
    refine fit?_combinedFrom_eq_none hplain (fun entry hentry => ?_) 1
    have hnot := List.findSome?_eq_none_iff.1 hnone entry hentry
    rw [Option.map_eq_none_iff, hlocal.eq_entry entry hentry] at hnot
    rw [hlocal.eq_entry entry hentry]
    exact hnot
  · intro hnone
    -- A find would be one of all patterns side by side as well.
    cases hfind : r.findAt? mustCover past s with
    | none => rfl
    | some found =>
        rcases exists_rematches h hr hfind with ⟨before, entry, d, -, hd⟩
        rw [hd.combined] at hnone
        cases hnone

end Simple

/-! ## Scans -/

/-- What a search comes to was found at some place. -/
theorem exists_of_searchFrom? {before rest : List Char} {find : Find}
    (h : r.searchFrom? mustCover past s = some (before, find, rest)) :
    ∃ mustCover past s, r.findAt? mustCover past s = some (find, rest) := by
  induction s generalizing mustCover past before with
  | nil =>
      obtain ⟨found, hfound, heq⟩ := Option.map_eq_some_iff.1 h
      cases heq
      exact ⟨mustCover, past, [], hfound⟩
  | cons c s ih =>
      unfold searchFrom? at h
      split at h
      · rename_i hfound
        cases h
        exact ⟨mustCover, past, c :: s, hfound⟩
      · obtain ⟨⟨before', find', rest'⟩, hsearch, heq⟩ := Option.map_eq_some_iff.1 h
        cases heq
        exact ih hsearch

/-- What goes wrong in a scan goes wrong with a find. To scan is to find placeholders and to build
    them, and only building can fail. -/
theorem exists_of_scanFrom_error {e : Error} (h : r.scanFrom mustCover past s = .error e) :
    ∃ mustCover past s find rest, r.findAt? mustCover past s = some (find, rest) ∧
      r.build find = .error e := by
  -- The induction is on the measure by which scanning ends.
  induction hsize : 2 * s.length + (!mustCover).toNat using Nat.strongRecOn
    generalizing mustCover past s with
  | _ size ih =>
    rw [scanFrom_eq] at h
    cases hread : r.readsFrom mustCover past s with
    | none =>
        rw [hread] at h
        cases h
    | some found =>
        obtain ⟨before, text, placeholder, rest⟩ := found
        obtain ⟨⟨_, find, _⟩, hsearch, heq⟩ := Option.map_eq_some_iff.1 hread
        cases heq
        rw [hread] at h
        dsimp only at h
        -- The scan stops at the first find, or at one after it, where less is left.
        rcases bind_eq_error.1 h with hbuild | ⟨p, -, h⟩
        · rcases exists_of_searchFrom? hsearch with ⟨mustCover', past', s', hfind⟩
          exact ⟨mustCover', past', s', find, rest, hfind, hbuild⟩
        · rcases bind_eq_error.1 h with hlater | ⟨tokens, -, h⟩
          · have hless := searchFrom?_decreasing hsearch
            exact ih _ (by omega) hlater rfl
          · cases h

/-- A part that is no text was not captured. -/
theorem eq_of_part {form : String} {captures : List (Option (List Char))} {i : Nat} {e : Error}
    (h : part form captures i = .error e) : e = .noCapture form ∨ e = .emptyCapture form := by
  unfold part at h
  split at h
  · exact .inl (Except.error.inj h).symm
  · exact .inr (Except.error.inj h).symm
  · cases h

/-- A form does not fail to match when it builds a placeholder from captures. -/
theorem placeholder_ne_selfMismatch (form : Form) (captures : List (Option (List Char)))
    (name text : String) : form.placeholder captures ≠ .error (.selfMismatch name text) := by
  intro h
  have hpart : ∃ i, part form.name captures i = .error (.selfMismatch name text) := by
    rcases bind_eq_error.1 h with hname | ⟨found, -, h⟩
    · exact ⟨0, hname⟩
    · cases hbuild : form.build with
      | required | optional =>
          rw [hbuild] at h
          cases h
      | fallback =>
          rw [hbuild] at h
          rcases bind_eq_error.1 h with htext | ⟨default, -, h⟩
          · exact ⟨1, htext⟩
          · cases h
  -- What a part can fail with is that it is missing, or that its group is.
  rcases hpart with ⟨i, hi⟩
  rcases eq_of_part hi with heq | heq
  · cases heq
  · cases heq

/-- In a registry of simple patterns no find fails to match once more. The line in which all
    patterns are written reads as the patterns side by side. What is found at a place is of the
    first form whose own pattern fits there, and the captures that its placeholder is built from
    are those of the same groups when all patterns were matched side by side.

    So to match all patterns side by side and to match them one after the other comes to the same,
    and the second match, which a form makes on its own, cannot be lost. -/
theorem rematched (h : ∀ form ∈ forms, Pattern.isSimple form.source = true)
    (hr : ofForms forms = .ok r) :
    Pattern.ofSource r.combinedSource = .ok r.combined ∧
    (∀ template name text, (r.tokenize template).outcome ≠ .error (.selfMismatch name text)) ∧
    ∀ mustCover past s,
      (r.findAt? mustCover past s = none ↔ r.combined.fit? mustCover ⟨past, s, []⟩ = none) ∧
      ∀ find rest, r.findAt? mustCover past s = some (find, rest) →
        ∃ before entry d, d.rest = rest ∧ r.Rematches mustCover past s find before entry d := by
  have hsupported : ∀ form ∈ forms, Pattern.isSupported form.source = true :=
    fun form hform => (Bool.and_eq_true_iff.1 (h form hform)).1
  refine ⟨ofSource_combinedSource hsupported hr, fun template name text hfail => ?_,
    fun mustCover past s =>
      ⟨findAt?_eq_none_iff h hr, fun find rest => exists_rematches h hr⟩⟩
  rw [outcome_tokenize] at hfail
  rcases exists_of_scanFrom_error hfail with ⟨mustCover, past, s, find, rest, hfind, hbuild⟩
  rcases exists_rematches h hr hfind with ⟨before, entry, d, -, hd⟩
  exact placeholder_ne_selfMismatch _ _ _ _ (hd.build.symm.trans hbuild)

/-- Blanks behind a name in angle brackets are part of what is found. The group of the
    name is the fifth of all, after three for the form that comes first and the one of
    its own form. -/
theorem rematched_angled :
    let angled : Form := ⟨"angled", "<([a-z]+)> *", .required⟩
    let s := "<a>  b".toList
    ∃ r, ofForms [.fallback, angled] = .ok r ∧
      Pattern.ofSource r.combinedSource = .ok r.combined ∧
      (∀ template name text, (r.tokenize template).outcome ≠ .error (.selfMismatch name text)) ∧
      ∃ find before entry d, r.findAt? false [] s = some (find, ['b']) ∧ entry.form = angled ∧
        r.Rematches false [] s find before entry d ∧ d.rest = ['b'] ∧
        entry.pattern.capturesFrom (groupNumber 1 before) d = [some ['a']] := by
  intro angled s
  let entry : Entry := localEntry angled <| .inOrder
    [.char '<', .group 1 (.run (.of [.range 'a' 'z']) 1 none), .char '>', .run (.single ' ') 0 none]
  let fallback : Entry := localEntry .fallback
    (bracedPattern [.char '|', .blanks, .group 2 fallbackPattern, .blanks])
  let r : Registry := ⟨[fallback, entry]⟩
  let find : Find := ⟨["fallback", "angled"], ["angled"], "<a>  ".toList⟩
  have hr : ofForms [.fallback, angled] = .ok r := by decide +kernel
  have hsimple : ∀ form ∈ [.fallback, angled], Pattern.isSimple form.source = true := by
    decide +kernel
  have hfind : r.findAt? false [] s = some (find, ['b']) := by decide +kernel
  rcases rematched hsimple hr with ⟨hcombined, hnever, hplaces⟩
  rcases (hplaces false [] s).2 find ['b'] hfind with ⟨before, found, d, hrest, hd⟩
  have hentry : identify find r.entries = .ok entry := by decide +kernel
  obtain rfl : found = entry := Except.ok.inj (hd.identified.symm.trans hentry)
  have hcaptures : entry.pattern.whole? find.text = some [some ['a']] := by decide +kernel
  refine ⟨r, hr, hcombined, hnever, find, before, entry, d, hfind, rfl, hd, hrest, ?_⟩
  exact Option.some.inj (hd.whole.symm.trans hcaptures)

end Registry

end Template

end Stencil
