import Stencil.Proofs.Pattern.Search
import Stencil.Proofs.Template.Together
import Stencil.Template.Scan

/-!
# Places of a Template

What a registry makes of a place in a text, and that its tokens depend on nothing
else.

A find is made in order to ask the registry about it: which form it is of, and
which placeholder it is. What it holds for that purpose, the names of all forms, is
different in every registry. `reads` leaves it out and keeps the text that was
found, the placeholder that it is, and the text behind it. Two registries that read
the same at every place of a text give it the same tokens: a search that goes from
place to place finds the same, and so does the next one that starts behind it.

In a registry of supported forms no pattern depends on those beside it, and a name
stands for one form. So what it reads at a place is said in terms of single forms:
it is what the first form makes of the place whose own pattern fits there.

## Main definitions

* `Registry.reads`: What a registry makes of a place.
* `Entry.placeholder`, `Entry.reads`: What a text or a place is by a single form.
* `Registry.IsLocal`: A registry in which no pattern depends on others.

## Theorems

* `Registry.scanFrom_congr`: What is read at places decides the tokens.
* `Registry.isLocal_of_ofForms`: Registries of supported forms are local.
* `Registry.IsLocal.build_eq`: What a find is, by the form that it was found by.
* `Registry.IsLocal.reads_eq`: What is read at a place, by single forms.
-/

namespace Stencil.Template

open Pattern (Cursor)

namespace Registry

variable {r r' : Registry} {text : List Char}

/-! ## What decides the tokens -/

/-- What a registry makes of a place: the text that is found there, the placeholder
    that it is, and the text behind it. -/
def reads (r : Registry) (mustCover : Bool) (past s : List Char) :
    Option (List Char × Except Error Placeholder × List Char) :=
  (r.findAt? mustCover past s).map fun (find, rest) => (find.text, r.build find, rest)

/-- What a registry makes of the first find from a place on, and the text before it. How the
    groups of the combined pattern are numbered does not show in this. -/
def readsFrom (r : Registry) (mustCover : Bool) (past s : List Char) :
    Option (List Char × List Char × Except Error Placeholder × List Char) :=
  (r.searchFrom? mustCover past s).map fun (before, find, rest) =>
    (before, find.text, r.build find, rest)

/-- The first find is at the place itself, or it is the first one from the next
    place on. -/
theorem readsFrom_cons (r : Registry) (mustCover : Bool) (past : List Char) (c : Char)
    (s : List Char) :
    r.readsFrom mustCover past (c :: s) =
      ((r.reads mustCover past (c :: s)).map fun found => ([], found)).or
        ((r.readsFrom false (c :: past) s).map fun (before, found) => (c :: before, found)) := by
  unfold readsFrom reads
  rw [searchFrom?]
  cases r.findAt? mustCover past (c :: s) with
  | some found => rfl
  | none =>
      rw [Option.map_none, Option.map_none, Option.none_or, Option.map_map, Option.map_map]
      rfl

/-- Registries that read the same at all places of a text read the same from each of them on. The
    places that come after one are places of the same text, which the condition keeps: what is
    past and what is left make the text. -/
theorem readsFrom_congr
    (h : ∀ mustCover past s, past.reverse ++ s = text →
      r.reads mustCover past s = r'.reads mustCover past s)
    {mustCover : Bool} {past s : List Char} (hs : past.reverse ++ s = text) :
    r.readsFrom mustCover past s = r'.readsFrom mustCover past s := by
  induction s generalizing mustCover past with
  | nil =>
      have hend : ∀ r : Registry, r.readsFrom mustCover past [] =
          (r.reads mustCover past []).map fun found => ([], found) := by
        intro r
        rw [readsFrom, searchFrom?, reads, Option.map_map, Option.map_map]
        rfl
      rw [hend, hend, h _ _ _ hs]
  | cons c s ih =>
      have hnext : (c :: past).reverse ++ s = text := by simpa using hs
      rw [readsFrom_cons, readsFrom_cons, h _ _ _ hs, ih hnext]

/-- The tokens from a place on, by the first find and those behind it. The find itself is not
    spoken of any more, only what is read of it: this is what two registries with different groups
    can have in common. -/
theorem scanFrom_eq (r : Registry) (mustCover : Bool) (past s : List Char) :
    r.scanFrom mustCover past s =
      match r.readsFrom mustCover past s with
      | none => .ok (textTokens s)
      | some (before, found, placeholder, rest) => do
        let placeholder ← placeholder
        let tokens ← r.scanFrom found.isEmpty (found.reverse ++ (before.reverse ++ past)) rest
        return textTokens before ++ .hole placeholder :: tokens := by
  rw [scanFrom, readsFrom]
  split
  · rename_i hnone
    rw [hnone]
    rfl
  · rename_i before find rest hsome
    rw [hsome]
    rfl

/-- Registries that read the same at all places of a text give it the same tokens. -/
theorem scanFrom_congr
    (h : ∀ mustCover past s, past.reverse ++ s = text →
      r.reads mustCover past s = r'.reads mustCover past s)
    {mustCover : Bool} {past s : List Char} (hs : past.reverse ++ s = text) :
    r.scanFrom mustCover past s = r'.scanFrom mustCover past s := by
  -- The induction is on the measure by which scanning ends.
  induction hsize : 2 * s.length + (!mustCover).toNat using Nat.strongRecOn
    generalizing mustCover past s with
  | _ size ih =>
    rw [scanFrom_eq, scanFrom_eq, ← readsFrom_congr h hs]
    cases hread : r.readsFrom mustCover past s with
    | none => rfl
    | some found =>
        obtain ⟨before, found, placeholder, rest⟩ := found
        obtain ⟨⟨_, find, _⟩, hsearch, heq⟩ := Option.map_eq_some_iff.1 hread
        cases heq
        have hsplit := searchFrom?_append hsearch
        have hless := searchFrom?_decreasing hsearch
        -- Behind the find the text is the same, so the condition still holds.
        have hbehind : (find.text.reverse ++ (before.reverse ++ past)).reverse ++ rest = text := by
          rw [← hs, ← hsplit]
          simp
        dsimp only
        rw [ih _ (by omega) hbehind rfl]

/-- Registries that read the same at all places of a template give it the same
    tokens, and say the same about it. -/
theorem tokenize_congr {template : String}
    (h : ∀ mustCover past s, past.reverse ++ s = Text.trim template.toList →
      r.reads mustCover past s = r'.reads mustCover past s) :
    r.tokenize template = r'.tokenize template := by
  rw [tokenize, tokenize, scan, scan, scanFrom_congr h (List.nil_append _)]

end Registry

/-! ## Registries of supported forms -/

/-- The placeholder that a text is by a form. -/
def Entry.placeholder (entry : Entry) (text : List Char) : Except Error Placeholder :=
  match entry.pattern.whole? text with
  | none => .error (.selfMismatch entry.form.name (.ofList text))
  | some captures => entry.form.placeholder captures

/-- What a single form makes of a place, by its own pattern, as if there were no other forms. -/
def Entry.reads (entry : Entry) (mustCover : Bool) (past s : List Char) :
    Option (List Char × Except Error Placeholder × List Char) :=
  (entry.pattern.fit? mustCover ⟨past, s, []⟩).map fun c =>
    let text := Pattern.before s c.rest
    (text, entry.placeholder text, c.rest)

/-- The entry of a form whose pattern reads the same wherever it stands. -/
def Form.entry (form : Form) : Entry :=
  Registry.localEntry form ((Pattern.ofSource form.source).toOption.getD .empty)

namespace Registry

variable {r : Registry} {forms : List Form}

/-- A registry in which no pattern depends on those beside it, and in which a name
    stands for one form. -/
structure IsLocal (r : Registry) : Prop where
  eq_entry : ∀ entry ∈ r.entries, entry = entry.form.entry
  ofSource : ∀ entry ∈ r.entries, Pattern.ofSource entry.form.source = .ok entry.pattern
  names : r.names.Nodup

/-- Registries of supported forms have the entries of these forms. So a registry is known from its
    forms, and how it was made can be forgotten. -/
theorem isLocal_of_ofForms (h : ∀ form ∈ forms, Pattern.isSupported form.source = true)
    (hr : ofForms forms = .ok r) : r.IsLocal ∧ r.entries = forms.map Form.entry := by
  obtain ⟨checked, hchecked, -⟩ := bind_eq_ok.1 hr
  have hread := read_of_checkAll hchecked
  rw [ofForms_of_checkAll h hchecked] at hr
  cases hr
  have hofSource : ∀ f ∈ checked, Pattern.ofSource f.1.source = .ok f.2.pattern := by
    intro f hf
    rw [Pattern.ofSource, hread f hf]
    rfl
  -- Each entry is that of its form, whichever forms it stands among.
  have hentry : ∀ f ∈ checked, localEntry f.1 f.2.pattern = f.1.entry := by
    intro f hf
    rw [Form.entry, hofSource f hf]
    rfl
  have hforms := map_fst_of_checkAll hchecked
  refine ⟨⟨?_, ?_, ?_⟩, ?_⟩
  · intro entry hmem
    rcases List.mem_map.1 hmem with ⟨f, hf, rfl⟩
    exact hentry f hf
  · intro entry hmem
    rcases List.mem_map.1 hmem with ⟨f, hf, rfl⟩
    exact hofSource f hf
  · have hnodup := (exists_checkAll_iff.1 ⟨checked, hchecked⟩).names
    rw [← hforms, List.map_map] at hnodup
    rw [names, Registry.forms, List.map_map, List.map_map]
    exact hnodup
  · rw [← hforms, List.map_map]
    exact List.map_congr_left hentry

/-- A find can be asked about every form of the registry. -/
theorem name_mem_groupNames {entry : Entry} (h : entry ∈ r.entries) :
    entry.form.name ∈ r.groupNames := by
  refine List.mem_append_left _ ?_
  rw [Registry.names, Registry.forms, List.map_map]
  exact List.mem_map_of_mem h

/-- A find is of the only form that took part in it. Names of forms differ, so no other form is
    taken for it. -/
theorem identify_eq_ok {names : List String} {text : List Char} {entries : List Entry}
    (hnames : ∀ entry ∈ entries, entry.form.name ∈ names)
    (hnodup : (entries.map (·.form.name)).Nodup) {entry : Entry} (hentry : entry ∈ entries) :
    identify ⟨names, [entry.form.name], text⟩ entries = .ok entry := by
  induction entries with
  | nil => cases hentry
  | cons first entries ih =>
      rw [List.forall_mem_cons] at hnames
      rw [List.map_cons, List.nodup_cons] at hnodup
      have hknown : names.contains first.form.name = true := by simpa using hnames.1
      rw [identify, hknown, if_neg (by simp)]
      rcases List.mem_cons.1 hentry with rfl | hentry
      · simp
      · -- Another form has another name.
        have hne : first.form.name ≠ entry.form.name :=
          fun heq => hnodup.1 (List.mem_map.2 ⟨entry, hentry, heq.symm⟩)
        rw [if_neg (by simpa using hne)]
        exact ih hnames.2 hnodup.2 hentry

/-- A pattern in a local registry is in its place what it is on its own. -/
theorem IsLocal.placed_eq (hr : r.IsLocal) {entry : Entry} (hentry : entry ∈ r.entries) :
    entry.placed = entry.pattern := by
  rw [hr.eq_entry entry hentry]
  rfl

theorem IsLocal.taken_eq (hr : r.IsLocal) {entry : Entry} (hentry : entry ∈ r.entries)
    (c : Cursor) : entry.taken c = [entry.form.name] := by
  rw [hr.eq_entry entry hentry]
  rfl

/-- In a local registry a find is of the form that it was found by, and it is the
    placeholder that its text is by that form. -/
theorem IsLocal.build_eq (hr : r.IsLocal) {entry : Entry} (hentry : entry ∈ r.entries)
    (c : Cursor) (text : List Char) :
    identify ⟨r.groupNames, entry.taken c, text⟩ r.entries = .ok entry ∧
      r.build ⟨r.groupNames, entry.taken c, text⟩ = entry.placeholder text := by
  have hnodup : (r.entries.map (·.form.name)).Nodup := by
    have h := hr.names
    rwa [Registry.names, Registry.forms, List.map_map] at h
  have hidentify : identify ⟨r.groupNames, entry.taken c, text⟩ r.entries = .ok entry := by
    rw [hr.taken_eq hentry]
    exact identify_eq_ok (fun _ => name_mem_groupNames) hnodup hentry
  refine ⟨hidentify, ?_⟩
  rw [build, hidentify, Entry.placeholder]
  rfl

/-- A local registry makes of a place what the first form makes of it whose pattern
    fits there. -/
theorem IsLocal.reads_eq (hr : r.IsLocal) (mustCover : Bool) (past s : List Char) :
    r.reads mustCover past s = r.entries.findSome? fun entry => entry.reads mustCover past s := by
  rw [reads, findAt?, List.map_findSome?]
  refine Pattern.findSome?_congr fun entry hentry => ?_
  rw [Function.comp_apply, Entry.reads, hr.placed_eq hentry, Option.map_map]
  refine congrFun (congrArg Option.map (funext fun c => ?_)) _
  simp only [Function.comp_apply, (hr.build_eq hentry c _).2]

end Registry

end Stencil.Template
