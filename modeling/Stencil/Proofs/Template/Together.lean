import Mathlib.Data.List.Induction
import Mathlib.Data.List.Nodup
import Stencil.Template.Form

/-!
# Forms That Go Together

Which forms make a registry, and what is told about those that do not.

Forms are checked in order, each against those before it, so a list of forms is
checked in parts: the last form after all the others. Everything here is an
induction along that. `GoTogether` looks at the list as a whole, and
`FirstFault` at one form after others; a list that does not go together has a
shortest start that does not, and the last form of it is the one at fault.

A form is added to a registry by checking all forms anew. That comes to the same
as checking the one form after the others, because a registry holds the forms
that it is made of. There is one thing more than the checks: the patterns
are put side by side when all of them have been read, and for patterns in general
that can fail, so that adding forms one by one would find another fault first.
A pattern that reads the same wherever it stands can be put anywhere.

## Main definitions

* `Pattern.isSupported`: A pattern that can be put beside any others.
* `GoTogether`: Forms that can be told apart and whose patterns can be read.
* `FirstFault`: What is wrong with a form that comes after others.

## Theorems

* `checkAll_concat`: Forms are checked in parts.
* `exists_checkAll_iff`: The checks succeed for forms that go together.
* `checkAll_eq_error_iff`: Which fault the checks find.
* `ofForms_of_checkAll`: The registry of forms that were checked.
* `foldlM_extend`: Forms can be added one by one.
* `ofForms_iff_goTogether`: Which forms make a registry, at once or one by one.
-/

namespace Stencil

namespace Pattern

/-- Whether a pattern can be put beside any others: it reads the same wherever it
    stands, or it cannot be read and a host is told why. -/
def isSupported (source : String) : Bool :=
  match read .none true source with
  | .ok reading => reading.isLocal
  | .error reason => (reason.report? source).isSome

/-- Names in brackets of several kinds, a text between braces, a look ahead, and
    patterns that cannot be read. -/
example : ["\\[\\[\\s*([a-zA-Z\\-]+)\\s*\\]\\]", "\\\x7b\\\x7b([^\x7d]*)\\\x7d\\\x7d",
    "<<([^<>]*)>>(?=!)", "\\\x7b\\\x7b\\s*([a-zA-Z\\-]+)\\s*!\\s*\\\x7d\\\x7d",
    "\\$\\(([a-z]+)=([^)]*)\\)", "<([a-z]+)>", "<([a-z]+)> *", "x", "(", "[a", "*a", ")",
    "a\x7b2,1\x7d", "(?P<x", "\\", "a**", "[z-a]"].all isSupported = true := by
  decide +kernel

theorem isLocal_of_isSupported {source : String} {reading : Reading}
    (h : isSupported source = true) (hread : read .none true source = .ok reading) :
    reading.isLocal = true := by
  rwa [isSupported, hread] at h

theorem isSome_report?_of_isSupported {source : String} {reason : Error}
    (h : isSupported source = true) (hread : read .none true source = .error reason) :
    (reason.report? source).isSome = true := by
  rwa [isSupported, hread] at h

/-- A pattern that reads the same wherever it stands has no names for its groups. -/
theorem names_of_isLocal {groups : Groups} {isWhole : Bool} {source : String} {reading : Reading}
    (h : read groups isWhole source = .ok reading) (hlocal : reading.isLocal = true) :
    reading.groups.names = [] := by
  obtain ⟨-, -, h⟩ := bind_eq_ok.1 h
  obtain ⟨r, -, h⟩ := bind_eq_ok.1 h
  obtain ⟨-, -, rfl⟩ := Reader.finish_eq_ok h
  simp only [Bool.and_eq_true, List.isEmpty_iff] at hlocal
  exact hlocal.1.1.2

/-- A pattern can be read just if there is a reading of it. -/
theorem ofSource_eq_error_iff {source : String} {reason : Error} :
    ofSource source = .error reason ↔ read .none true source = .error reason := by
  rw [ofSource]
  cases read .none true source <;> simp [Except.map]

theorem exists_ofSource_iff {source : String} :
    (∃ p, ofSource source = .ok p) ↔ ∃ reading, read .none true source = .ok reading := by
  rw [ofSource]
  cases read .none true source <;> simp [Except.map]

end Pattern

namespace Template

/-! ## Forms and their faults -/

/-- Forms that can be told apart, by their names and by their patterns, and whose
    patterns can be read. -/
structure GoTogether (forms : List Form) : Prop where
  isIdentifier : ∀ form ∈ forms, Text.isIdentifier form.name = true
  names : (forms.map Form.name).Nodup
  sources : (forms.map Form.source).Nodup
  readable : ∀ form ∈ forms, ∃ p, Pattern.ofSource form.source = .ok p

/-- What is wrong with a form that comes after others. Of several things it is the
    first in this order. -/
inductive FirstFault (before : List Form) (form : Form) : Error → Prop
  /-- Its name is no identifier. -/
  | badName (hname : Text.isIdentifier form.name = false) :
      FirstFault before form (.badName form.name)
  /-- Its name is that of another form. -/
  | takenName (hname : Text.isIdentifier form.name = true)
      (htaken : form.name ∈ before.map Form.name) : FirstFault before form (.takenName form.name)
  /-- Its pattern is that of another form, the first of which is told. -/
  | takenPattern {first : Form} (hname : Text.isIdentifier form.name = true)
      (hfree : form.name ∉ before.map Form.name)
      (htaken : before.find? (·.source = form.source) = some first) :
      FirstFault before form (.takenPattern form.source first.name)
  /-- Its pattern cannot be read. -/
  | badPattern {reason : Pattern.Error} (hname : Text.isIdentifier form.name = true)
      (hfree : form.name ∉ before.map Form.name) (hnew : form.source ∉ before.map Form.source)
      (hread : Pattern.ofSource form.source = .error reason) :
      FirstFault before form (.badPattern form.name form.source reason)

theorem goTogether_nil : GoTogether [] :=
  ⟨by simp, by simp, by simp, by simp⟩

/-- One more form goes together with others if it has nothing in common with them, and is sound by
    itself. -/
theorem goTogether_concat_iff {forms : List Form} {form : Form} :
    GoTogether (forms ++ [form]) ↔ GoTogether forms ∧ Text.isIdentifier form.name = true ∧
      form.name ∉ forms.map Form.name ∧ form.source ∉ forms.map Form.source ∧
      ∃ p, Pattern.ofSource form.source = .ok p := by
  have hnodup : ∀ {l : List String} {a : String}, (l ++ [a]).Nodup ↔ l.Nodup ∧ a ∉ l := by
    -- The names and the sources are both taken apart at the end.
    intro l a
    rw [← List.concat_eq_append, List.nodup_concat, and_comm]
  constructor
  · -- Each of the four conditions is one about the forms before, and one about the last of them.
    rintro ⟨hids, hnames, hsources, hreadable⟩
    rw [List.map_append, List.map_singleton, hnodup] at hnames hsources
    refine ⟨⟨fun f hf => hids f (by simp [hf]), hnames.1, hsources.1,
      fun f hf => hreadable f (by simp [hf])⟩, hids form (by simp), hnames.2, hsources.2,
      hreadable form (by simp)⟩
  · rintro ⟨⟨hids, hnames, hsources, hreadable⟩, hid, hname, hsource, hread⟩
    constructor
    · intro f hf
      rcases List.mem_append.1 hf with hf | hf
      · exact hids f hf
      · rwa [List.mem_singleton.1 hf]
    · rw [List.map_append, List.map_singleton, hnodup]
      exact ⟨hnames, hname⟩
    · rw [List.map_append, List.map_singleton, hnodup]
      exact ⟨hsources, hsource⟩
    · intro f hf
      rcases List.mem_append.1 hf with hf | hf
      · exact hreadable f hf
      · rwa [List.mem_singleton.1 hf]

/-- What is wrong with a form is told to the host. -/
theorem FirstFault.exists_report? {before : List Form} {form : Form} {e : Error}
    (h : Pattern.isSupported form.source = true) (hfault : FirstFault before form e) :
    ∃ text, e.report? = some (.badForms text) := by
  cases hfault with
  | badName | takenName | takenPattern => exact ⟨_, rfl⟩
  | @badPattern reason hname hfree hnew hread =>
      rcases Option.isSome_iff_exists.1 (Pattern.isSome_report?_of_isSupported h
        (Pattern.ofSource_eq_error_iff.1 hread)) with ⟨text, htext⟩
      exact ⟨_, by rw [Error.report?, htext]; rfl⟩

namespace Registry

/-! ## Checking forms -/

variable {seen checked : List (Form × Pattern.Reading)} {forms : List Form} {form : Form}

/-- The checks of one form, in order. -/
theorem check_eq (seen : List (Form × Pattern.Reading)) (form : Form) :
    check seen form =
      if Text.isIdentifier form.name = false then .error (.badName form.name)
      else if form.name ∈ (seen.map Prod.fst).map Form.name then .error (.takenName form.name)
      else match (seen.map Prod.fst).find? (·.source = form.source) with
        | some first => .error (.takenPattern form.source first.name)
        | none => (Pattern.read .none true form.source).mapError
            (.badPattern form.name form.source) := by
  have hname : seen.any (·.1.name = form.name) = true ↔
      form.name ∈ (seen.map Prod.fst).map Form.name := by
    simp
  have hfind : (seen.map Prod.fst).find? (·.source = form.source) =
      (seen.find? (·.1.source = form.source)).map Prod.fst := by
    rw [List.find?_map]
    rfl
  -- The checks look at what was read of the forms before as well, but none of them asks for it.
  -- The cases are the branches of the check.
  rw [hfind]
  simp only [check, hname, Bool.not_eq_true']
  cases Text.isIdentifier form.name with
  | false => rfl
  | true =>
      by_cases htaken : form.name ∈ (seen.map Prod.fst).map Form.name
      · simp only [htaken]
        rfl
      · simp only [htaken]
        cases seen.find? (·.1.source = form.source) with
        | some first => rfl
        | none => cases Pattern.read .none true form.source <;> rfl

/-- No form before has the pattern just if none is found. -/
theorem find?_source_eq_none_iff {before : List Form} {source : String} :
    before.find? (·.source = source) = none ↔ source ∉ before.map Form.source := by
  simp

/-- The checks of a form succeed if it has nothing in common with those before it and
    its pattern is read. -/
theorem check_eq_ok_iff {reading : Pattern.Reading} :
    check seen form = .ok reading ↔ Text.isIdentifier form.name = true ∧
      form.name ∉ (seen.map Prod.fst).map Form.name ∧
      form.source ∉ (seen.map Prod.fst).map Form.source ∧
      Pattern.read .none true form.source = .ok reading := by
  rw [check_eq, ← find?_source_eq_none_iff]
  -- What was read does not matter any more. Each branch that fails denies one of the four.
  generalize seen.map Prod.fst = before
  split
  · rename_i hname
    exact iff_of_false nofun fun h => by simp [hname] at h
  · rename_i hname
    rw [Bool.not_eq_false] at hname
    split
    · rename_i htaken
      exact iff_of_false nofun fun h => h.2.1 htaken
    · rename_i hfree
      split
      · rename_i hfind
        exact iff_of_false nofun fun h => by simp [hfind] at h
      · rename_i hnone
        rw [hname, hnone]
        cases Pattern.read .none true form.source with
        | error reason => exact iff_of_false nofun fun h => by simp at h
        | ok found =>
            rw [Except.mapError, Except.ok.injEq, Except.ok.injEq]
            exact ⟨fun h => ⟨rfl, hfree, rfl, h⟩, fun h => h.2.2.2⟩

/-- The checks of a form find what is wrong with it, and of several things the first. So a form
    has one fault that is told. -/
theorem check_eq_error_iff {e : Error} :
    check seen form = .error e ↔ FirstFault (seen.map Prod.fst) form e := by
  rw [check_eq]
  constructor
  · intro h
    -- A branch that is reached has passed the checks before it, which is what each fault says
    -- besides itself.
    split at h
    · cases h
      exact .badName ‹_›
    · rename_i hname
      rw [Bool.not_eq_false] at hname
      split at h
      · cases h
        exact .takenName hname ‹_›
      · rename_i hfree
        split at h
        · cases h
          exact .takenPattern hname hfree ‹_›
        · rename_i hnone
          cases hread : Pattern.read .none true form.source with
          | ok reading =>
              rw [hread] at h
              cases h
          | error reason =>
              rw [hread] at h
              cases h
              exact .badPattern hname hfree (find?_source_eq_none_iff.1 hnone)
                (Pattern.ofSource_eq_error_iff.2 hread)
  · intro h
    cases h with
    | badName hname => rw [if_pos hname]
    | takenName hname htaken => rw [if_neg (by simp [hname]), if_pos htaken]
    | takenPattern hname hfree htaken =>
        rw [if_neg (by simp [hname]), if_neg hfree, htaken]
    | badPattern hname hfree hnew hread =>
        rw [if_neg (by simp [hname]), if_neg hfree, find?_source_eq_none_iff.2 hnew,
          Pattern.ofSource_eq_error_iff.1 hread]
        rfl

/-- Forms are checked in parts: the last one after all the others. -/
theorem checkAll_concat (seen : List (Form × Pattern.Reading)) (forms : List Form) (form : Form) :
    checkAll seen (forms ++ [form]) = (do
      let checked ← checkAll seen forms
      let reading ← check checked form
      return checked ++ [(form, reading)]) := by
  induction forms generalizing seen with
  | nil => rfl
  | cons first forms ih =>
      simp only [List.cons_append, checkAll, ih, bind_assoc]

/-- The checks give all forms, in order. -/
theorem map_fst_of_checkAll (h : checkAll [] forms = .ok checked) : checked.map Prod.fst = forms :=
  forms_checkAll h

/-- What the checks give was read. -/
theorem read_of_checkAll (h : checkAll [] forms = .ok checked) :
    ∀ f ∈ checked, Pattern.read .none true f.1.source = .ok f.2 := by
  induction forms using List.reverseRecOn generalizing checked with
  | nil =>
      cases h
      simp
  | append_singleton forms form ih =>
      -- The last form was checked after the others, and was read by its own check.
      rw [checkAll_concat] at h
      obtain ⟨before, hbefore, h⟩ := bind_eq_ok.1 h
      obtain ⟨reading, hreading, h⟩ := bind_eq_ok.1 h
      cases h
      intro f hf
      rcases List.mem_append.1 hf with hf | hf
      · exact ih hbefore f hf
      · rw [List.mem_singleton.1 hf]
        exact (check_eq_ok_iff.1 hreading).2.2.2

/-- The checks succeed for forms that go together, and for no others. What the checks have seen
    when they come to a form is the forms before it, so the induction is from the end. -/
theorem exists_checkAll_iff : (∃ checked, checkAll [] forms = .ok checked) ↔ GoTogether forms := by
  induction forms using List.reverseRecOn with
  | nil => exact iff_of_true ⟨[], rfl⟩ goTogether_nil
  | append_singleton forms form ih =>
      -- Both sides say something of the forms before and something of the last one.
      rw [goTogether_concat_iff, ← ih, checkAll_concat, Pattern.exists_ofSource_iff]
      constructor
      · rintro ⟨checked, h⟩
        obtain ⟨before, hbefore, h⟩ := bind_eq_ok.1 h
        obtain ⟨reading, hreading, -⟩ := bind_eq_ok.1 h
        rw [check_eq_ok_iff, map_fst_of_checkAll hbefore] at hreading
        exact ⟨⟨before, hbefore⟩, hreading.1, hreading.2.1, hreading.2.2.1, reading,
          hreading.2.2.2⟩
      · rintro ⟨⟨before, hbefore⟩, hname, hfree, hnew, reading, hread⟩
        have hcheck : check before form = .ok reading := by
          rw [check_eq_ok_iff, map_fst_of_checkAll hbefore]
          exact ⟨hname, hfree, hnew, hread⟩
        exact ⟨_, bind_eq_ok.2 ⟨before, hbefore, bind_eq_ok.2 ⟨reading, hcheck, rfl⟩⟩⟩

/-- The checks find the fault of the first form that does not go together with those before it.
    They stop there, so nothing is said of the forms after it. -/
theorem checkAll_eq_error_iff {e : Error} :
    checkAll [] forms = .error e ↔ ∃ before form after, forms = before ++ form :: after ∧
      GoTogether before ∧ FirstFault before form e := by
  induction forms using List.reverseRecOn with
  | nil =>
      refine iff_of_false nofun ?_
      rintro ⟨before, form, after, heq, -⟩
      exact absurd heq (by simp)
  | append_singleton forms last ih =>
      rw [checkAll_concat, bind_eq_error]
      constructor
      · rintro (hchecked | ⟨checked, hchecked, hlast⟩)
        · -- The fault is one of the other forms.
          rcases ih.1 hchecked with ⟨before, form, after, rfl, hbefore, hfault⟩
          exact ⟨before, form, after ++ [last], by simp, hbefore, hfault⟩
        · have hcheck : check checked last = .error e :=
            (bind_eq_error.1 hlast).resolve_right (by simp [pure, Except.pure])
          rw [check_eq_error_iff, map_fst_of_checkAll hchecked] at hcheck
          exact ⟨forms, last, [], rfl, exists_checkAll_iff.1 ⟨_, hchecked⟩, hcheck⟩
      · rintro ⟨before, form, after, heq, hbefore, hfault⟩
        rcases List.eq_nil_or_concat after with rfl | ⟨after, other, rfl⟩
        · -- The last form is the one at fault.
          obtain ⟨rfl, hlast⟩ := List.append_inj' heq rfl
          cases hlast
          rcases exists_checkAll_iff.2 hbefore with ⟨checked, hchecked⟩
          rw [← map_fst_of_checkAll hchecked, ← check_eq_error_iff] at hfault
          exact .inr ⟨checked, hchecked, bind_eq_error.2 (.inl hfault)⟩
        · rw [List.concat_eq_append, ← List.cons_append, ← List.append_assoc] at heq
          exact .inl (ih.2 ⟨before, form, after, (List.append_inj' heq rfl).1, hbefore, hfault⟩)

/-! ## Registries of forms that were checked -/

/-- A pattern that reads the same wherever it stands is put in its place as it is, if no group has
    the name of its form. The only name that it brings into the combined pattern is that one. -/
theorem exists_place {groups : Pattern.Groups} {reading : Pattern.Reading}
    (hlocal : reading.isLocal = true) (hnames : reading.groups.names = [])
    (hnew : form.name ∉ groups.names.map Prod.fst) :
    ∃ after, place groups form reading = .ok (localEntry form reading.pattern, after) ∧
      after.names.map Prod.fst = groups.names.map Prod.fst ++ [form.name] := by
  have hnone : groups.number? form.name = none := by
    rw [Pattern.Groups.number?, List.lookup_eq_none_iff]
    intro p hp
    rw [bne_iff_ne]
    exact fun heq => hnew (List.mem_map.2 ⟨p, hp, heq.symm⟩)
  -- The group of the form is opened, and the pattern adds no names to that.
  let opened := groups.capture (some form.name)
  have hopened : (opened.append reading.groups).names = opened.names := by
    simp [Pattern.Groups.append, hnames]
  have hplace : ∃ after, place groups form reading = .ok (⟨form, reading.pattern, reading.pattern,
      (opened.append reading.groups).names.drop opened.names.length⟩, after) ∧
      after.names = (opened.append reading.groups).names := by
    unfold place readInPlace
    simp only [hnone, hlocal, if_true]
    exact ⟨_, rfl, rfl⟩
  rw [hopened, List.drop_length] at hplace
  rcases hplace with ⟨after, hplace, hafter⟩
  refine ⟨after, hplace, ?_⟩
  rw [hafter]
  simp [opened, Pattern.Groups.capture]

/-- Patterns that read the same wherever they stand are put side by side as they are, if no two
    forms have the same name. The names of the groups grow by one name with each form, so what has
    no duplicate is the names so far together with those to come. -/
theorem placeAll_eq_ok {groups : Pattern.Groups}
    (hlocal : ∀ f ∈ checked, f.2.isLocal = true ∧ f.2.groups.names = [])
    (hnodup : (groups.names.map Prod.fst ++ checked.map (·.1.name)).Nodup) :
    placeAll groups checked = .ok (checked.map fun f => localEntry f.1 f.2.pattern) := by
  induction checked generalizing groups with
  | nil => rfl
  | cons f checked ih =>
      rw [List.forall_mem_cons] at hlocal
      have hnew : f.1.name ∉ groups.names.map Prod.fst := by
        rw [List.map_cons, List.nodup_append] at hnodup
        exact fun hmem => hnodup.2.2 _ hmem _ List.mem_cons_self rfl
      rcases exists_place hlocal.1.1 hlocal.1.2 hnew with ⟨after, hplace, hafter⟩
      -- The name moves from those to come to those so far.
      rw [List.map_cons, List.append_cons, ← hafter] at hnodup
      have hrest := ih hlocal.2 hnodup
      exact bind_eq_ok.2 ⟨_, hplace, bind_eq_ok.2 ⟨_, hrest, rfl⟩⟩

section Supported

variable (h : ∀ form ∈ forms, Pattern.isSupported form.source = true)

include h

/-- Forms that were checked make a registry. That their patterns can be combined needs no check of
    its own: they are local, and their names are different. -/
theorem ofForms_of_checkAll (hchecked : checkAll [] forms = .ok checked) :
    ofForms forms = .ok ⟨checked.map fun f => localEntry f.1 f.2.pattern⟩ := by
  have hforms := map_fst_of_checkAll hchecked
  have hlocal : ∀ f ∈ checked, f.2.isLocal = true ∧ f.2.groups.names = [] := by
    intro f hf
    have hread := read_of_checkAll hchecked f hf
    have hmem : f.1 ∈ forms := by
      rw [← hforms]
      exact List.mem_map_of_mem hf
    have hislocal := Pattern.isLocal_of_isSupported (h f.1 hmem) hread
    exact ⟨hislocal, Pattern.names_of_isLocal hread hislocal⟩
  have hnames : (checked.map (·.1.name)).Nodup := by
    have hnodup := (exists_checkAll_iff.1 ⟨checked, hchecked⟩).names
    rwa [← hforms, List.map_map] at hnodup
  exact bind_eq_ok.2 ⟨checked, hchecked, bind_eq_ok.2 ⟨_, placeAll_eq_ok hlocal hnames, rfl⟩⟩

/-- Forms make a registry if they go together. -/
theorem exists_ofForms_iff : (∃ r, ofForms forms = .ok r) ↔ GoTogether forms := by
  rw [← exists_checkAll_iff]
  constructor
  · rintro ⟨r, hr⟩
    obtain ⟨checked, hchecked, -⟩ := bind_eq_ok.1 hr
    exact ⟨checked, hchecked⟩
  · rintro ⟨checked, hchecked⟩
    exact ⟨_, ofForms_of_checkAll h hchecked⟩

/-- Forms that make no registry have the fault that the checks find, since the steps after the
    checks succeed. -/
theorem ofForms_eq_error_iff {e : Error} :
    ofForms forms = .error e ↔ checkAll [] forms = .error e := by
  constructor
  · intro he
    cases hchecked : checkAll [] forms with
    | ok checked =>
        rw [ofForms_of_checkAll h hchecked] at he
        cases he
    | error reason =>
        rcases bind_eq_error.1 he with hreason | ⟨checked, hok, -⟩
        · rw [← hchecked, hreason]
        · rw [hchecked] at hok
          cases hok
  · exact fun he => bind_eq_error.2 (.inl he)

/-- Forms can be added one by one. An extension checks the forms that a registry holds once more,
    and those have passed. -/
theorem foldlM_extend : forms.foldlM extend empty = ofForms forms := by
  induction forms using List.reverseRecOn with
  | nil => rfl
  | append_singleton forms form ih =>
      have hbefore : ∀ f ∈ forms, Pattern.isSupported f.source = true :=
        fun f hf => h f (List.mem_append_left _ hf)
      rw [List.foldlM_append, ih hbefore]
      cases hr : ofForms forms with
      | ok r =>
          -- The registry holds the forms before, and checks all of them anew.
          show (r.extend form >>= pure) = _
          rw [bind_pure, extend, forms_ofForms hr]
      | error e =>
          -- The fault is one of the forms before, at which checking all of them stops too.
          rw [ofForms_eq_error_iff hbefore] at hr
          refine ((ofForms_eq_error_iff h).2 ?_).symm
          rw [checkAll_concat, hr]
          rfl

end Supported

/-- Forms make a registry if they go together. If they do not, the first form that
    does not go together with those before it is told to be at fault, with the
    first thing that is wrong with it. The same registry is reached by adding the
    forms one by one, and where that is not possible, it stops at the same form
    with the same fault. -/
theorem ofForms_iff_goTogether {forms : List Form}
    (h : ∀ form ∈ forms, Pattern.isSupported form.source = true) :
    ((∃ r, ofForms forms = .ok r) ↔ GoTogether forms) ∧
    (∀ e, ofForms forms = .error e ↔ ∃ before form after, forms = before ++ form :: after ∧
      GoTogether before ∧ FirstFault before form e) ∧
    (∀ e, ofForms forms = .error e → ∃ text, e.report? = some (.badForms text)) ∧
    forms.foldlM extend empty = ofForms forms ∧
    ∀ before form after e, forms = before ++ form :: after → GoTogether before →
      FirstFault before form e →
      ∃ r, before.foldlM extend empty = .ok r ∧ r.forms = before ∧ r.extend form = .error e := by
  have hfault : ∀ e, ofForms forms = .error e ↔ ∃ before form after,
      forms = before ++ form :: after ∧ GoTogether before ∧ FirstFault before form e :=
    fun e => (ofForms_eq_error_iff h).trans checkAll_eq_error_iff
  refine ⟨exists_ofForms_iff h, hfault, ?_, foldlM_extend h, ?_⟩
  · intro e he
    rcases (hfault e).1 he with ⟨before, form, after, rfl, -, hform⟩
    exact hform.exists_report? (h form (by simp))
  · rintro before form after e rfl hbefore hform
    -- The forms before make a registry, and to add the form is to check all of them again: the
    -- fault is that of the last one.
    have hsupported : ∀ f ∈ before, Pattern.isSupported f.source = true :=
      fun f hf => h f (List.mem_append_left _ hf)
    rcases (exists_ofForms_iff hsupported).2 hbefore with ⟨r, hr⟩
    refine ⟨r, by rw [foldlM_extend hsupported, hr], forms_ofForms hr, ?_⟩
    have hnext : ∀ f ∈ before ++ [form], Pattern.isSupported f.source = true :=
      fun f hf => h f (by simp only [List.mem_append, List.mem_singleton] at hf; simp; tauto)
    rw [extend, forms_ofForms hr, ofForms_eq_error_iff hnext, checkAll_eq_error_iff]
    exact ⟨before, form, [], rfl, hbefore, hform⟩

/-- Of five forms, the fourth has the pattern of the second, and the fifth has a name
    that is taken and a pattern that cannot be read. Adding the forms one by one
    comes as far as to the fourth. -/
theorem ofForms_iff_goTogether_twice :
    let angled : Form := ⟨"angled", "<([a-z]+)>", .required⟩
    let pointed : Form := ⟨"pointed", "<([a-z]+)>", .optional⟩
    let forms : List Form := [.required, angled, .fallback, pointed, ⟨"required", "(", .required⟩]
    ofForms forms = .error (.takenPattern "<([a-z]+)>" "angled") ∧
      forms.foldlM extend empty = .error (.takenPattern "<([a-z]+)>" "angled") ∧
      ∃ r, [.required, angled, .fallback].foldlM extend empty = .ok r ∧
        r.extend pointed = .error (.takenPattern "<([a-z]+)>" "angled") := by
  intro angled pointed forms
  have h : ∀ form ∈ forms, Pattern.isSupported form.source = true := by decide +kernel
  have hbefore : GoTogether [.required, angled, .fallback] := by
    have hreadable : ∀ form ∈ [.required, angled, .fallback],
        (Pattern.ofSource form.source).isOk = true := by decide +kernel
    refine ⟨by decide +kernel, by decide, by decide, fun form hform => ?_⟩
    have hok := hreadable form hform
    cases hread : Pattern.ofSource form.source with
    | ok p => exact ⟨p, rfl⟩
    | error reason => simp [hread, Except.isOk, Except.toBool] at hok
  have hname : Text.isIdentifier pointed.name = true := by decide +kernel
  have hfree : pointed.name ∉ [Form.required, angled, .fallback].map Form.name := by decide
  have hfault : FirstFault [.required, angled, .fallback] pointed
      (.takenPattern pointed.source angled.name) := .takenPattern hname hfree rfl
  rcases ofForms_iff_goTogether h with ⟨-, herror, -, hstepwise, hstop⟩
  have hforms := (herror _).2 ⟨_, _, _, rfl, hbefore, hfault⟩
  rcases hstop _ _ _ _ rfl hbefore hfault with ⟨r, hr, -, hextend⟩
  exact ⟨hforms, by rw [hstepwise, hforms], r, hr, hextend⟩

end Registry

end Template

end Stencil
