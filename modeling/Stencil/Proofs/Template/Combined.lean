import Stencil.Proofs.Pattern.Named
import Stencil.Proofs.Template.Places

/-!
# Patterns Side by Side

All patterns of a registry as one pattern, and that it is the one that is written.

A registry writes its patterns in one line, each in a group with the name of its form and
with bars between them. When that is read, each pattern comes after the groups of those
before it. What is read of it is what it is alone, with greater numbers for its groups.

## Main definitions

* `Entry.alternative`: The pattern of a form in a group of its own.
* `Registry.combined`: All patterns side by side, as one pattern.

## Theorems

* `Registry.exists_readAll_combined`: Patterns are read one after the other.
* `Registry.isRead_of_ofForms`: Those of a registry can be read like this.
* `Registry.ofSource_combinedSource`: Read as they are written, the patterns are these.
-/

namespace Stencil

namespace Template

open Pattern (Frame Groups Reading between namedText signs signsFrom)

/-- The pattern of a form in a group with a number. -/
def Entry.alternative (entry : Entry) (number : Nat) : Pattern :=
  .group number (entry.pattern.raise number)

namespace Registry

/-- Patterns side by side, each in a group of its own, from a number of groups on. Each pattern
    starts behind the groups of those before it, with one more for its own group. -/
def combinedFrom (number : Nat) : List Entry → Pattern
  | [] => .look false 0 .empty
  | [entry] => entry.alternative number
  | entry :: entries =>
    .either (entry.alternative number) (combinedFrom (number + (entry.pattern.groups + 1)) entries)

/-- All patterns of a registry side by side; what fits nowhere if there is none. The pattern of an
    empty registry is written as a look ahead that never succeeds. -/
def combined (r : Registry) : Pattern :=
  combinedFrom 1 r.entries

/-- Patterns as they are written side by side. -/
def combinedText (entries : List Entry) : List Char :=
  ['|'].intercalate (entries.map fun entry => namedText entry.form.name entry.form.source)

/-- The pattern of a form is read alone, and reads the same anywhere. This is what an entry of a
    registry must bring along for the combined line to be read. -/
def IsRead (entry : Entry) : Prop :=
  Text.isIdentifier entry.form.name = true ∧ ∃ reading : Reading,
    Pattern.read .none true entry.form.source = .ok reading ∧ reading.isLocal = true ∧
      reading.pattern = entry.pattern

theorem toList_combinedSource {r : Registry} (h : r.entries ≠ []) :
    r.combinedSource.toList = combinedText r.entries := by
  have htext : ∀ form : Form,
      ("(?P<" ++ form.name ++ ">" ++ form.source ++ ")").toList =
        namedText form.name form.source := by
    intro form
    simp [namedText]
  rw [combinedSource, if_neg (by simpa using h), String.toList_intercalate, List.map_map, forms,
    List.map_map]
  exact congrArg _ (List.map_congr_left fun entry _ => htext entry.form)

/-- A name that is new is new after a group with another name. -/
theorem number?_named {groups other : Groups} {name new : String} {width : Pattern.Width}
    (hother : other.names = []) (hfree : groups.number? new = none) (hne : new ≠ name) :
    (((groups.capture (some name)).append other).close groups.count width).number? new = none := by
  rw [Groups.number?, List.lookup_eq_none_iff] at hfree ⊢
  intro p hp
  have hmem : p ∈ groups.names ∨ p = (name, groups.count + 1) := by
    simpa [Groups.close, Groups.append, Groups.capture, hother] using hp
  rcases hmem with hmem | rfl
  · exact hfree p hmem
  · exact bne_iff_ne.2 hne

theorem count_named (groups other : Groups) (name : String) (width : Pattern.Width) :
    (((groups.capture (some name)).append other).close groups.count width).count =
      groups.count + (other.count + 1) := by
  rw [Groups.count_close, Groups.count_append, Groups.count_capture]
  omega

/-- A bar starts another alternative, unless it stands in the choice that a condition gives, where
    a second bar is one too many. -/
theorem readAll_bar {groups : Groups} {depth : Nat} {top : Frame} (hrole : top.role = .plain)
    {place : Nat} {s : List Char} (hs : Pattern.checkNext (signsFrom (place + 1) s) = .ok ()) :
    (between groups depth top).readAll 0 (signsFrom place ('|' :: s)) =
      (between groups depth top.branch).readAll 0 (signsFrom (place + 1) s) := by
  have hbar : (between groups depth top).stepBar ⟨place, false, '|'⟩ (signsFrom (place + 1) s) =
      .ok (between groups depth top.branch, 0) := by
    rw [Pattern.Setting.stepBar_eq fun number hgiven => Pattern.Role.noConfusion
      (hrole.symm.trans hgiven), hs]
    rfl
  have hstep : (between groups depth top).step ⟨place, false, '|'⟩ (signsFrom (place + 1) s) =
      .ok (between groups depth top.branch, 0) := hbar
  rw [Pattern.signsFrom_cons (by decide), Pattern.Reader.readAll, hstep]
  rfl

theorem combinedText_cons_cons (entry next : Entry) (entries : List Entry) :
    combinedText (entry :: next :: entries) =
      namedText entry.form.name entry.form.source ++ '|' :: combinedText (next :: entries) := by
  rw [combinedText, List.map_cons, List.map_cons, List.intercalate_cons_cons, List.append_assoc]
  rfl

/-- Patterns side by side start with a parenthesis, which can be read. -/
theorem checkNext_combinedText {entries : List Entry} (hne : entries ≠ []) (place : Nat) :
    Pattern.checkNext (signsFrom place (combinedText entries)) = .ok () := by
  have hopen : ∃ t, combinedText entries = '(' :: t := by
    cases entries with
    | nil => exact absurd rfl hne
    | cons entry entries =>
        cases entries with
        | nil => exact ⟨_, List.intercalate_singleton⟩
        | cons next entries => exact ⟨_, combinedText_cons_cons entry next entries⟩
  obtain ⟨t, ht⟩ := hopen
  rw [ht]
  exact Pattern.checkNext_signsFrom_cons (by decide) _ _

/-- Patterns side by side are read one after the other. Between two of them the reader is outside
    every group, and what it has are the groups so far and the alternatives so far; each pattern,
    read in a group of its own, adds an alternative that is numbered on from those groups. -/
theorem exists_readAll_combined {entries : List Entry} (hne : entries ≠ [])
    (hread : ∀ entry ∈ entries, IsRead entry) (hnames : (entries.map (·.form.name)).Nodup)
    {groups : Groups} (hfree : ∀ entry ∈ entries, groups.number? entry.form.name = none)
    (depth opened place : Nat) (branches : List Pattern) :
    ∃ groups' depth' top,
      (between groups depth ⟨opened, .plain, {}, branches, [], none⟩).readAll 0
        (signsFrom place (combinedText entries)) = .ok (between groups' depth' top) ∧
      top.body = branches.foldr .either (combinedFrom (groups.count + 1) entries) := by
  induction entries generalizing groups depth place branches with
  | nil => exact absurd rfl hne
  | cons entry entries ih =>
      rw [List.forall_mem_cons] at hread hfree
      rw [List.map_cons, List.nodup_cons] at hnames
      obtain ⟨⟨hname, reading, hreading, hlocal, hpattern⟩, hread⟩ := hread
      cases entries with
      | nil =>
          obtain ⟨depth', width, h⟩ := Pattern.exists_readAll_named hname hfree.1 hreading hlocal
            depth ⟨opened, .plain, {}, branches, [], none⟩ rfl place [] rfl
          rw [List.append_nil, hpattern] at h
          rw [combinedText, List.map_singleton, List.intercalate_singleton, h]
          exact ⟨_, _, _, rfl, rfl⟩
      | cons next entries =>
          obtain ⟨depth', width, h⟩ := Pattern.exists_readAll_named hname hfree.1 hreading hlocal
            depth ⟨opened, .plain, {}, branches, [], none⟩ rfl place
            ('|' :: combinedText (next :: entries))
            (Pattern.checkNext_signsFrom_cons (by decide) _ _)
          -- The names to come are new after this one too, as the pattern brings no names.
          have hfree' : ∀ other ∈ next :: entries, (((groups.capture (some entry.form.name)).append
              reading.groups).close groups.count width).number? other.form.name = none := by
            intro other hother
            refine number?_named (Pattern.names_of_isLocal hreading hlocal)
              (hfree.2 other hother) ?_
            rintro heq
            exact hnames.1 (heq ▸ List.mem_map_of_mem hother)
          -- After the bar the reader stands between two patterns as before, with one alternative
          -- more.
          obtain ⟨groups', depth'', top, hreadAll, hbody⟩ := ih (List.cons_ne_nil _ _) hread
            hnames.2 hfree' depth' (place + (namedText entry.form.name entry.form.source).length + 1)
            (branches ++ [entry.alternative (groups.count + 1)])
          refine ⟨groups', depth'', top, ?_, ?_⟩
          · rw [combinedText_cons_cons, h,
              readAll_bar rfl (checkNext_combinedText (List.cons_ne_nil _ _) _), hpattern]
            exact hreadAll
          · rw [hbody, List.foldr_append, count_named, Pattern.count_of_read hreading hlocal,
              hpattern, Nat.add_right_comm groups.count]
            rfl

/-- The entries of a registry of supported forms can be read in groups of their own: each form
    has a name that a group can have, and a pattern that is read on its own. -/
theorem isRead_of_ofForms {r : Registry} {forms : List Form}
    (h : ∀ form ∈ forms, Pattern.isSupported form.source = true) (hr : ofForms forms = .ok r) :
    ∀ entry ∈ r.entries, IsRead entry := by
  obtain ⟨checked, hchecked, -⟩ := bind_eq_ok.1 hr
  have hgo := exists_checkAll_iff.1 ⟨checked, hchecked⟩
  intro entry hentry
  have hform : entry.form ∈ forms := by
    rw [← forms_ofForms hr]
    exact List.mem_map_of_mem hentry
  have hsource := (isLocal_of_ofForms h hr).1.ofSource entry hentry
  obtain ⟨reading, hreading⟩ := Pattern.exists_ofSource_iff.1 ⟨_, hsource⟩
  rw [Pattern.ofSource, hreading] at hsource
  exact ⟨hgo.isIdentifier _ hform, reading, hreading,
    Pattern.isLocal_of_isSupported (h _ hform) hreading, Except.ok.inj hsource⟩

/-- Read as they are written side by side, patterns that do not depend on each other are these. So
    the pattern that is searched with is the one that the registry writes down, and nothing of a
    form is read differently for standing among others. -/
theorem ofSource_combinedSource {r : Registry} {forms : List Form}
    (h : ∀ form ∈ forms, Pattern.isSupported form.source = true) (hr : ofForms forms = .ok r) :
    Pattern.ofSource r.combinedSource = .ok r.combined := by
  by_cases hne : r.entries = []
  · obtain rfl : r = .empty := congrArg mk hne
    decide +kernel
  · have hnames : (r.entries.map (·.form.name)).Nodup := by
      have hnames := (isLocal_of_ofForms h hr).1.names
      rwa [names, Registry.forms, List.map_map] at hnames
    have hfree : ∀ entry ∈ r.entries, Groups.none.number? entry.form.name = none := fun _ _ => rfl
    -- The reader starts outside every group, with no alternative yet.
    obtain ⟨groups, depth, top, hreadAll, hbody⟩ :=
      exists_readAll_combined hne (isRead_of_ofForms h hr) hnames hfree 0 0 0 []
    have hstart : Pattern.checkNext (signs r.combinedSource) = .ok () := by
      rw [signs, toList_combinedSource hne]
      exact checkNext_combinedText hne 0
    rw [← toList_combinedSource hne] at hreadAll
    obtain ⟨reading, hfinish, hpattern⟩ : ∃ reading,
        (between groups depth top).finish = .ok reading ∧ reading.pattern = top.body :=
      ⟨_, rfl, rfl⟩
    have hreading : Pattern.read .none true r.combinedSource = .ok reading :=
      bind_eq_ok.2 ⟨(), hstart, bind_eq_ok.2 ⟨_, hreadAll, hfinish⟩⟩
    rw [Pattern.ofSource, hreading, combined]
    exact congrArg Except.ok (hpattern.trans hbody)

end Registry

end Template

end Stencil
