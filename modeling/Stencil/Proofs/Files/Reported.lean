import Stencil.Proofs.Files.Within

/-!
# Names That Loaders Answer

For which names a loader has an answer: a text, or a failure that is reported.

A list of texts answers every name. A directory has more to do for a name than
to look it up, and not everything that can go wrong on the way is reported. A
name that holds the null character is not even looked for; links that are too
many inside each other end the search; a name that is too long cannot be looked
up; and some encodings have objections to a file that are not about single
bytes of it. `Handles` says that nothing of this happens. For a tree without
loops there is nothing else: a directory answers the names that it handles and
no others.

## Main definitions

* `Loader.Answers`: A loader has an answer to a name.
* `Directory.Handles`: A directory can find and read what a name leads to, or
  say why it does not.

## Theorems

* `Loader.answers_ofEntries`: A list of texts answers every name.
* `Directory.settle_of_not_isUsable`: A path with the null character in a name is refused.
* `Loader.answers_ofDirectory_iff`: A directory answers the names that it handles.
-/

namespace Stencil.Files

/-- A loader has an answer to a name: if there is no text, the failure is reported. What is not
    reported goes past the handler and ends the program that asked. -/
def Loader.Answers (loader : Loader) (name : String) : Prop :=
  ∀ e, (loader.load name).outcome = .error e → e.report?.isSome

theorem Loader.answers_of_ok {loader : Loader} {name text : String}
    (h : (loader.load name).outcome = .ok text) : loader.Answers name := by
  intro e he
  rw [h] at he
  cases he

theorem Loader.answers_iff_of_error {loader : Loader} {name : String} {e : Error}
    (h : (loader.load name).outcome = .error e) : loader.Answers name ↔ e.report?.isSome := by
  rw [Loader.Answers, h]
  constructor
  · exact fun hall => hall e rfl
  · intro hreport found hfound
    rwa [← Except.error.inj hfound]

/-- A list of texts answers every name. -/
theorem Loader.answers_ofEntries (entries : List (String × String)) (name : String) :
    (Loader.ofEntries entries).Answers name := by
  cases hlookup : entries.lookup name with
  | some text =>
      have hload : ((Loader.ofEntries entries).load name).outcome = .ok text := by
        simp only [ofEntries, hlookup, Trace.outcome_pure]
      exact answers_of_ok hload
  | none =>
      have hload : ((Loader.ofEntries entries).load name).outcome = .error (.missing name) := by
        simp only [ofEntries, hlookup, Trace.outcome_throw]
      exact (answers_iff_of_error hload).2 rfl

namespace Directory

variable {d : Directory} {name : String}

/-! ## The null character -/

theorem not_isUsable_ofText (h : holdsNull name = true) : ¬ IsUsable (.ofText name) := by
  intro husable
  rw [IsUsable, nameList_text_ofText] at husable
  rw [holdsNull, List.contains_iff_mem] at h
  rcases exists_mem_nameList h (by decide) (by decide) with ⟨step, hstep, hnull⟩
  have hfree := husable step hstep
  rw [holdsNull, List.contains_eq_mem, decide_eq_false_iff_not] at hfree
  exact hfree hnull

/-- A path with the null character in a name is refused, if not for it then for the links before
    it. Only the names before the null character are followed. -/
theorem settle_of_not_isUsable (hfree : d.tree.LoopFree) (name : String) (here : Place)
    {path : PurePath} (h : ¬ IsUsable path) :
    d.settle name here path = .error (.badName name) ∨
      d.settle name here path = .error (.tooDeep name) := by
  -- The names that are followed are fewer than there are.
  have hshort : ((segments path.text.toList).takeWhile fun segment =>
      !holdsNull segment.name).length < (segments path.text.toList).length := by
    refine lt_of_le_of_ne (List.takeWhile_prefix _).length_le fun hlength => h ?_
    have hwhole := (List.takeWhile_prefix _).eq_of_length hlength
    intro step hstep
    rcases List.mem_map.1 hstep with ⟨segment, hsegment, rfl⟩
    simpa using List.takeWhile_eq_self_iff.1 hwhole segment hsegment
  unfold settle
  dsimp only
  split
  · exact .inl (if_pos hshort)
  · exact .inr rfl
  · rename_i place hcircle
    exact absurd hcircle (Tree.follow_ne_circle hfree _ _ _ _)

/-- A name that holds the null character has no answer: what goes wrong with it is not among the
    failures that are reported. -/
theorem not_answers_of_holdsNull (hfree : d.tree.LoopFree) (hroot : holdsNull d.root.text = false)
    (hname : holdsNull name = true) : ¬ (Loader.ofDirectory d).Answers name := by
  have husable : IsUsable ⟨1, d.root⟩ := holdsNull_of_mem_nameList hroot
  have hresolve : d.resolve name = .error (.badName name) ∨
      d.resolve name = .error (.tooDeep name) := by
    rcases settle_cases hfree name [] husable with ⟨root, hsettleRoot⟩ | hdeep
    · exact (settle_of_not_isUsable hfree name root (not_isUsable_ofText hname)).imp
        (resolve_of_settle_error hsettleRoot) (resolve_of_settle_error hsettleRoot)
    · exact .inr (resolve_of_settleRoot_error hdeep)
  -- Neither of the two is reported.
  rcases hresolve with hbad | hdeep
  · rw [Loader.answers_iff_of_error (outcome_load_of_error hbad)]
    exact Bool.false_ne_true
  · rw [Loader.answers_iff_of_error (outcome_load_of_error hdeep)]
    exact Bool.false_ne_true

/-! ## Names that lead somewhere -/

/-- A directory can find and read what a name leads to, or say why it does not. These are the
    conditions under which the calls to the file system raise nothing but what the loader expects
    of them. -/
structure Handles (d : Directory) (encoding : Text.Encoding) (name : String) : Prop where
  /-- The name can be looked for. -/
  usable : holdsNull name = false
  /-- It leads somewhere from where the root leads. A place within the root can be
      looked up, and if a file is there, it is read or has bytes that are told
      to be no text. -/
  leads : ∃ root target, d.tree.Resolves d.nestLimit [] d.root.text root ∧
    d.tree.Resolves d.nestLimit root name target ∧
    (root <+: target → d.tree.lookUp target ≠ .tooLong ∧
      ∀ bytes fault, d.tree.lookUp target = .file bytes → encoding.read bytes = .error fault →
        ∃ reason, fault = .bytes reason)

/-- A place with a name that is too long is not looked up. -/
theorem outcome_load_of_tooLong {place : Place} (hplace : d.resolve name = .ok place)
    (hfound : d.tree.lookUp place = .tooLong) :
    (d.load name).outcome = .error (.tooLong name) := by
  rw [load, Trace.outcome_bind, Trace.outcome_ofExcept, hplace]
  dsimp only
  rw [hfound]
  rfl

/-- A place without a file has nothing to serve. -/
theorem outcome_load_of_no_file {place : Place} (hplace : d.resolve name = .ok place)
    (hfound : d.tree.lookUp place ∈ [.directory, .nothing, .circle]) :
    (d.load name).outcome = .error (.missing name) := by
  rw [load, Trace.outcome_bind, Trace.outcome_ofExcept, hplace]
  dsimp only
  simp only [List.mem_cons, List.not_mem_nil, or_false] at hfound
  rcases hfound with h | h | h
  all_goals
    rw [h]
    rfl

/-- A name that leads to a place within the root has an answer if the place can be looked up and a
    file there is read or has bytes that are no text. A place without a file has an answer as
    well, since that it is missing is reported. -/
theorem answers_iff_of_resolve {place : Place} {encoding : Text.Encoding}
    (hnull : holdsNull d.encoding = false)
    (hencoding : Text.Encoding.ofName? d.encoding = some encoding)
    (hplace : d.resolve name = .ok place) :
    (Loader.ofDirectory d).Answers name ↔ d.tree.lookUp place ≠ .tooLong ∧
      ∀ bytes fault, d.tree.lookUp place = .file bytes → encoding.read bytes = .error fault →
        ∃ reason, fault = .bytes reason := by
  -- What is found at the place decides, and for a file what its bytes are.
  cases hfound : d.tree.lookUp place with
  | file bytes =>
      have hload := outcome_load_of_file hplace hfound
      rw [if_neg (by rw [hnull]; exact Bool.false_ne_true), hencoding] at hload
      dsimp only at hload
      cases hread : encoding.read bytes with
      | ok text =>
          rw [hread] at hload
          refine iff_of_true (Loader.answers_of_ok hload) ⟨Found.noConfusion, ?_⟩
          intro bytes' fault hbytes hfault
          rw [← Found.file.inj hbytes, hread] at hfault
          cases hfault
      | error fault =>
          rw [hread] at hload
          rw [Loader.answers_iff_of_error hload]
          constructor
          · intro hreport
            refine ⟨Found.noConfusion, fun bytes' fault' hbytes hfault => ?_⟩
            rw [← Found.file.inj hbytes, hread, Except.error.injEq] at hfault
            subst hfault
            -- Of the faults of an encoding, only those about bytes are reported.
            cases fault with
            | bytes reason => exact ⟨reason, rfl⟩
            | _ => cases hreport
          · rintro ⟨-, hreason⟩
            rcases hreason bytes fault rfl hread with ⟨reason, rfl⟩
            rfl
  | tooLong =>
      rw [Loader.answers_iff_of_error (outcome_load_of_tooLong hplace hfound)]
      exact iff_of_false Bool.false_ne_true fun h => h.1 rfl
  | directory | nothing | circle =>
      have hload := outcome_load_of_no_file hplace (by rw [hfound]; decide)
      rw [Loader.answers_iff_of_error hload]
      exact iff_of_true rfl ⟨Found.noConfusion, fun bytes fault hbytes => Found.noConfusion hbytes⟩

end Directory

/-- A directory of a tree without loops, with an encoding that is known, answers the names that it
    handles and no others. So a failure that is not reported has one of four reasons: a null
    character in the name, too many links, a name that is too long for the system, or bytes whose
    fault is none of their own. -/
theorem Loader.answers_ofDirectory_iff {d : Directory} {encoding : Text.Encoding} {name : String}
    (hfree : d.tree.LoopFree) (hroot : holdsNull d.root.text = false)
    (hnull : holdsNull d.encoding = false)
    (hencoding : Text.Encoding.ofName? d.encoding = some encoding) :
    (Loader.ofDirectory d).Answers name ↔ d.Handles encoding name := by
  by_cases hname : holdsNull name = true
  · refine iff_of_false (Directory.not_answers_of_holdsNull hfree hroot hname) fun h => ?_
    rw [h.usable] at hname
    cases hname
  · rw [Bool.not_eq_true] at hname
    rcases Directory.resolve_cases hfree hroot hname with
      ⟨root, target, hsettleRoot, hsettle⟩ | hdeep
    · have hleadsRoot := (Directory.settleRoot_eq_ok_iff hfree hroot).1 hsettleRoot
      have hleads := (Directory.settle_ofText_eq_ok_iff hfree hname).1 hsettle
      -- The root and the name lead to one place each, so it is enough to look at these.
      have hhandles : d.Handles encoding name ↔ (root <+: target →
          d.tree.lookUp target ≠ .tooLong ∧ ∀ bytes fault, d.tree.lookUp target = .file bytes →
            encoding.read bytes = .error fault → ∃ reason, fault = .bytes reason) := by
        constructor
        · rintro ⟨-, root', target', hleadsRoot', hleads', hfound⟩
          obtain rfl := hleadsRoot.unique hleadsRoot'
          obtain rfl := hleads.unique hleads'
          exact hfound
        · exact fun hfound => ⟨hname, root, target, hleadsRoot, hleads, hfound⟩
      have hresolve := Directory.resolve_eq hsettleRoot hsettle
      rw [hhandles]
      split at hresolve
      · rename_i hwithin
        rw [Directory.answers_iff_of_resolve hnull hencoding hresolve]
        exact ⟨fun h _ => h, fun h => h hwithin⟩
      · -- That a name is outside is reported, and such a name is handled in any case.
        rename_i houtside
        rw [Loader.answers_iff_of_error (Directory.outcome_load_of_error hresolve)]
        exact iff_of_true rfl fun hwithin => absurd hwithin houtside
    · -- Too many links are inside each other, so the name does not lead anywhere.
      rw [Loader.answers_iff_of_error (Directory.outcome_load_of_error hdeep)]
      refine iff_of_false Bool.false_ne_true ?_
      rintro ⟨-, root, target, hleadsRoot, hleads, -⟩
      rw [Directory.resolve_eq ((Directory.settleRoot_eq_ok_iff hfree hroot).2 hleadsRoot)
        ((Directory.settle_ofText_eq_ok_iff hfree hname).2 hleads)] at hdeep
      split at hdeep
      · cases hdeep
      · cases hdeep

end Stencil.Files
