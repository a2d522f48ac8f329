import Mathlib
import Stencil.Files.Loader
import Stencil.Proofs.Files.Leads

/-!
# Files Within a Root

What a directory serves, and that it lies below the root.

A name is a path seen from the root, and users write it. It can have a root of
its own, lead up, or go through links that leave the root and come back. What
counts is where it leads in the end: `Leads` says where that is, and the loader
compares it with where the root leads, name by name and not by how the two are
written.

Two more things are needed to say that what is read is the file at that place.
The path is written anew before it is followed, and keeps its names by that. And
after it was followed, the place is looked up by a system that would follow links
on its way and take full stops for steps; there are none of them, because the
place is settled.

## Main definitions

* `Directory.IsUsable`: A path without the null character in a name.

## Theorems

* `Tree.node?_of_lookUp`: What is found at a settled place is what is there.
* `Directory.settle_eq_ok_iff`: Where a path is taken is where it leads.
* `Directory.outcome_load_confined`: Nothing outside the root is served, and
  whatever is there, a name that leads outside is told to.
-/

namespace Stencil.Files

/-! ## Looking up settled places -/

namespace Tree

variable {t : Tree}

/-- Without links and full stops on the way, only a file that is there is found. A search can also
    end at a file by going up or along a link; a settled place has neither, so each name of it
    goes down. -/
theorem node?_of_find {links : Nat} {here : Place} {names : List String} {bytes : List UInt8}
    (hsettled : t.Settled (here ++ names)) (h : t.find links here names = .file bytes) :
    t.node? (here ++ names) = some (.file bytes) := by
  induction names generalizing here with
  | nil =>
      rw [find, foundAt] at h
      rw [List.append_nil]
      split at h
      · rename_i found hnode
        rw [hnode, Found.file.inj h]
      · split at h
        · cases h
        · cases h
  | cons name names ih =>
      -- The search takes the name off the place that is left and puts it to the place that is
      -- reached. Their concatenation, which is settled, stays the same.
      rcases hsettled here name names rfl with ⟨hdot, hup, hlink⟩
      have hassoc : here ++ name :: names = (here ++ [name]) ++ names := by
        rw [List.append_assoc, List.cons_append, List.nil_append]
      rw [hassoc] at hsettled ⊢
      rw [find, if_neg hdot, if_neg hup] at h
      · split at h
        · cases h
        · split at h
          · cases h
          · exact ih hsettled h
      · exact hlink

/-- A file that is found at a settled place is there. -/
theorem node?_of_lookUp {place : Place} {bytes : List UInt8} (hsettled : t.Settled place)
    (h : t.lookUp place = .file bytes) : t.node? place = some (.file bytes) := by
  unfold lookUp at h
  split at h
  · cases h
  · exact node?_of_find hsettled h

end Tree

namespace Directory

variable {d : Directory} {name : String}

/-! ## Where names lead -/

/-- A path that can be followed to its end: no name of it holds the null
    character. -/
def IsUsable (path : PurePath) : Prop :=
  ∀ step ∈ nameList path.text.toList, holdsNull step = false

/-- The names of a text without the null character are without it. -/
theorem holdsNull_of_mem_nameList {s : String} (hs : holdsNull s = false) :
    ∀ step ∈ nameList s.toList, holdsNull step = false := by
  intro step hstep
  rw [holdsNull, List.contains_eq_mem, decide_eq_false_iff_not] at hs ⊢
  exact fun hnull => hs ((of_mem_nameList hstep).2 hnull)

/-- A path that is read keeps its names when it is written anew. -/
theorem nameList_text_ofText (s : String) :
    nameList (PurePath.ofText s).text.toList = (PurePath.ofText s).names :=
  PurePath.nameList_text fun _ hstep => (of_mem_nameList hstep).1

theorem isUsable_ofText {s : String} (hs : holdsNull s = false) : IsUsable (.ofText s) := by
  rw [IsUsable, nameList_text_ofText]
  exact holdsNull_of_mem_nameList hs

/-- In a tree without loops, a path without the null character is taken to where it leads. If it
    leads nowhere, there are too many links. What a directory does besides following the path, to
    look for null characters and to stop in a circle, has no effect here. -/
theorem settle_eq (hfree : d.tree.LoopFree) {here : Place} {path : PurePath}
    (husable : IsUsable path) :
    d.settle name here path =
      (d.tree.follow d.nestLimit [] (here.start path) (segments path.text.toList)).mapError
        fun _ => .tooDeep name := by
  -- No name holds the null character, so the path is followed as a whole.
  have hwhole : (segments path.text.toList).takeWhile (fun segment => !holdsNull segment.name) =
      segments path.text.toList := by
    rw [List.takeWhile_eq_self_iff]
    intro segment hsegment
    rw [Bool.not_eq_true']
    exact husable _ (List.mem_map_of_mem hsegment)
  unfold settle
  dsimp only
  rw [hwhole]
  split
  · rename_i place hok
    rw [hok, if_neg (Nat.lt_irrefl _)]
    rfl
  · rename_i hdeep
    rw [hdeep]
    rfl
  · rename_i place hcircle
    -- A circle needs a loop.
    exact absurd hcircle (Tree.follow_ne_circle hfree _ _ _ _)

/-- A path is taken to where its names lead. -/
theorem settle_eq_ok_iff (hfree : d.tree.LoopFree) {here place : Place} {path : PurePath}
    (husable : IsUsable path) :
    d.settle name here path = .ok place ↔
      d.tree.Leads d.nestLimit (here.start path) (nameList path.text.toList) place := by
  rw [settle_eq hfree husable, nameList, ← Tree.follow_eq_ok_iff hfree]
  cases d.tree.follow d.nestLimit [] (here.start path) (segments path.text.toList) <;>
    simp [Except.mapError]

/-- The root is taken to where it resolves to. -/
theorem settleRoot_eq_ok_iff (hfree : d.tree.LoopFree) (hroot : holdsNull d.root.text = false)
    {root : Place} :
    d.settleRoot name = .ok root ↔ d.tree.Resolves d.nestLimit [] d.root.text root := by
  have husable : IsUsable ⟨1, d.root⟩ := holdsNull_of_mem_nameList hroot
  rw [settleRoot, settle_eq_ok_iff hfree husable, Tree.Resolves, Place.start_nil, Place.start_nil]
  rfl

/-- A name is taken to where it resolves to from the root. -/
theorem settle_ofText_eq_ok_iff (hfree : d.tree.LoopFree) (hname : holdsNull name = false)
    {root place : Place} :
    d.settle name root (.ofText name) = .ok place ↔
      d.tree.Resolves d.nestLimit root name place := by
  rw [settle_eq_ok_iff hfree (isUsable_ofText hname), nameList_text_ofText, Tree.Resolves]

/-- A path is taken somewhere, or there are too many links. -/
theorem settle_cases (hfree : d.tree.LoopFree) (name : String) (here : Place) {path : PurePath}
    (husable : IsUsable path) :
    (∃ place, d.settle name here path = .ok place) ∨
      d.settle name here path = .error (.tooDeep name) := by
  rw [settle_eq hfree husable]
  cases d.tree.follow d.nestLimit [] (here.start path) (segments path.text.toList) with
  | error e => exact Or.inr rfl
  | ok place => exact Or.inl ⟨place, rfl⟩

/-! ## What is served -/

/-- A name that leads somewhere is taken there unless that is outside the root. -/
theorem resolve_eq {root place : Place} (hroot : d.settleRoot name = .ok root)
    (hplace : d.settle name root (.ofText name) = .ok place) :
    d.resolve name = if root <+: place then .ok place else .error (.outside name) := by
  have hwithin : isWithin place root = true ↔ root <+: place := List.isPrefixOf_iff_prefix
  unfold resolve
  simp only [hroot, hplace, bind, Except.bind, hwithin]
  rfl

/-- If the root leads nowhere, neither does any name. -/
theorem resolve_of_settleRoot_error {e : Error} (hroot : d.settleRoot name = .error e) :
    d.resolve name = .error e := by
  rw [resolve, hroot]
  rfl

theorem resolve_of_settle_error {root : Place} {e : Error} (hroot : d.settleRoot name = .ok root)
    (hplace : d.settle name root (.ofText name) = .error e) : d.resolve name = .error e := by
  simp only [resolve, hroot, hplace, bind, Except.bind]

/-- A name that is taken to a place leads there from where the root leads, and the place lies
    below the root: the check comes last, when all links were followed. -/
theorem exists_of_resolve {place : Place} (h : d.resolve name = .ok place) :
    ∃ root, d.settleRoot name = .ok root ∧ d.settle name root (.ofText name) = .ok place ∧
      root <+: place := by
  cases hroot : d.settleRoot name with
  | error e =>
      rw [resolve_of_settleRoot_error hroot] at h
      cases h
  | ok root =>
      cases hplace : d.settle name root (.ofText name) with
      | error e =>
          rw [resolve_of_settle_error hroot hplace] at h
          cases h
      | ok found =>
          rw [resolve_eq hroot hplace] at h
          split at h
          · rename_i hwithin
            obtain rfl := Except.ok.inj h
            exact ⟨root, rfl, hplace, hwithin⟩
          · cases h

/-- The root and a name are taken somewhere, or there are too many links. The root is taken first,
    and a name is looked at only if that succeeds. -/
theorem resolve_cases (hfree : d.tree.LoopFree) (hroot : holdsNull d.root.text = false)
    (hname : holdsNull name = false) :
    (∃ root place, d.settleRoot name = .ok root ∧
      d.settle name root (.ofText name) = .ok place) ∨
      d.resolve name = .error (.tooDeep name) := by
  have husable : IsUsable ⟨1, d.root⟩ := holdsNull_of_mem_nameList hroot
  rcases settle_cases hfree name [] husable with ⟨root, hsettleRoot⟩ | hdeep
  · rcases settle_cases hfree name root (isUsable_ofText hname) with ⟨place, hplace⟩ | hdeep
    · exact Or.inl ⟨root, place, hsettleRoot, hplace⟩
    · exact Or.inr (resolve_of_settle_error hsettleRoot hdeep)
  · exact Or.inr (resolve_of_settleRoot_error hdeep)

/-- A name that is not taken anywhere is not read. -/
theorem outcome_load_of_error {e : Error} (h : d.resolve name = .error e) :
    (d.load name).outcome = .error e := by
  rw [load, Trace.outcome_bind, Trace.outcome_ofExcept, h]

/-- A file that is found is read in the encoding of the directory. The name of the encoding is
    looked at only now, and before the bytes are. -/
theorem outcome_load_of_file {place : Place} {bytes : List UInt8}
    (hplace : d.resolve name = .ok place) (hfound : d.tree.lookUp place = .file bytes) :
    (d.load name).outcome =
      if holdsNull d.encoding then .error (.badEncoding d.encoding)
      else match Text.Encoding.ofName? d.encoding with
        | none => .error (.unknownEncoding d.encoding)
        | some encoding => (encoding.read bytes).mapError (.unreadable name) := by
  rw [load, Trace.outcome_bind, Trace.outcome_ofExcept, hplace]
  dsimp only
  rw [hfound]
  dsimp only
  by_cases hnull : holdsNull d.encoding = true
  · rw [if_pos hnull, if_pos hnull]
    rfl
  · rw [if_neg hnull, if_neg hnull]
    cases Text.Encoding.ofName? d.encoding with
    | none => rfl
    | some encoding =>
        dsimp only
        cases encoding.read bytes with
        | error fault => rfl
        | ok text => rfl

/-- What is served is what is read from a file that is found. Going back from the text, each step
    on the way to it must have succeeded: the name was taken to a place, a file was there, the
    encoding is one, and the bytes are a text in it. -/
theorem exists_of_outcome_load {text : String} (h : (d.load name).outcome = .ok text) :
    ∃ place bytes encoding, d.resolve name = .ok place ∧ d.tree.lookUp place = .file bytes ∧
      Text.Encoding.ofName? d.encoding = some encoding ∧ encoding.read bytes = .ok text := by
  cases hplace : d.resolve name with
  | error e =>
      rw [outcome_load_of_error hplace] at h
      cases h
  | ok place =>
      cases hfound : d.tree.lookUp place with
      | file bytes =>
          rw [outcome_load_of_file hplace hfound] at h
          split at h
          · cases h
          · split at h
            · cases h
            · rename_i encoding hencoding
              refine ⟨place, bytes, encoding, rfl, hfound, hencoding, ?_⟩
              cases hread : encoding.read bytes with
              | error fault =>
                  rw [hread] at h
                  cases h
              | ok read =>
                  rw [hread] at h
                  obtain rfl : read = text := Except.ok.inj h
                  rfl
      | directory | nothing | tooLong | circle =>
          -- Nothing else is read.
          rw [load, Trace.outcome_bind, Trace.outcome_ofExcept, hplace] at h
          dsimp only at h
          rw [hfound] at h
          cases h

/-- A directory of a tree without loops serves nothing but texts of files that lie below where its
    root leads, and a name that leads outside is told to lead outside, whatever is there. A name
    can fail to lead anywhere only because too many links are inside each other.

    Where a name leads is said by `Resolves`, a relation that follows one link after the other and
    knows nothing of how the directory resolves a path. That the root is no file itself is
    demanded, since a root that is one would serve its own text. -/
theorem outcome_load_confined (hfree : d.tree.LoopFree)
    (hroot : holdsNull d.root.text = false) (hname : holdsNull name = false)
    (hdirectory : ∀ root bytes, d.tree.Resolves d.nestLimit [] d.root.text root →
      d.tree.node? root ≠ some (.file bytes)) :
    (∀ text, (d.load name).outcome = .ok text → ∃ root target bytes encoding,
      d.tree.Resolves d.nestLimit [] d.root.text root ∧
      d.tree.Resolves d.nestLimit root name target ∧
        root <+: target ∧ target ≠ root ∧ d.tree.node? target = some (.file bytes) ∧
        Text.Encoding.ofName? d.encoding = some encoding ∧ encoding.read bytes = .ok text) ∧
    (∀ root target, d.tree.Resolves d.nestLimit [] d.root.text root →
      d.tree.Resolves d.nestLimit root name target →
      ¬ root <+: target → (d.load name).outcome = .error (.outside name) ∧
        (Error.outside name).report? =
          some (.notFound ("Template path '" ++ name ++ "' is outside the template root."))) ∧
    ((∃ root target, d.tree.Resolves d.nestLimit [] d.root.text root ∧
        d.tree.Resolves d.nestLimit root name target) ∨
      (d.load name).outcome = .error (.tooDeep name)) := by
  refine ⟨?_, ?_, ?_⟩
  · intro text hload
    rcases exists_of_outcome_load hload with
      ⟨target, bytes, encoding, hresolve, hfound, hencoding, hread⟩
    rcases exists_of_resolve hresolve with ⟨root, hsettleRoot, hsettle, hwithin⟩
    have hleadsRoot := (settleRoot_eq_ok_iff hfree hroot).1 hsettleRoot
    have hleads := (settle_ofText_eq_ok_iff hfree hname).1 hsettle
    -- The place has no links on it any more, so the file that is found there is a node of the tree
    -- and is reached by going down.
    have hsettled : d.tree.Settled target :=
      hleads.settled (hleadsRoot.settled Tree.settled_nil)
    have hnode := Tree.node?_of_lookUp hsettled hfound
    refine ⟨root, target, bytes, encoding, hleadsRoot, hleads, hwithin, ?_, hnode, hencoding, hread⟩
    -- The root is no file, so the file is not the root.
    rintro rfl
    exact hdirectory target bytes hleadsRoot hnode
  · intro root target hleadsRoot hleads houtside
    -- Both lead somewhere, so what decides is whether the one place is below the other.
    have hresolve := resolve_eq ((settleRoot_eq_ok_iff hfree hroot).2 hleadsRoot)
      ((settle_ofText_eq_ok_iff hfree hname).2 hleads)
    rw [if_neg houtside] at hresolve
    exact ⟨outcome_load_of_error hresolve, rfl⟩
  · rcases resolve_cases hfree hroot hname with ⟨root, target, hsettleRoot, hsettle⟩ | hdeep
    · exact Or.inl ⟨root, target, (settleRoot_eq_ok_iff hfree hroot).1 hsettleRoot,
        (settle_ofText_eq_ok_iff hfree hname).1 hsettle⟩
    · exact Or.inr (outcome_load_of_error hdeep)

/-- The root is a link to a link, and one of its links leads out of it. A name that
    leaves the root by that link can come back, and then is served; one that goes
    on to a directory whose name starts like that of the root is not. -/
theorem outcome_load_confined_links :
    let d : Directory := ⟨⟨[(["vault"], .link "shelf"), (["shelf"], .link "store"),
      (["store", "note"], .file [72, 105]), (["store", "up"], .link ".."),
      (["store2", "note"], .file [72, 111])]⟩, ["vault"], 40, "utf-8"⟩
    d.tree.LoopFree ∧ d.tree.Resolves d.nestLimit [] d.root.text ["store"] ∧
      (d.load "up/store/note").outcome = .ok "Hi" ∧
      (∃ target bytes, d.tree.Resolves d.nestLimit ["store"] "up/store/note" target ∧
        ["store"] <+: target ∧ target ≠ ["store"] ∧ d.tree.node? target = some (.file bytes)) ∧
      d.tree.Resolves d.nestLimit ["store"] "up/store2/note" ["store2", "note"] ∧
      (d.load "up/store2/note").outcome = .error (.outside "up/store2/note") := by
  intro d
  have hlinks : ∀ link target, d.tree.link? link = some target →
      link = ["vault"] ∧ target = "shelf" ∨ link = ["shelf"] ∧ target = "store" ∨
        link = ["store", "up"] ∧ target = ".." := by
    intro link target h
    have hmem := Tree.mem_nodes_of_link? h
    simpa [d] using hmem
  have hshelf : (PurePath.ofText "shelf").names = ["shelf"] := by cbv
  have hstore : (PurePath.ofText "store").names = ["store"] := by cbv
  have hup : (PurePath.ofText "..").names = [".."] := by cbv
  -- The only link that meets another one is the root, so a rank for it will do.
  have hfree : d.tree.LoopFree := by
    refine Tree.loopFree_of_rank (fun link => if link = ["vault"] then 1 else 0) ?_
    rintro link other ⟨target, htarget, hmeets⟩
    rcases hlinks link target htarget with ⟨rfl, rfl⟩ | ⟨rfl, rfl⟩ | ⟨rfl, rfl⟩
    · rw [hshelf] at hmeets
      rcases Tree.eq_of_meets_singleton hmeets with ⟨-, rfl, -⟩
      decide
    · rw [hstore] at hmeets
      rcases Tree.eq_of_meets_singleton hmeets with ⟨-, rfl, hlink⟩
      exact absurd hlink (by decide)
    · rw [hup] at hmeets
      exact absurd rfl (Tree.eq_of_meets_singleton hmeets).1
  -- The root leads to the one link, and that leads to the directory.
  have hroot : d.tree.Resolves d.nestLimit [] d.root.text ["store"] := by
    have hvault : (PurePath.ofText d.root.text).names = ["vault"] := by cbv
    have htarget : d.tree.Leads 0 [] (PurePath.ofText "store").names ["store"] := by
      rw [hstore]
      exact .down (by decide) rfl .nil
    have hmiddle : d.tree.Leads 1 [] (PurePath.ofText "shelf").names ["store"] := by
      rw [hshelf]
      exact .link (by decide) rfl htarget .nil
    have hleads : d.tree.Leads 2 [] ["vault"] ["store"] := .link (by decide) rfl hmiddle .nil
    rw [Tree.Resolves, Place.start_nil, hvault]
    exact hleads.mono (show 2 ≤ d.nestLimit by decide)
  -- The link leads up from its directory, to the top.
  have hleave : ∀ {rest : List String} {place : Place}, d.tree.Leads 1 [] rest place →
      d.tree.Leads d.nestLimit ["store"] ("up" :: rest) place := by
    intro rest place hrest
    have htarget : d.tree.Leads 0 ["store"] (PurePath.ofText "..").names [] := by
      rw [hup]
      exact .up .nil
    have hleads : d.tree.Leads 1 ["store"] ("up" :: rest) place :=
      .link (by decide) rfl htarget hrest
    exact hleads.mono (show 1 ≤ d.nestLimit by decide)
  have hback : d.tree.Resolves d.nestLimit ["store"] "up/store/note" ["store", "note"] := by
    have hnames : (PurePath.ofText "up/store/note").names = ["up", "store", "note"] := by cbv
    rw [Tree.Resolves, hnames]
    exact hleave (.down (by decide) rfl (.down (by decide) rfl .nil))
  have houtside : d.tree.Resolves d.nestLimit ["store"] "up/store2/note" ["store2", "note"] := by
    have hnames : (PurePath.ofText "up/store2/note").names = ["up", "store2", "note"] := by cbv
    rw [Tree.Resolves, hnames]
    exact hleave (.down (by decide) rfl (.down (by decide) rfl .nil))
  have hload : (d.load "up/store/note").outcome = .ok "Hi" := by
    have hresolve := resolve_eq ((settleRoot_eq_ok_iff hfree (by decide)).2 hroot)
      ((settle_ofText_eq_ok_iff hfree (by decide)).2 hback)
    rw [if_pos (by decide)] at hresolve
    have hfound : d.tree.lookUp ["store", "note"] = .file [72, 105] := by cbv
    have hread : Text.Encoding.utf8.read [72, 105] = .ok "Hi" := by cbv
    rw [outcome_load_of_file hresolve hfound, if_neg (by decide), Text.Encoding.ofName?_utf8]
    dsimp only
    rw [hread]
    rfl
  have hdirectory : ∀ root bytes, d.tree.Resolves d.nestLimit [] d.root.text root →
      d.tree.node? root ≠ some (.file bytes) := by
    intro root bytes hleads
    have hnode : d.tree.node? ["store"] = none := by decide
    rw [← Tree.Leads.unique hroot hleads, hnode]
    exact (Option.some_ne_none _).symm
  rcases (outcome_load_confined hfree (by decide) (by decide) hdirectory).1 _ hload with
    ⟨root, target, bytes, encoding, hleads, htarget, hwithin, hne, hnode, -⟩
  obtain rfl := Tree.Leads.unique hroot hleads
  refine ⟨hfree, hroot, hload, ⟨target, bytes, htarget, hwithin, hne, hnode⟩, houtside, ?_⟩
  exact ((outcome_load_confined hfree (by decide) (by decide) hdirectory).2.1 _ _ hroot houtside
    (by decide)).1

end Directory

end Stencil.Files
