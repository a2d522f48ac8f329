import Stencil.Proofs.Files.Reported

/-!
# Files as a List of Texts

That a directory without links serves what a list of its texts does.

The list has the text of each file under the path that leads to it from the root.
It is asked by exact names, so everything depends on how paths are written: names
without slashes, joined by single slashes, can be told apart again, and a path
that was written anew is written that way. Such a path finds its file in the list
just if its names lead to it in the tree.

A directory has more to do. Without links below the root and without steps up,
a path leads straight down, and never out of the root. A file that stands there is
found, since whatever is above it is a directory; and nothing else is served,
whether there is a directory, or nothing, or the path runs through a file.

## Main definitions

* `Tree.text?`, `Tree.texts`: The text of a file, and those below a place with their
  paths.
* `LeadsDown`: A path that leads down only.
* `Directory.IsPlain`: A directory of texts without links.

## Theorems

* `PurePath.ofText_text`: A path can be read back.
* `PurePath.names_eq_of_text`: Paths that are written alike have the same names.
* `Tree.lookup_texts`: The list has the texts of the tree.
* `Tree.lookUp_of_node?`: A file that is there is found.
* `Directory.IsPlain.outcome_load`: What a directory of texts serves.
* `Directory.IsPlain.outcome_load_eq`: It is what the list does.
-/

namespace Stencil.Files

/-! ## Paths that are read back -/

namespace PurePath

/-- Names that are put together do not start with a slash. -/
theorem takeWhile_slash_intercalate {names : List String} (h : ∀ name ∈ names, IsStep name) :
    ("/".intercalate names).toList.takeWhile (· == '/') = [] := by
  rw [String.toList_intercalate]
  cases names with
  | nil => rfl
  | cons name names =>
      have hname := h name List.mem_cons_self
      -- What comes first is the first character of the first name, which is not a slash.
      rcases List.exists_cons_of_ne_nil (fun hnil => hname.ne_empty (String.toList_inj.1 hnil)) with
        ⟨c, s, hcons⟩
      have hc : (c == '/') = false := by
        rw [beq_eq_false_iff_ne]
        rintro rfl
        exact hname.slash_notMem (by rw [hcons]; exact List.mem_cons_self)
      cases names with
      | nil =>
          rw [List.map_cons, List.map_nil, List.intercalate_singleton, hcons, List.takeWhile_cons,
            hc]
          rfl
      | cons other names =>
          rw [List.map_cons, List.map_cons, List.intercalate_cons_cons, hcons, List.cons_append,
            List.cons_append, List.takeWhile_cons, hc]
          rfl

/-- The slashes that a path starts with are those that it is written with. Two of them mean
    another root than one, and more than two mean the same as one. -/
theorem takeWhile_slash_text {p : PurePath} (h : ∀ name ∈ p.names, IsStep name) :
    p.text.toList.takeWhile (· == '/') = List.replicate p.slashes '/' := by
  have hwritten : (List.replicate p.slashes '/' ++ ("/".intercalate p.names).toList).takeWhile
      (· == '/') = List.replicate p.slashes '/' := by
    rw [List.takeWhile_append_of_pos (by simp), takeWhile_slash_intercalate h, List.append_nil]
  unfold text
  dsimp only
  split
  · -- A path that would be written as nothing has no slashes.
    rename_i hempty
    rw [String.isEmpty_iff, ← String.toList_inj, String.toList_append, String.toList_ofList]
      at hempty
    rw [hempty] at hwritten
    rw [← hwritten]
    rfl
  · rw [String.toList_append, String.toList_ofList, hwritten]

/-- Paths that are written alike have the same names. -/
theorem names_eq_of_text {p q : PurePath} (hp : ∀ name ∈ p.names, IsStep name)
    (hq : ∀ name ∈ q.names, IsStep name) (h : p.text = q.text) : p.names = q.names := by
  rw [← nameList_text hp, h, nameList_text hq]

/-- A path can be read back. -/
theorem ofText_text {p : PurePath} (h : ∀ name ∈ p.names, IsStep name) (hslashes : p.slashes ≤ 2) :
    ofText p.text = p := by
  rw [ofText, takeWhile_slash_text h, nameList_text h, List.length_replicate]
  have hmin : (if p.slashes = 2 then 2 else min p.slashes 1) = p.slashes := by
    split
    · omega
    · omega
  exact congrArg (mk · p.names) hmin

/-- A path that is read has at most two slashes at its start. -/
theorem slashes_ofText_le (s : String) : (ofText s).slashes ≤ 2 := by
  unfold ofText
  dsimp only
  split
  · omega
  · omega

/-- What is written for a path seen from another is read back. To write a path puts it in order,
    so doing it twice is doing it once. -/
theorem text_ofText_join (s s' : String) :
    (ofText ((ofText s).join (ofText s')).text).text = ((ofText s).join (ofText s')).text := by
  have hstep : ∀ s : String, ∀ name ∈ (ofText s).names, IsStep name :=
    fun _ _ hname => (of_mem_nameList hname).1
  refine congrArg text (ofText_text ?_ ?_)
  · unfold join
    -- A path with a root of its own replaces the one that it is seen from.
    split
    · exact hstep s'
    · intro name hname
      exact (List.mem_append.1 hname).elim (hstep s name) (hstep s' name)
  · unfold join
    split
    · exact slashes_ofText_le s'
    · exact slashes_ofText_le s

end PurePath

/-! ## Texts -/

namespace Tree

variable {t : Tree} {root : Place} {names : List String}

/-- The text of the file at a place, if its bytes are a text. It is read as a whole, and a mark at
    its start stays. -/
def text? (t : Tree) (place : Place) : Option String :=
  match t.node? place with
  | some (.file bytes) => (Text.decodeUtf8 0 bytes).toOption.map String.ofList
  | _ => none

/-- The texts of the files below a place, each with its path from there. The path of
    a file that stands at the place itself is a full stop. -/
def texts (t : Tree) (root : Place) : List (String × String) :=
  t.nodes.filterMap fun (place, _) =>
    if isWithin place root then
      (t.text? place).map fun text => ((PurePath.mk 0 (place.drop root.length)).text, text)
    else none

/-- What stands below a place has names that can be steps of a path. A name with a slash in it
    could be in the tree and would never be found by a path. -/
def HasSteps (t : Tree) (root : Place) : Prop :=
  ∀ n ∈ t.nodes, root <+: n.1 → ∀ name ∈ n.1.drop root.length, IsStep name

/-- What is at a place stands among what the tree holds. -/
theorem mem_nodes_of_node? {place : Place} {node : Node} (h : t.node? place = some node) :
    (place, node) ∈ t.nodes := by
  rcases List.lookup_eq_some_iff.1 h with ⟨before, after, heq, -⟩
  rw [heq]
  simp

/-- A file whose bytes are a text stands in the tree. -/
theorem exists_mem_of_text? {place : Place} {text : String} (h : t.text? place = some text) :
    ∃ node, (place, node) ∈ t.nodes := by
  unfold text? at h
  split at h
  · rename_i bytes hnode
    exact ⟨.file bytes, mem_nodes_of_node? hnode⟩
  · cases h

/-- The list has the texts of the tree, with the paths of their files. A file that is no text is
    left out of the list, like whatever is no file. -/
theorem mem_texts_iff {key text : String} :
    (key, text) ∈ t.texts root ↔ ∃ names, t.text? (root ++ names) = some text ∧
      key = (PurePath.mk 0 names).text := by
  rw [texts, List.mem_filterMap]
  constructor
  · rintro ⟨⟨place, node⟩, -, h⟩
    dsimp only at h
    split at h
    · rename_i hwithin
      rcases List.isPrefixOf_iff_prefix.1 hwithin with ⟨names, rfl⟩
      rw [List.drop_left, Option.map_eq_some_iff] at h
      rcases h with ⟨found, hfound, heq⟩
      cases heq
      exact ⟨names, hfound, rfl⟩
    · cases h
  · -- Each file below the root is met, and its path is what is left of its place.
    rintro ⟨names, htext, rfl⟩
    rcases exists_mem_of_text? htext with ⟨node, hmem⟩
    have hwithin : isWithin (root ++ names) root = true :=
      List.isPrefixOf_iff_prefix.2 (List.prefix_append root names)
    refine ⟨_, hmem, ?_⟩
    dsimp only
    rw [if_pos hwithin, htext, List.drop_left]
    rfl

/-- The list has a text under a path just if the tree has it where the path leads. A path in the
    list could be that of two files, and the first would hide the other; but the names of files
    are steps, so they can be read off from the path. -/
theorem lookup_texts (hsteps : t.HasSteps root) (h : ∀ name ∈ names, IsStep name) :
    (t.texts root).lookup (PurePath.mk 0 names).text = t.text? (root ++ names) := by
  -- Paths of files that are written alike have the same names.
  have hunique : ∀ text, ((PurePath.mk 0 names).text, text) ∈ t.texts root →
      t.text? (root ++ names) = some text := by
    intro text hmem
    rcases mem_texts_iff.1 hmem with ⟨others, htext, heq⟩
    rcases exists_mem_of_text? htext with ⟨node, hnode⟩
    have hothers : ∀ name ∈ others, IsStep name := by
      have hbelow := hsteps _ hnode (List.prefix_append root others)
      rwa [List.drop_left] at hbelow
    have hnames : names = others := PurePath.names_eq_of_text h hothers heq
    rwa [hnames]
  cases hlookup : (t.texts root).lookup (PurePath.mk 0 names).text with
  | some text =>
      rcases List.lookup_eq_some_iff.1 hlookup with ⟨before, after, heq, -⟩
      exact (hunique text (by rw [heq]; simp)).symm
  | none =>
      cases htext : t.text? (root ++ names) with
      | none => rfl
      | some text =>
          have hmem := mem_texts_iff.2 ⟨names, htext, rfl⟩
          have hne := List.lookup_eq_none_iff.1 hlookup _ hmem
          simp at hne

/-! ## Looking up what is there -/

/-- Above whatever stands somewhere there are directories. -/
theorem isDirectory_of_node? {here : Place} {name : String} {node : Node}
    (h : t.node? (here ++ name :: names) = some node) : t.isDirectory here = true := by
  have hbelow : t.nodes.any (fun n => n.1 != here && isWithin n.1 here) = true := by
    rw [List.any_eq_true]
    refine ⟨(here ++ name :: names, node), mem_nodes_of_node? h, ?_⟩
    rw [Bool.and_eq_true, bne_iff_ne]
    exact ⟨by simp, List.isPrefixOf_iff_prefix.2 (List.prefix_append _ _)⟩
  rw [isDirectory, hbelow, Bool.or_true]

/-- A file that is there is found on a way without links and full stops, unless a name on the way
    is too long for the system. -/
theorem find_of_node? {links : Nat} {here : Place} {bytes : List UInt8}
    (hsettled : t.Settled (here ++ names)) (h : t.node? (here ++ names) = some (.file bytes)) :
    t.find links here names = .file bytes ∨ t.find links here names = .tooLong := by
  induction names generalizing here with
  | nil =>
      rw [List.append_nil] at h
      rw [find, foundAt, h]
      exact .inl rfl
  | cons name names ih =>
      rcases hsettled here name names rfl with ⟨hdot, hup, hlink⟩
      -- Above a file there are directories, so the search is not stopped on the way.
      have hdirectory := isDirectory_of_node? h
      have hassoc : here ++ name :: names = (here ++ [name]) ++ names := by
        rw [List.append_assoc, List.cons_append, List.nil_append]
      rw [hassoc] at hsettled h
      rw [find, if_neg hdot, if_neg hup, hdirectory]
      · rw [if_neg (by simp)]
        split
        · exact .inr rfl
        · exact ih hsettled h
      · exact hlink

/-- A file that is there is found. -/
theorem lookUp_of_node? {place : Place} {bytes : List UInt8} (hsettled : t.Settled place)
    (h : t.node? place = some (.file bytes)) (hshort : t.lookUp place ≠ .tooLong) :
    t.lookUp place = .file bytes := by
  unfold lookUp at hshort ⊢
  split at hshort
  · exact absurd rfl hshort
  · rename_i hlimit
    rw [if_neg hlimit]
    exact (find_of_node? hsettled h).resolve_right hshort

/-- Names lead down where there are no links, whatever is there: a place need not hold anything to
    be led to. -/
theorem leads_append (limit : Nat) {here : Place}
    (hlinks : ∀ place, here <+: place → t.link? place = none) (hup : ".." ∉ names) :
    t.Leads limit here names (here ++ names) := by
  induction names generalizing here with
  | nil =>
      rw [List.append_nil]
      exact .nil
  | cons name names ih =>
      rw [List.mem_cons, not_or] at hup
      have hnext : here <+: here ++ [name] := List.prefix_append _ _
      have hrest := ih (fun place hplace => hlinks place (hnext.trans hplace)) hup.2
      rw [List.append_assoc, List.singleton_append] at hrest
      exact .down (Ne.symm hup.1) (hlinks _ hnext) hrest

end Tree

/-! ## Directories of texts -/

/-- A path without a root that has no step up and does not hold the null
    character. -/
structure LeadsDown (path : String) : Prop where
  hasRoot : (PurePath.ofText path).hasRoot = false
  up_notMem : ".." ∉ (PurePath.ofText path).names
  usable : holdsNull path = false

namespace Directory

/-- A directory of texts in UTF-8, without carriage returns, and without links. It
    does not matter how one comes to its root, as long as that leads somewhere. -/
structure IsPlain (d : Directory) (root : Place) : Prop where
  encoding : d.encoding = "utf-8"
  loopFree : d.tree.LoopFree
  usable : holdsNull d.root.text = false
  resolves : d.tree.Resolves d.nestLimit [] d.root.text root
  link? : ∀ place, root <+: place → d.tree.link? place = none
  hasSteps : d.tree.HasSteps root
  isText : ∀ place bytes, root <+: place → d.tree.node? place = some (.file bytes) →
    ∃ s, Text.decodeUtf8 0 bytes = .ok s ∧ '\r' ∉ s

namespace IsPlain

variable {d : Directory} {root : Place} {path : String}

/-- A file below the root is read as its text. -/
theorem read_eq (h : d.IsPlain root) {place : Place} {bytes : List UInt8} (hplace : root <+: place)
    (hnode : d.tree.node? place = some (.file bytes)) :
    ∃ text, d.tree.text? place = some text ∧ Text.Encoding.utf8.read bytes = .ok text := by
  rcases h.isText place bytes hplace hnode with ⟨s, hs, hreturn⟩
  refine ⟨.ofList s, ?_, ?_⟩
  · rw [Tree.text?, hnode]
    dsimp only
    rw [hs]
    rfl
  · rw [Text.Encoding.read, Text.Encoding.decode, hs, Except.mapError, Except.map,
      Text.unifyLineEnds_eq_self hreturn]

/-- A path that leads down is taken to where it says. -/
theorem resolve_eq (h : d.IsPlain root) (hdown : LeadsDown path) :
    d.resolve path = .ok (root ++ (PurePath.ofText path).names) := by
  have hleads : d.tree.Resolves d.nestLimit root path (root ++ (PurePath.ofText path).names) := by
    rw [Tree.Resolves, Place.start, hdown.hasRoot]
    exact Tree.leads_append d.nestLimit h.link? hdown.up_notMem
  rw [Directory.resolve_eq ((settleRoot_eq_ok_iff h.loopFree h.usable).2 h.resolves)
    ((settle_ofText_eq_ok_iff h.loopFree hdown.usable).2 hleads),
    if_pos (List.prefix_append _ _)]

/-- A path that leads down is answered with the text of the file that is there. If there is none,
    it is told to be missing. Whether something else is there, or nothing at all, makes no
    difference. -/
theorem outcome_load (h : d.IsPlain root) (hdown : LeadsDown path)
    (hshort : d.tree.lookUp (root ++ (PurePath.ofText path).names) ≠ .tooLong) :
    (d.load path).outcome =
      match d.tree.text? (root ++ (PurePath.ofText path).names) with
      | some text => .ok text
      | none => .error (.missing path) := by
  have hresolve := h.resolve_eq hdown
  have hsettled : d.tree.Settled (root ++ (PurePath.ofText path).names) :=
    Tree.Leads.settled (Tree.leads_append d.nestLimit h.link? hdown.up_notMem)
      (fun _ hname => (of_mem_nameList hname).1) (h.resolves.settled Tree.settled_nil)
  have hbelow : root <+: root ++ (PurePath.ofText path).names := List.prefix_append _ _
  -- From here on, only the place counts.
  generalize root ++ (PurePath.ofText path).names = place at hshort hresolve hsettled hbelow ⊢
  by_cases hfile : ∃ bytes, d.tree.node? place = some (.file bytes)
  · rcases hfile with ⟨bytes, hnode⟩
    rcases h.read_eq hbelow hnode with ⟨text, htext, hread⟩
    have hfound := Tree.lookUp_of_node? hsettled hnode hshort
    rw [outcome_load_of_file hresolve hfound, h.encoding, if_neg (by decide),
      Text.Encoding.ofName?_utf8, htext]
    dsimp only
    rw [hread]
    rfl
  · have htext : d.tree.text? place = none := by
      unfold Tree.text?
      split
      · rename_i bytes hnode
        exact absurd ⟨bytes, hnode⟩ hfile
      · rfl
    -- Without a file there is nothing that could be found but what counts as missing.
    have hfound : d.tree.lookUp place ∈ [.directory, .nothing, .circle] := by
      cases hlookUp : d.tree.lookUp place with
      | file bytes => exact absurd ⟨bytes, Tree.node?_of_lookUp hsettled hlookUp⟩ hfile
      | tooLong => exact absurd hlookUp hshort
      | directory | nothing | circle => decide
    rw [outcome_load_of_no_file hresolve hfound, htext]

/-- A directory of texts serves what the list of its texts does, and misses what the list does, if
    it is asked by a path that was written anew. The list compares paths as they are written, so
    it would miss one with a slash too many. -/
theorem outcome_load_eq (h : d.IsPlain root) (hdown : LeadsDown path)
    (hwritten : (PurePath.ofText path).text = path)
    (hshort : d.tree.lookUp (root ++ (PurePath.ofText path).names) ≠ .tooLong) :
    ((Loader.ofDirectory d).load path).outcome =
      ((Loader.ofEntries (d.tree.texts root)).load path).outcome := by
  have hkey : (PurePath.mk 0 (PurePath.ofText path).names).text = path := by
    have hslashes : (PurePath.ofText path).slashes = 0 := by
      simpa [PurePath.hasRoot] using hdown.hasRoot
    rw [← hslashes]
    exact hwritten
  have hsteps : ∀ name ∈ (PurePath.ofText path).names, IsStep name :=
    fun _ hname => (of_mem_nameList hname).1
  have hlookup := Tree.lookup_texts h.hasSteps hsteps
  rw [hkey] at hlookup
  rw [Loader.ofDirectory, h.outcome_load hdown hshort, Loader.ofEntries]
  dsimp only
  rw [hlookup]
  cases d.tree.text? (root ++ (PurePath.ofText path).names) <;> rfl

end IsPlain

end Directory

end Stencil.Files
