import Stencil.Proofs.Files.Texts
import Stencil.Proofs.Pipeline.Answered

/-!
# Loaders for Each Other

When one loader can take the place of another.

Forging asks its loader for one path at most, and what it makes of the answer does
not depend on where that comes from. So two loaders that end alike for the path
that a source asks for are as good as each other. The path that it asks for is put
together from settings and a property and then written anew, which is how a list
of the texts of a directory has it.

## Theorems

* `outcome_forgeWork_congr`: Loaders that end alike for a path that is asked for.
* `Asks.isWritten`: A path that is asked for is written anew.
* `forge_ofDirectory_eq_ofEntries`: A list of the texts of a directory in its place.
-/

namespace Stencil

variable {source : String} {settings : Settings}

/-- Loaders that end alike for the path that a source asks for make the same of it. They need not
    agree about any other path, since a source asks for one template. -/
theorem outcome_forgeWork_congr {loader loader' : Files.Loader} (renderer : Option Renderer)
    (h : ∀ path, Asks source settings path →
      (loader.load path).outcome = (loader'.load path).outcome) :
    (forgeWork source loader renderer settings).outcome =
      (forgeWork source loader' renderer settings).outcome := by
  rw [outcome_forgeWork, outcome_forgeWork]
  cases hps : (Block.parse source false).outcome with
  | error reason => rfl
  | ok ps =>
      have htext : templateText loader settings ps = templateText loader' settings ps := by
        unfold templateText
        split
        · rfl
        · rename_i hname
          rw [h _ ⟨ps, hps, by simpa using hname, rfl⟩]
      simp only [Except.mapError, ok_bind, templateTokens, htext]

/-- A path that is asked for is written anew. -/
theorem Asks.isWritten {path : String} (h : Asks source settings path) :
    (Files.PurePath.ofText path).text = path := by
  rcases h with ⟨ps, -, -, rfl⟩
  exact Files.PurePath.text_ofText_join _ _

/-- A directory of texts without links and the list of its texts, each under its path from the
    root, make the same of every source: the same output, or the same failure. The path that the
    source asks for, if it comes to that, has to lead down and must not be too long to be looked
    up.

    A path that leads up may come down again in a directory, and to a list it is a name that is
    not there, so such paths are left out. A roundabout path is not: it is written anew before
    either is asked. -/
theorem forge_ofDirectory_eq_ofEntries {d : Files.Directory} {root : Files.Place}
    (h : d.IsPlain root) (renderer : Option Renderer) (journal : Journal)
    (hpath : ∀ path, Asks source settings path → Files.LeadsDown path ∧
      d.tree.lookUp (root ++ (Files.PurePath.ofText path).names) ≠ .tooLong) :
    (forge source (.ofDirectory d) renderer settings journal).1 =
      (forge source (.ofEntries (d.tree.texts root)) renderer settings journal).1 := by
  rw [outcome_forge, outcome_forge]
  -- Only the one path that is asked for can make a difference.
  refine outcome_forgeWork_congr renderer fun path hasks => ?_
  rcases hpath path hasks with ⟨hdown, hshort⟩
  exact h.outcome_load_eq hdown hasks.isWritten hshort

/-- A vault with one template, which is asked for in a roundabout way. -/
theorem forge_ofDirectory_eq_ofEntries_note :
    let d : Files.Directory :=
      ⟨⟨[(["vault", "HTML", "sub", "note.html"], .file [72, 105])]⟩, ["vault"], 40, "utf-8"⟩
    let source := "template: ./sub//note"
    Asks source {} "HTML/sub/note.html" ∧ d.IsPlain ["vault"] ∧
      d.tree.texts ["vault"] = [("HTML/sub/note.html", "Hi")] ∧
      (forge source (.ofDirectory d) none {} {}).1 =
        (forge source (.ofEntries [("HTML/sub/note.html", "Hi")]) none {} {}).1 := by
  intro d source
  have hlinks : ∀ place, d.tree.link? place = none :=
    Files.Tree.link?_eq_none_of_nodes (by simp [d])
  have hroot : d.tree.Resolves d.nestLimit [] d.root.text ["vault"] := by
    have hnames : (Files.PurePath.ofText d.root.text).names = ["vault"] := by cbv
    rw [Files.Tree.Resolves, Files.Place.start_nil, hnames]
    exact .down (by decide) (hlinks _) .nil
  have hnode : ∀ place bytes, d.tree.node? place = some (.file bytes) → bytes = [72, 105] := by
    intro place bytes h
    have hmem := Files.Tree.mem_nodes_of_node? h
    simp only [d, List.mem_singleton, Prod.mk.injEq, Files.Node.file.injEq] at hmem
    exact hmem.2
  -- What makes the directory plain is said of its one file.
  have hplain : d.IsPlain ["vault"] := {
    encoding := rfl
    loopFree := Files.Tree.loopFree_of_noLinks hlinks
    usable := by decide
    resolves := hroot
    link? := fun place _ => hlinks place
    hasSteps := by
      intro n hn _ name hname
      rw [List.mem_singleton.1 hn] at hname
      have hsteps : name ∈ Files.nameList "HTML/sub/note.html".toList := by
        have hnames : Files.nameList "HTML/sub/note.html".toList = ["HTML", "sub", "note.html"] := by
          cbv
        rwa [hnames]
      exact (Files.of_mem_nameList hsteps).1
    isText := fun place bytes _ hfile => by
      rw [hnode place bytes hfile]
      exact ⟨['H', 'i'], by cbv, by decide⟩ }
  have hparse : (Block.parse source false).outcome = .ok [⟨"template", "./sub//note"⟩] := by
    rw [Block.Parser.outcome_parse_eq, if_neg (by decide)]
    decide
  have hpath : Settings.templatePath {} (Settings.templateName {} [⟨"template", "./sub//note"⟩]) =
      "HTML/sub/note.html" := by cbv
  have htexts : d.tree.texts ["vault"] = [("HTML/sub/note.html", "Hi")] := by cbv
  refine ⟨⟨_, hparse, by decide, hpath⟩, hplain, htexts, ?_⟩
  rw [← htexts]
  refine forge_ofDirectory_eq_ofEntries hplain none {} ?_
  rintro path ⟨ps, hps, -, rfl⟩
  obtain rfl := Except.ok.inj (hps.symm.trans hparse)
  rw [hpath]
  have hnames : (Files.PurePath.ofText "HTML/sub/note.html").names =
      ["HTML", "sub", "note.html"] := by cbv
  refine ⟨⟨by cbv, by rw [hnames]; decide, by decide⟩, ?_⟩
  have hfound : d.tree.lookUp ["vault", "HTML", "sub", "note.html"] = .file [72, 105] := by cbv
  rw [hnames]
  exact hfound ▸ Files.Found.noConfusion

end Stencil
