import Mathlib
import Stencil.Highlight.Usual
import Stencil.Proofs.Files.Reported
import Stencil.Proofs.Pipeline.Outcome
import Stencil.Proofs.Template.Found

/-!
# Answers for Display

For which sources something is displayed, and what.

Of all the ways to fail, only those of the loader are not always reported: the
failures of parsing, of a property that is lacking, of tokens and of values are,
whatever the source is. A failure that is reported is displayed as a callout,
which can be made as soon as the style exists. So nothing but the loader is in
the way of an answer, and it is asked for one name at most. `displays_iff` says
so for any loader.

A list of texts is never in the way. A directory is if it does not handle the
name, which is in the hands of whoever writes the source: the null character in
the name is enough.

## Main definitions

* `Asks`: The path of a template that a source asks for.
* `Displays`: What is displayed for a source.

## Theorems

* `isSome_report?_or_load`: A failure is reported, or it is one of the loader.
* `displays_iff`: There is an answer just if the loader has one.
* `displays_forgeCallout`: Lists of texts are always answered from, directories
  for the names that they handle.
-/

namespace Stencil

/-- The path of the template that a source asks a loader for, if it comes to that. A source that
    cannot be parsed asks for nothing, and neither does one that names no template. -/
def Asks (source : String) (settings : Settings) (path : String) : Prop :=
  ∃ ps, (Block.parse source false).outcome = .ok ps ∧ settings.templateName ps ≠ "" ∧
    settings.templatePath (settings.templateName ps) = path

/-- What is displayed for a source, in the element that a host looks for. If the work ends in
    something that is not reported, or the callout cannot be made, there is nothing that is
    displayed. -/
inductive Displays (h : Highlight.Highlighter) (source : String) (loader : Files.Loader)
    (renderer : Option Renderer) (settings : Settings) : String → Prop
  /-- The output, if there is one. -/
  | output {content : String}
      (hwork : (forgeWork source loader renderer settings).outcome = .ok content) :
      Displays h source loader renderer settings (wrapped content)
  /-- Else a callout with the source and the report of why there is none. -/
  | callout {failure : Failure} {report : Report} {callout : String}
      (hwork : (forgeWork source loader renderer settings).outcome = .error failure)
      (hreport : failure.report? = some report)
      (hcallout : errorCallout h report.text (some source) settings = .ok callout) :
      Displays h source loader renderer settings (wrapped callout)

variable {h : Highlight.Highlighter} {source : String} {loader : Files.Loader}
  {renderer : Option Renderer} {settings : Settings}

/-! ## Failures -/

/-- What is wrong with a source that is no codeblock is reported. The verdict on its lines is one
    of four faults, and there is a report for each. -/
theorem isSome_report?_of_parse {reason : Block.Error}
    (h : (Block.parse source false).outcome = .error reason) : reason.report?.isSome := by
  rw [Block.Parser.outcome_parse_eq, Block.verdict] at h
  split at h
  · cases h
    rfl
  · split at h
    · cases h
      rfl
    · split at h
      · cases h
        rfl
      · split at h
        · cases h
        · cases h
          rfl

/-- What is wrong with tokens is reported, since it can only be that they use a name in two ways. -/
theorem isSome_report?_of_agreed {strict : Bool} {tokens : List Template.Token}
    {reason : Template.Error} (h : agreed strict tokens = .error reason) :
    reason.report?.isSome := by
  cases strict with
  | false => cases h
  | true =>
      rcases agreed_cases tokens with ⟨-, hagreed⟩ | ⟨-, p, q, clash, -, -, -, -, hagreed⟩
      · rw [hagreed] at h
        cases h
      · rw [hagreed] at h
        rw [← Except.error.inj h]
        rfl

/-- What is wrong with values is reported. -/
theorem isSome_report?_of_fill {tokens : List Template.Token} {values : Template.Values}
    {reason : Template.Error} (h : (Template.fill tokens values).outcome = .error reason) :
    reason.report?.isSome := by
  rw [Template.outcome_fill] at h
  split at h
  · cases h
  · rw [← Except.error.inj h]
    rfl

/-- What is wrong with a template that was loaded is reported. Any text has tokens, so what is
    left are names that are used in two ways and values that are missing. -/
theorem isSome_report?_of_text {ps : List Block.Property} {text : String} {failure : Failure}
    (hps : (Block.parse source false).outcome = .ok ps)
    (htext : templateText loader settings ps = .ok text)
    (h : (forgeWork source loader renderer settings).outcome = .error failure) :
    failure.report?.isSome := by
  rcases Template.Registry.exists_outcome_tokenize text with ⟨tokens, htokens, -⟩
  rw [outcome_forgeWork_of_text hps htext htokens] at h
  cases hagreed : (agreed settings.strict tokens).mapError Failure.template with
  | error reason =>
      rw [hagreed] at h
      obtain rfl : reason = failure := Except.error.inj h
      rcases mapError_eq_error_iff.1 hagreed with ⟨reason, hreason, rfl⟩
      exact isSome_report?_of_agreed hreason
  | ok found =>
      rw [hagreed, ok_bind] at h
      rcases mapError_eq_error_iff.1 h with ⟨reason, hreason, rfl⟩
      exact isSome_report?_of_fill hreason

/-- What the loader does not serve is not forged. -/
theorem outcome_forgeWork_of_load {path : String} {e : Files.Error}
    (hasks : Asks source settings path) (hload : (loader.load path).outcome = .error e) :
    (forgeWork source loader renderer settings).outcome = .error (.load e) := by
  rcases hasks with ⟨ps, hps, hname, rfl⟩
  refine outcome_forgeWork_of_no_text ?_
  rw [hps]
  simp only [Except.mapError, ok_bind, templateText, hload]
  rw [if_neg (by simpa using hname)]

/-- A failure is reported, or it is one of the loader, at the path that the source asks for. So
    whether there is an answer depends on the loader only, and on one question to it. -/
theorem isSome_report?_or_load {failure : Failure}
    (h : (forgeWork source loader renderer settings).outcome = .error failure) :
    failure.report?.isSome ∨ ∃ path e, Asks source settings path ∧
      (loader.load path).outcome = .error e ∧ failure = .load e := by
  cases hps : (Block.parse source false).outcome with
  | error reason =>
      rw [outcome_forgeWork, hps] at h
      obtain rfl : .block reason = failure := Except.error.inj h
      exact .inl (isSome_report?_of_parse hps)
  | ok ps =>
      -- The stages are gone through in order, up to the one that failed.
      by_cases hname : settings.templateName ps = ""
      · have hunnamed : (Block.parse source false).outcome.mapError .block >>=
            templateText loader settings = .error (.unnamed settings.templateKey) := by
          rw [hps]
          simp only [Except.mapError, ok_bind, templateText, hname]
          rfl
        rw [outcome_forgeWork_of_no_text hunnamed] at h
        rw [← Except.error.inj h]
        exact .inl rfl
      · cases hload : (loader.load (settings.templatePath (settings.templateName ps))).outcome with
        | error e =>
            have hasks : Asks source settings _ := ⟨ps, hps, hname, rfl⟩
            rw [outcome_forgeWork_of_load hasks hload] at h
            exact .inr ⟨_, e, hasks, hload, (Except.error.inj h).symm⟩
        | ok text =>
            exact .inl (isSome_report?_of_text hps (templateText_eq_ok_iff.2 ⟨hname, hload⟩) h)

/-! ## Answers -/

/-- The callout can be made as soon as the style exists. -/
theorem exists_errorCallout (hstyle : (h.style? settings.style).isSome)
    (message : String) (shown : Option String) :
    ∃ callout, errorCallout h message shown settings = .ok callout := by
  rcases Option.isSome_iff_exists.1 hstyle with ⟨style, hstyle⟩
  have hsource : ∃ written, shownSource h shown settings = .ok written := by
    -- Only a source that is displayed needs the style.
    cases shown with
    | none => exact ⟨_, rfl⟩
    | some source =>
        cases hshows : settings.showsSource with
        | false => exact ⟨"", by simp only [shownSource, hshows]⟩
        | true =>
            simp only [shownSource, hshows, Highlight.highlight?, hstyle, Option.map_some]
            exact ⟨_, rfl⟩
  rcases hsource with ⟨written, hwritten⟩
  exact ⟨_, congrArg _ hwritten⟩

/-- What is displayed, without the journal. -/
theorem outcome_forgeCallout (h : Highlight.Highlighter) (source : String)
    (loader : Files.Loader) (renderer : Option Renderer) (settings : Settings)
    (journal : Journal) :
    (forgeCallout h source loader renderer settings journal).1 =
      match (forgeWork source loader renderer settings).outcome with
      | .ok content => .ok (wrapped content)
      | .error failure =>
        match failure.report? with
        | none => .error failure
        | some report =>
          (errorCallout h report.text (some source) settings).map wrapped := by
  have houtcome := outcome_forge source loader renderer settings journal
  unfold forgeCallout
  -- The journal is of no account, so the run is replaced by its outcome.
  generalize forge source loader renderer settings journal = forged at houtcome ⊢
  obtain ⟨outcome, after⟩ := forged
  obtain rfl : outcome = (forgeWork source loader renderer settings).outcome := houtcome
  cases (forgeWork source loader renderer settings).outcome with
  | ok content => rfl
  | error failure =>
      dsimp only
      cases failure.report? with
      | none => rfl
      | some report => rfl

/-- There is an answer just if the loader has one to what the source asks for. A source that asks
    for nothing, because it is no codeblock or names no template, always has an answer. -/
theorem displays_iff (hstyle : (h.style? settings.style).isSome)
    (journal : Journal) :
    (∃ answer, (forgeCallout h source loader renderer settings journal).1 = .ok answer ∧
      Displays h source loader renderer settings answer) ↔
      ∀ path, Asks source settings path → loader.Answers path := by
  rw [outcome_forgeCallout]
  constructor
  · rintro ⟨answer, hanswer, -⟩ path hasks e hload
    rw [outcome_forgeWork_of_load hasks hload] at hanswer
    dsimp only at hanswer
    cases hreport : e.report? with
    | some report => rfl
    | none =>
        rw [show (Failure.load e).report? = none from hreport] at hanswer
        cases hanswer
  · intro hanswers
    cases hwork : (forgeWork source loader renderer settings).outcome with
    | ok content => exact ⟨_, rfl, .output hwork⟩
    | error failure =>
        -- If the loader failed, it did so at the path that is asked for, and there it has an
        -- answer.
        have hsome : failure.report?.isSome := by
          rcases isSome_report?_or_load hwork with hreport | ⟨path, e, hasks, hload, rfl⟩
          · exact hreport
          · exact hanswers path hasks e hload
        rcases Option.isSome_iff_exists.1 hsome with ⟨report, hreport⟩
        rcases exists_errorCallout hstyle report.text (some source) with ⟨callout, hcallout⟩
        refine ⟨wrapped callout, ?_, .callout hwork hreport hcallout⟩
        simp only [hreport, hcallout, Except.map]

/-- With a list of texts there is an answer to every source. With a directory of a tree without
    loops and an encoding that is known, there is one just if the directory handles the path that
    the source asks for.

    An answer is the output, or a callout with the report of the failure. Where there is none, the
    failure is one that nobody reports: it leaves the whole of forging as it is. -/
theorem displays_forgeCallout (hstyle : (h.style? settings.style).isSome)
    (journal : Journal) :
    (∀ entries, ∃ answer,
      (forgeCallout h source (.ofEntries entries) renderer settings journal).1 = .ok answer ∧
        Displays h source (.ofEntries entries) renderer settings answer) ∧
    ∀ (d : Files.Directory) (encoding : Text.Encoding), d.tree.LoopFree →
      Files.holdsNull d.root.text = false → Files.holdsNull d.encoding = false →
      Text.Encoding.ofName? d.encoding = some encoding →
      ((∃ answer,
        (forgeCallout h source (.ofDirectory d) renderer settings journal).1 = .ok answer ∧
          Displays h source (.ofDirectory d) renderer settings answer) ↔
        ∀ path, Asks source settings path → d.Handles encoding path) := by
  constructor
  · intro entries
    exact (displays_iff hstyle journal).2 fun path _ =>
      Files.Loader.answers_ofEntries entries path
  · intro d encoding hfree hroot hnull hencoding
    rw [displays_iff hstyle journal]
    exact forall₂_congr fun path _ =>
      Files.Loader.answers_ofDirectory_iff hfree hroot hnull hencoding

/-- A file whose bytes are no text is displayed as a callout. -/
theorem displays_forgeCallout_bytes :
    let h := Highlight.Highlighter.usual true
    let d : Files.Directory := ⟨⟨[(["HTML", "note.html"], .file [255])]⟩, [], 40, "utf-8"⟩
    d.tree.LoopFree ∧ Text.Encoding.ofName? d.encoding = some .utf8 ∧
      ∃ answer, (forgeCallout h "template: note" (.ofDirectory d) none {} {}).1 = .ok answer ∧
        Displays h "template: note" (.ofDirectory d) none {} answer := by
  intro h d
  have hlinks : ∀ place, d.tree.link? place = none :=
    Files.Tree.link?_eq_none_of_nodes (by simp [d])
  have hfree : d.tree.LoopFree := Files.Tree.loopFree_of_noLinks hlinks
  have hencoding : Text.Encoding.ofName? d.encoding = some .utf8 := Text.Encoding.ofName?_utf8
  have hroot : d.tree.Resolves d.nestLimit [] d.root.text [] := by
    have hnames : (Files.PurePath.ofText d.root.text).names = [] := by cbv
    rw [Files.Tree.Resolves, Files.Place.start_nil, hnames]
    exact .nil
  have htarget : d.tree.Resolves d.nestLimit [] "HTML/note.html" ["HTML", "note.html"] := by
    have hnames : (Files.PurePath.ofText "HTML/note.html").names = ["HTML", "note.html"] := by cbv
    rw [Files.Tree.Resolves, Files.Place.start_nil, hnames]
    exact .down (by decide) (hlinks _) (.down (by decide) (hlinks _) .nil)
  have hfound : d.tree.lookUp ["HTML", "note.html"] = .file [255] := by cbv
  have hread : Text.Encoding.utf8.read [255] =
      .error (.bytes ⟨"utf-8", 0, 255, 1, .invalidStart⟩) := by cbv
  refine ⟨hfree, hencoding, ?_⟩
  refine ((displays_forgeCallout (h := h) rfl {}).2 d .utf8 hfree (by decide) (by decide)
    hencoding).2 ?_
  -- The source asks for one path, and it leads to the file.
  rintro path ⟨ps, hps, -, rfl⟩
  have hparse : (Block.parse "template: note" false).outcome = .ok [⟨"template", "note"⟩] := by
    rw [Block.Parser.outcome_parse_eq, if_neg (by decide)]
    decide
  obtain rfl := Except.ok.inj (hps.symm.trans hparse)
  have hpath : Settings.templatePath {} (Settings.templateName {} [⟨"template", "note"⟩]) =
      "HTML/note.html" := by cbv
  rw [hpath]
  refine ⟨by decide, [], ["HTML", "note.html"], hroot, htarget, fun _ => ⟨?_, ?_⟩⟩
  · rw [hfound]
    exact Files.Found.noConfusion
  · intro bytes fault hbytes hfault
    rw [hfound] at hbytes
    rw [← Files.Found.file.inj hbytes, hread] at hfault
    exact ⟨_, (Except.error.inj hfault).symm⟩

/-- A source whose name for a template holds the null character has no answer from
    a directory, though nothing else is wrong with it. -/
theorem not_displays_null :
    let h := Highlight.Highlighter.usual true
    let d : Files.Directory := ⟨⟨[(["HTML", "note.html"], .file [120])]⟩, [], 40, "utf-8"⟩
    let source := "template: a\x00b"
    d.tree.LoopFree ∧ Text.Encoding.ofName? d.encoding = some .utf8 ∧
      (h.style? ({} : Settings).style).isSome ∧
      (forgeCallout h source (.ofDirectory d) none {} {}).1 =
        .error (.load (.badName "HTML/a\x00b.html")) ∧
      ¬ ∃ answer, (forgeCallout h source (.ofDirectory d) none {} {}).1 = .ok answer := by
  intro h d source
  have hparse : (Block.parse source false).outcome = .ok [⟨"template", "a\x00b"⟩] := by
    rw [Block.Parser.outcome_parse_eq, if_neg (by decide)]
    decide
  have hpath : Settings.templatePath {} (Settings.templateName {} [⟨"template", "a\x00b"⟩]) =
      "HTML/a\x00b.html" := by cbv
  have hasks : Asks source {} "HTML/a\x00b.html" := ⟨_, hparse, by decide, hpath⟩
  have hload : ((Files.Loader.ofDirectory d).load "HTML/a\x00b.html").outcome =
      .error (.badName "HTML/a\x00b.html") :=
    Files.Directory.outcome_load_of_error (by cbv)
  have hdisplay : (forgeCallout h source (.ofDirectory d) none {} {}).1 =
      .error (.load (.badName "HTML/a\x00b.html")) := by
    rw [outcome_forgeCallout, outcome_forgeWork_of_load hasks hload]
    rfl
  refine ⟨Files.Tree.loopFree_of_noLinks (Files.Tree.link?_eq_none_of_nodes (by simp [d])),
    Text.Encoding.ofName?_utf8, rfl, hdisplay, ?_⟩
  rintro ⟨answer, hanswer⟩
  rw [hdisplay] at hanswer
  cases hanswer

end Stencil
