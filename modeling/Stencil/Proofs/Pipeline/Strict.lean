import Mathlib
import Stencil.Proofs.Pipeline.Outcome
import Stencil.Proofs.Template.Found

/-!
# Strict Settings

What changes when a template that uses a name in two ways is refused.

Strictness is looked at in one stage only, when the template is read. Up to
there the stages do the same and fail for the same reasons. Reading refuses a
template that is not consistent, before any value is looked at, so it is refused
even if values are missing too. A consistent template goes through, and then
nothing is left of the difference.

## Main definitions

* `loadingStages`: The stages up to the text of the template.

## Theorems

* `outcome_runAll_loadingStages`: What these stages find.
* `outcome_forge_strict`: Strictness refuses templates and does nothing else.
-/

namespace Stencil

/-- The stages before the template is read. -/
def loadingStages : List Stage :=
  [.parseBlock, .findTemplate, .loadTemplate]

/-- The stages before the template is read find the properties of the source and
    the text of the template, or fail. -/
theorem outcome_runAll_loadingStages (source : String) (loader : Files.Loader)
    (renderer : Option Renderer) (settings : Settings) :
    ((Job.start source loader renderer settings).runAll loadingStages).outcome.map
        Job.templateSource =
      (Block.parse source false).outcome.mapError .block >>= templateText loader settings := by
  unfold Job.runAll loadingStages
  simp only [List.foldlM_cons, List.foldlM_nil, Stage.run, outcome_bind_eq, Job.outcome_parseBlock,
    Job.start, Job.outcome_findTemplate, Job.outcome_loadTemplate, Trace.outcome_pure, bind_assoc,
    pure_bind]
  cases (Block.parse source false).outcome.mapError Failure.block with
  | error failure => rfl
  | ok ps =>
      simp only [ok_bind]
      -- Of the job only the text of the template is asked for.
      unfold templateText
      by_cases hname : (settings.templateName ps).isEmpty = true
      · rw [if_pos hname, if_pos hname]
        rfl
      · simp only [if_neg hname, pure_bind]
        cases (loader.load _).outcome.mapError Failure.load <;> rfl

/-- Strictness refuses templates that are not consistent, whatever becomes of them otherwise, and
    does nothing else. The failures before a template is read are the same. A consistent template
    has the same outcome, and an output of it has the same text in all places of a name.

    Whether a template is consistent is asked of its tokens two by two. The program walks through
    them once and compares each with the first of its name; that this comes to the same is
    `agreed_cases`. -/
theorem outcome_forge_strict {source : String} {loader : Files.Loader}
    {renderer : Option Renderer} {settings : Settings} {journal journal' : Journal} :
    let lenient := (forge source loader renderer { settings with strict := false } journal).1
    let strict := (forge source loader renderer { settings with strict := true } journal').1
    let loaded := ((Job.start source loader renderer { settings with strict := false }).runAll
      loadingStages).outcome
    (∀ failure, loaded = .error failure → lenient = .error failure ∧ strict = .error failure) ∧
    ∀ job, loaded = .ok job → ∃ tokens,
      (Template.Registry.standard.tokenize job.templateSource).outcome = .ok tokens ∧
      (¬ Template.Consistent tokens → ∃ p q clash, .hole p ∈ tokens ∧ .hole q ∈ tokens ∧
        p.name = q.name ∧ p.clash? q = some clash ∧
        strict = .error (.template (.conflict q.name clash))) ∧
      (Template.Consistent tokens → strict = lenient ∧ ∀ output, strict = .ok output →
        ∃ ps text, (Block.parse source false).outcome = .ok ps ∧
          (∀ token ∈ tokens, Template.fill? (.ofProperties
            ((renderer.getD (.wrap settings.markdownClass)).properties ps)) token =
              some (token.shown text)) ∧
          output = String.join (tokens.map (Template.Token.shown text))) := by
  intro lenient strict loaded
  have hloaded : loaded.map Job.templateSource =
      (Block.parse source false).outcome.mapError .block >>= templateText loader settings :=
    outcome_runAll_loadingStages source loader renderer { settings with strict := false }
  have hlenient : lenient =
      (forgeWork source loader renderer { settings with strict := false }).outcome :=
    outcome_forge ..
  have hstrict : strict =
      (forgeWork source loader renderer { settings with strict := true }).outcome :=
    outcome_forge ..
  constructor
  · intro failure hfailure
    rw [hfailure] at hloaded
    -- The stages up to here do not look at strictness.
    rw [hlenient, hstrict]
    exact ⟨outcome_forgeWork_of_no_text hloaded.symm, outcome_forgeWork_of_no_text hloaded.symm⟩
  · intro job hjob
    rw [hjob] at hloaded
    rcases bind_eq_ok.1 hloaded.symm with ⟨ps, hps, htext⟩
    rw [mapError_eq_ok_iff] at hps
    rcases Template.Registry.exists_outcome_tokenize job.templateSource with ⟨tokens, htokens, -⟩
    -- The tokens are the same with and without strictness, so all that differs is whether they may
    -- be used.
    have hread : ∀ strict, (forgeWork source loader renderer { settings with strict }).outcome =
        (agreed strict tokens).mapError Failure.template >>= fun tokens =>
          (Template.fill tokens (.ofProperties
            ((renderer.getD (.wrap settings.markdownClass)).properties ps))).outcome.mapError
              .template :=
      fun strict => outcome_forgeWork_of_text hps htext htokens
    rcases agreed_cases tokens with ⟨hconsistent, hagreed⟩ | ⟨hinconsistent, hrefused⟩
    · refine ⟨tokens, htokens, fun hinconsistent => absurd hconsistent hinconsistent, fun _ => ?_⟩
      -- They may be used in both cases.
      have hsame : strict = lenient := by
        rw [hstrict, hlenient, hread, hread, hagreed]
        rfl
      refine ⟨hsame, fun output houtput => ?_⟩
      rw [hstrict, hread, hagreed] at houtput
      rcases hconsistent.exists_join_of_fill (mapError_eq_ok_iff.1 houtput) with
        ⟨text, hshown, heq⟩
      exact ⟨ps, text, hps, hshown, heq⟩
    · refine ⟨tokens, htokens, fun _ => ?_, fun hconsistent => absurd hconsistent hinconsistent⟩
      rcases hrefused with ⟨p, q, clash, hp, hq, hname, hclash, hagreed⟩
      refine ⟨p, q, clash, hp, hq, hname, hclash, ?_⟩
      rw [hstrict, hread, hagreed]
      rfl

/-- A value is missing, and a name is used in two ways: strictness refuses the
    template without looking for values. -/
theorem outcome_forge_strict_missing :
    let loader := Files.Loader.ofEntries [("HTML/note.html", "{{title}} {{text?}} {{text|None}}")]
    let source := "template: note"
    (forge source loader none { strict := false } {}).1 =
        .error (.template (.missingValues ["title"])) ∧
      ∃ (p q : Template.Placeholder) (clash : Template.Clash), p.name = q.name ∧
        p.clash? q = some clash ∧ (forge source loader none { strict := true } {}).1 =
          .error (.template (.conflict q.name clash)) := by
  intro loader source
  let ps : List Block.Property := [⟨"template", "note"⟩]
  let tokens : List Template.Token := [.hole ⟨"title", .required⟩, .text " ",
    .hole ⟨"text", .optional⟩, .text " ", .hole ⟨"text", .fallback "None"⟩]
  have hps : (Block.parse source false).outcome = .ok ps := by
    rw [Block.Parser.outcome_parse_eq, if_neg (by decide)]
    decide
  have htext : templateText loader {} ps = .ok "{{title}} {{text?}} {{text|None}}" := by
    have hpath : Settings.templatePath {} (Settings.templateName {} ps) = "HTML/note.html" := by cbv
    rw [templateText_eq_ok_iff, hpath]
    exact ⟨by decide, rfl⟩
  have htokens : (Template.Registry.standard.tokenize "{{title}} {{text?}} {{text|None}}").outcome =
      .ok tokens := by
    have hscan : Template.Registry.standard.scan
        (Text.trim "{{title}} {{text?}} {{text|None}}".toList) = .ok tokens := by cbv
    rw [Template.Registry.outcome_tokenize, hscan]
  constructor
  · rw [outcome_forge, outcome_forgeWork_of_text hps htext htokens]
    decide
  · have hloaded := outcome_runAll_loadingStages source loader none {}
    rw [hps] at hloaded
    simp only [Except.mapError, ok_bind, htext] at hloaded
    have hinconsistent : ¬ Template.Consistent tokens := by
      intro hconsistent
      have hrule := hconsistent ⟨"text", .optional⟩ ⟨"text", .fallback "None"⟩ (by decide)
        (by decide) rfl
      cases hrule
    -- The stages up to the text succeed, which is what the general statement asks for.
    cases hjob : ((Job.start source loader none {}).runAll loadingStages).outcome with
    | error failure =>
        rw [hjob] at hloaded
        cases hloaded
    | ok job =>
        rw [hjob] at hloaded
        have hsource : job.templateSource = _ := Except.ok.inj hloaded
        rcases (@outcome_forge_strict source loader none {} {} {}).2 job hjob with
          ⟨found, hfound, hrefused, -⟩
        rw [hsource, htokens, Except.ok.injEq] at hfound
        subst hfound
        rcases hrefused hinconsistent with ⟨p, q, clash, -, -, hname, hclash, hstrict⟩
        exact ⟨p, q, clash, hname, hclash, hstrict⟩

end Stencil
