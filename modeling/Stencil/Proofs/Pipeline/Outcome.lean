import Stencil.Pipeline.Forge
import Stencil.Proofs.Block.Outcome
import Stencil.Proofs.Template.Catalogue

/-!
# The Outcome of Forging

What the stages of forging make of a codeblock, without jobs and messages.

The stages hand a job from one to the next, each adds a field to it, and all of
them have something to say. What comes out depends on little of that: on the
properties of the source, on the tokens of the template that they name, and on
what these tokens make of the rendered values. `outcome_forgeWork` states this
in one equation, in the order in which the stages can fail, so whoever asks for
the output of a codeblock, or for its failure, need not open the stages again.

Properties have a say in two places only. The tokens depend on nothing but the
name of the template, and what fills a token on nothing but the value of its
name.

## Main definitions

* `Settings.templateName`: The name of the template that properties ask for.
* `templateText`, `templateTokens`: The text and the tokens of that template.
* `agreed`: Tokens, unless they use a name in two ways and that matters.

## Theorems

* `agreed_cases`: What strictness makes of tokens.
* `outcome_forgeWork`: Forging in terms of properties, tokens and values.
* `outcome_forgeWork_eq_ok_iff`: Which output a codeblock has.
* `templateTokens_congr`: Only the name of the template decides its tokens.
-/

namespace Stencil

/-! ## Templates that properties ask for -/

/-- The name of the template that properties ask for: the value of the first one
    of the template key, without outer blanks. -/
def Settings.templateName (settings : Settings) (ps : List Block.Property) : String :=
  (ps.find? (·.key = settings.templateKey)).elim "" fun p => Text.strip p.value

/-- The text of the template that properties ask for. -/
def templateText (loader : Files.Loader) (settings : Settings) (ps : List Block.Property) :
    Except Failure String :=
  if (settings.templateName ps).isEmpty then .error (.unnamed settings.templateKey)
  else (loader.load (settings.templatePath (settings.templateName ps))).outcome.mapError .load

/-- The tokens, if they use each name in one way or that does not matter. It is the one place
    where strict settings make a difference. -/
def agreed (strict : Bool) (tokens : List Template.Token) :
    Except Template.Error (List Template.Token) :=
  if strict then (Template.catalogue tokens).map fun _ => tokens else .ok tokens

/-- The tokens of the template that properties ask for. All that comes before the values are
    looked at is in here. -/
def templateTokens (loader : Files.Loader) (settings : Settings) (ps : List Block.Property) :
    Except Failure (List Template.Token) := do
  let text ← templateText loader settings ps
  ((Template.Registry.standard.tokenize text).outcome.bind (agreed settings.strict)).mapError
    .template

/-- Strictness lets consistent tokens through and refuses others, with two uses of a name that
    differ. Which two is decided by the catalogue; what is said here is only that they are among
    the tokens. -/
theorem agreed_cases (tokens : List Template.Token) :
    (Template.Consistent tokens ∧ agreed true tokens = .ok tokens) ∨
      (¬ Template.Consistent tokens ∧ ∃ p q clash, .hole p ∈ tokens ∧ .hole q ∈ tokens ∧
        p.name = q.name ∧ p.clash? q = some clash ∧
        agreed true tokens = .error (.conflict q.name clash)) := by
  cases hcatalogue : Template.catalogue tokens with
  | ok ps =>
      refine .inl ⟨Template.consistent_iff_catalogue.2 ⟨ps, hcatalogue⟩, ?_⟩
      rw [agreed, if_pos rfl, hcatalogue]
      rfl
  | error e =>
      rcases Template.conflict_of_catalogue hcatalogue with
        ⟨p, q, clash, hp, hq, hname, hclash, rfl⟩
      -- Two uses that clash are of one name, so they would have to agree.
      refine .inr ⟨fun hconsistent => ?_, p, q, clash, hp, hq, hname, hclash, ?_⟩
      · rw [Template.Placeholder.clash?_eq_none_iff.2 (hconsistent p q hp hq hname)] at hclash
        cases hclash
      · rw [agreed, if_pos rfl, hcatalogue]
        rfl

section Congruence

variable {loader : Files.Loader} {settings : Settings} {ps qs : List Block.Property}

/-- The name of the template is the value of a property. -/
theorem templateName_congr
    (h : (ps.find? (·.key = settings.templateKey)).map Block.Property.value =
      (qs.find? (·.key = settings.templateKey)).map Block.Property.value) :
    settings.templateName ps = settings.templateName qs := by
  have hmap : ∀ found : Option Block.Property,
      found.elim "" (fun p => Text.strip p.value) =
        (found.map Block.Property.value).elim "" Text.strip := by
    intro found
    cases found <;> rfl
  rw [Settings.templateName, hmap, h, ← hmap, Settings.templateName]

/-- Only the name of the template decides its tokens. -/
theorem templateTokens_congr (h : settings.templateName ps = settings.templateName qs) :
    templateTokens loader settings ps = templateTokens loader settings qs := by
  unfold templateTokens templateText
  rw [h]

end Congruence

/-! ## Stages -/

/-- A sequence of work ends as the sequence of the outcomes. -/
theorem outcome_bind_eq {ε α β : Type} (t : Trace ε α) (f : α → Trace ε β) :
    (t >>= f).outcome = t.outcome >>= fun a => (f a).outcome := by
  rw [Trace.outcome_bind]
  cases t.outcome <;> rfl

namespace Job

variable (job : Job)

theorem outcome_parseBlock : job.parseBlock.outcome = (do
    let properties ← (Block.parse job.source false).outcome.mapError .block
    return { job with properties }) := by
  have hdebug : (Block.parse job.source (3 ≤ job.verbosity)).outcome =
      (Block.parse job.source false).outcome := by
    rw [Block.Parser.outcome_parse_eq, Block.Parser.outcome_parse_eq]
  simp only [parseBlock, outcome_bind_eq, Trace.outcome_say, ok_bind, Trace.outcome_mapError,
    Trace.outcome_pure, hdebug]
  rfl

theorem outcome_findTemplate : job.findTemplate.outcome =
    if (job.settings.templateName job.properties).isEmpty then
      .error (.unnamed job.settings.templateKey)
    else pure { job with
      templateName := job.settings.templateName job.properties
      templatePath := job.settings.templatePath (job.settings.templateName job.properties) } := by
  unfold findTemplate Settings.templateName
  dsimp only
  split
  · rfl
  · rfl

theorem outcome_loadTemplate : job.loadTemplate.outcome = (do
    let text ← (job.loader.load job.templatePath).outcome.mapError .load
    return { job with templateSource := text }) := by
  simp only [loadTemplate, outcome_bind_eq, Trace.outcome_say, ok_bind, Trace.outcome_mapError,
    Trace.outcome_pure]
  rfl

theorem outcome_readTemplate : job.readTemplate.outcome = (do
    let tokens ← ((Template.Registry.standard.tokenize job.templateSource).outcome.bind
      (agreed job.strict)).mapError .template
    return { job with tokens }) := by
  simp only [readTemplate, outcome_bind_eq, Trace.outcome_say, ok_bind, Trace.outcome_mapError,
    Template.outcome_ofText]
  cases (Template.Registry.standard.tokenize job.templateSource).outcome with
  | error e => rfl
  | ok tokens =>
      -- Without strictness no catalogue is made, and the tokens are used as they are.
      cases hstrict : job.strict with
      | false => rfl
      | true =>
          simp only [Except.map, Except.mapError, Except.bind, bind, agreed, if_true,
            Template.placeholders]
          cases Template.catalogue tokens with
          | error e => rfl
          | ok ps => rfl

theorem outcome_renderValues : job.renderValues.outcome = pure { job with
    rendered := job.renderer.elim job.properties fun renderer =>
      renderer.properties job.properties } := by
  unfold renderValues
  cases job.renderer <;> rfl

theorem outcome_fillTemplate : job.fillTemplate.outcome = (do
    let output ← (Template.fill job.tokens (.ofProperties job.rendered)).outcome.mapError .template
    return { job with output := some output }) := by
  simp only [fillTemplate, outcome_bind_eq, Trace.outcome_say, ok_bind, Trace.outcome_mapError,
    Trace.outcome_pure]
  rfl

end Job

/-! ## Forging -/

/-- Forging in terms of properties, tokens and values. The stages hand a job on, of which each
    reads little; what is left when the job is taken out is a sequence of three checks. All that
    is proved of forging starts here. -/
theorem outcome_forgeWork (source : String) (loader : Files.Loader) (renderer : Option Renderer)
    (settings : Settings) :
    (forgeWork source loader renderer settings).outcome = (do
      let ps ← (Block.parse source false).outcome.mapError .block
      let tokens ← templateTokens loader settings ps
      let rendered := (renderer.getD (.wrap settings.markdownClass)).properties ps
      (Template.fill tokens (.ofProperties rendered)).outcome.mapError .template) := by
  unfold forgeWork Job.runAll Stage.all
  simp only [List.foldlM_cons, List.foldlM_nil, Stage.run, outcome_bind_eq, Job.outcome_parseBlock,
    Job.start, Job.outcome_findTemplate, Job.outcome_loadTemplate, Job.outcome_readTemplate,
    Job.outcome_renderValues, Job.outcome_fillTemplate, Trace.outcome_pure, bind_assoc, pure_bind]
  -- After the properties are known, the stages find, load and read a template, which
  -- `templateTokens` does at once.
  refine bind_congr fun ps => ?_
  unfold templateTokens templateText
  by_cases hname : (settings.templateName ps).isEmpty = true
  · rw [if_pos hname, if_pos hname]
    rfl
  · simp only [if_neg hname, bind_assoc, pure_bind, Option.elim_some, Option.getD_some]
    refine bind_congr fun text => bind_congr fun tokens => ?_
    exact bind_pure _

/-- Forging fails if there is no text of a template, and the failure is the one of finding it. -/
theorem outcome_forgeWork_of_no_text {source : String} {loader : Files.Loader}
    {renderer : Option Renderer} {settings : Settings} {failure : Failure}
    (h : (Block.parse source false).outcome.mapError .block >>= templateText loader settings =
      .error failure) :
    (forgeWork source loader renderer settings).outcome = .error failure := by
  rw [outcome_forgeWork]
  cases hparse : (Block.parse source false).outcome.mapError Failure.block with
  | error reason =>
      rw [hparse] at h
      exact h
  | ok ps =>
      rw [hparse, ok_bind] at h
      simp only [ok_bind, templateTokens, h]
      rfl

/-- Forging when the text of the template is known. -/
theorem outcome_forgeWork_of_text {source : String} {loader : Files.Loader}
    {renderer : Option Renderer} {settings : Settings} {ps : List Block.Property} {text : String}
    {tokens : List Template.Token} (hps : (Block.parse source false).outcome = .ok ps)
    (htext : templateText loader settings ps = .ok text)
    (htokens : (Template.Registry.standard.tokenize text).outcome = .ok tokens) :
    (forgeWork source loader renderer settings).outcome =
      (agreed settings.strict tokens).mapError Failure.template >>= fun tokens =>
        (Template.fill tokens (.ofProperties
          ((renderer.getD (.wrap settings.markdownClass)).properties ps))).outcome.mapError
            .template := by
  rw [outcome_forgeWork, hps]
  simp only [Except.mapError, ok_bind, templateTokens, htext, htokens, Except.bind]

/-- Tokens that may be used are the tokens themselves. -/
theorem eq_of_agreed {strict : Bool} {tokens found : List Template.Token}
    (h : agreed strict tokens = .ok found) : found = tokens := by
  unfold agreed at h
  split at h
  · cases hcatalogue : Template.catalogue tokens with
    | error e =>
        rw [hcatalogue] at h
        cases h
    | ok ps =>
        rw [hcatalogue] at h
        exact (Except.ok.inj h).symm
  · exact (Except.ok.inj h).symm

theorem templateText_eq_ok_iff {loader : Files.Loader} {settings : Settings}
    {ps : List Block.Property} {text : String} :
    templateText loader settings ps = .ok text ↔ settings.templateName ps ≠ "" ∧
      (loader.load (settings.templatePath (settings.templateName ps))).outcome = .ok text := by
  unfold templateText
  by_cases hname : settings.templateName ps = ""
  · simp [hname]
  · simp [hname, mapError_eq_ok_iff]

/-- The tokens of the template that properties ask for are those of the text that
    is loaded by its name. -/
theorem templateTokens_eq_ok_iff {loader : Files.Loader} {settings : Settings}
    {ps : List Block.Property} {tokens : List Template.Token} :
    templateTokens loader settings ps = .ok tokens ↔ settings.templateName ps ≠ "" ∧
      ∃ text,
        (loader.load (settings.templatePath (settings.templateName ps))).outcome = .ok text ∧
        (Template.Registry.standard.tokenize text).outcome = .ok tokens ∧
        agreed settings.strict tokens = .ok tokens := by
  have htokens : ∀ text, (Template.Registry.standard.tokenize text).outcome.bind
      (agreed settings.strict) = .ok tokens ↔
      (Template.Registry.standard.tokenize text).outcome = .ok tokens ∧
        agreed settings.strict tokens = .ok tokens := by
    intro text
    constructor
    · intro h
      rcases bind_eq_ok.1 h with ⟨found, hfound, hagreed⟩
      rw [← eq_of_agreed hagreed] at hfound hagreed
      exact ⟨hfound, hagreed⟩
    · rintro ⟨hfound, hagreed⟩
      exact bind_eq_ok.2 ⟨tokens, hfound, hagreed⟩
  -- What is left are four checks in a row: a name, a text, its tokens, and that they may be used.
  simp only [templateTokens, bind_eq_ok, mapError_eq_ok_iff, templateText_eq_ok_iff, htokens,
    and_assoc, exists_and_left]

/-- A codeblock has an output if it has properties, these name a template, and no value that the
    template needs is missing. The output is then the text of each token with the values put in,
    one after the other. -/
theorem outcome_forgeWork_eq_ok_iff {source : String} {loader : Files.Loader}
    {renderer : Option Renderer} {settings : Settings} {output : String} :
    (forgeWork source loader renderer settings).outcome = .ok output ↔
      ∃ ps tokens, (Block.parse source false).outcome = .ok ps ∧
        templateTokens loader settings ps = .ok tokens ∧
        let values := Template.Values.ofProperties
          ((renderer.getD (.wrap settings.markdownClass)).properties ps)
        (∀ t ∈ tokens, (Template.fill? values t).isSome) ∧
          .join (tokens.filterMap (Template.fill? values)) = output := by
  simp only [outcome_forgeWork, bind_eq_ok, mapError_eq_ok_iff, Template.outcome_fill]
  constructor
  · rintro ⟨ps, hparse, tokens, htokens, hfill⟩
    -- A token without a text is one whose value is missing.
    split at hfill
    · rename_i hnone
      exact ⟨ps, tokens, hparse, htokens, Template.missing_eq_nil_iff.1 hnone, by simpa using hfill⟩
    · cases hfill
  · rintro ⟨ps, tokens, hparse, htokens, hall, rfl⟩
    refine ⟨ps, hparse, tokens, htokens, ?_⟩
    rw [if_pos (Template.missing_eq_nil_iff.2 hall)]

end Stencil
