import Mathlib
import Stencil.Proofs.Block.Traced
import Stencil.Proofs.Pipeline.Outcome

/-!
# Verbosity

What it changes how much of a run is shown.

Verbosity comes to the stages in two ways. What a stage says is a value, and the
journal picks from it what the verbosity admits. And the stage that parses hands
the parser a switch: from the third level on, changes of phase are said too.
These are messages of the third level, so a verbosity that leaves the switch
alone would not admit them anyway. No other stage looks at the verbosity, which
`Stage.run_atVerbosity` says as an equation: the stage can be run first and the
verbosity be set afterwards.

So there is one list of messages for a run, that of the third level, and each
verbosity shows the part of it that it admits. This holds of runs that fail as
it does of others, because messages up to a failure stay.

## Main definitions

* `Job.atVerbosity`: A job with its verbosity set.
* `Files.Loader.IsRanked`: A loader that says messages of the three levels.

## Theorems

* `Stage.run_atVerbosity`: Other stages than parsing leave the verbosity alone.
* `Job.parseBlock_atVerbosity`: What parsing does at each verbosity.
* `upTo_messages_forgeWork`: What is admitted of a run at each verbosity.
* `ranked_messages_forgeWork`: A run says messages of the three levels.
* `entries_forge_of_given`: What is shown of a run with one of the loaders given here.
* `entries_forge_verbosity`: Verbosity filters messages and does nothing else.
-/

namespace Stencil

/-- A loader that says messages of the three levels. A loader of a host may say others, and what
    is shown of these at each verbosity is another question. -/
def Files.Loader.IsRanked (loader : Files.Loader) : Prop :=
  ∀ name, Ranked (loader.load name).messages

/-- A job with its verbosity set. -/
def Job.atVerbosity (verbosity : Int) (job : Job) : Job :=
  { job with verbosity, settings := { job.settings with verbosity } }

@[simp] theorem Job.source_atVerbosity (verbosity : Int) (job : Job) :
    (job.atVerbosity verbosity).source = job.source := rfl

@[simp] theorem Job.verbosity_atVerbosity (verbosity : Int) (job : Job) :
    (job.atVerbosity verbosity).verbosity = verbosity := rfl

/-! ## Levels -/

theorem Files.Loader.isRanked_ofEntries (entries : List (String × String)) :
    (Files.Loader.ofEntries entries).IsRanked := by
  intro name
  unfold Files.Loader.ofEntries
  dsimp only
  split
  · exact ranked_nil
  · exact ranked_nil

/-- A sequence says messages of the three levels if its parts do. -/
theorem ranked_messages_bind {ε α β : Type} {t : Trace ε α} {f : α → Trace ε β}
    (ht : Ranked t.messages) (hf : ∀ a, t.outcome = .ok a → Ranked (f a).messages) :
    Ranked (t >>= f).messages := by
  rw [Trace.messages_bind, ranked_append]
  refine ⟨ht, ?_⟩
  cases hout : t.outcome with
  | error e => exact ranked_nil
  | ok a => exact hf a hout

theorem ranked_messages_say {ε : Type} {level : Int} (h : 1 ≤ level ∧ level ≤ 3) (text : String) :
    Ranked (liftM (Logged.say level text) : Trace ε Unit).messages := by
  rw [Trace.messages_say, ranked_cons]
  exact ⟨h, ranked_nil⟩

/-- A directory says one message, of the second level, and that only when it has a text to serve. -/
theorem Files.Loader.isRanked_ofDirectory (d : Files.Directory) :
    (Files.Loader.ofDirectory d).IsRanked := by
  intro name
  simp only [Files.Loader.ofDirectory, Files.Directory.load]
  refine ranked_messages_bind ranked_nil fun place _ => ?_
  -- What is not a file that can be read is refused without a word.
  cases d.tree.lookUp place with
  | directory | nothing | circle | tooLong => exact ranked_nil
  | file bytes =>
      dsimp only
      split
      · exact ranked_nil
      · split
        · exact ranked_nil
        · split
          · exact ranked_nil
          · exact ranked_messages_bind (ranked_messages_say (by omega) _) fun _ _ => ranked_nil

/-! ## Stages -/

/-- The stages after parsing leave the verbosity alone: what they do with a job they do with the
    same job at any verbosity. There is no one reason for this, as each stage reads other parts of
    the job, so each is looked at. -/
theorem Stage.run_atVerbosity {stage : Stage} (hstage : stage ≠ .parseBlock) (verbosity : Int)
    (job : Job) :
    stage.run (job.atVerbosity verbosity) = Job.atVerbosity verbosity <$> stage.run job := by
  cases stage with
  | parseBlock => exact absurd rfl hstage
  | findTemplate =>
      simp only [run, Job.findTemplate]
      have hsame : (job.atVerbosity verbosity).settings.templateKey = job.settings.templateKey :=
        rfl
      have hprops : (job.atVerbosity verbosity).properties = job.properties := rfl
      rw [hsame, hprops]
      -- The name of the template and its path are those of the settings, which are the same.
      generalize (job.properties.find? (·.key = job.settings.templateKey)).elim ""
        (fun p => Text.strip p.value) = name
      by_cases hname : name.isEmpty = true
      · rw [if_pos hname, if_pos hname]
        rfl
      · have hpath : (job.atVerbosity verbosity).settings.templatePath name =
            job.settings.templatePath name := by
          unfold Settings.templatePath
          rfl
        rw [if_neg hname, if_neg hname, hpath]
        generalize job.settings.templatePath name = path
        simp only [map_bind, map_pure]
        rfl
  | loadTemplate =>
      simp only [run, Job.loadTemplate, map_bind, map_pure]
      rfl
  | readTemplate =>
      simp only [run, Job.readTemplate, map_bind]
      refine bind_congr fun _ => bind_congr fun template => ?_
      -- Strictness is no part of verbosity.
      have hstrict : (job.atVerbosity verbosity).strict = job.strict := rfl
      rw [hstrict]
      split
      · simp only [map_bind, map_pure]
        rfl
      · rfl
  | renderValues =>
      simp only [run, Job.renderValues]
      have hrenderer : (job.atVerbosity verbosity).renderer = job.renderer := rfl
      rw [hrenderer]
      cases job.renderer with
      | none => rfl
      | some renderer => rfl
  | fillTemplate =>
      simp only [run, Job.fillTemplate, map_bind, map_pure]
      rfl

/-- So do several of them. -/
theorem Job.runAll_atVerbosity {stages : List Stage} (hstages : Stage.parseBlock ∉ stages)
    (verbosity : Int) (job : Job) :
    (job.atVerbosity verbosity).runAll stages =
      Job.atVerbosity verbosity <$> job.runAll stages := by
  unfold Job.runAll
  induction stages generalizing job with
  | nil => rfl
  | cons stage stages ih =>
      rw [List.mem_cons, not_or] at hstages
      rw [List.foldlM_cons, List.foldlM_cons, Stage.run_atVerbosity (Ne.symm hstages.1),
        bind_map_left, map_bind]
      exact bind_congr fun next => ih hstages.2 next

/-- What is said while a source is parsed. At the third level this is more, since the parser
    traces its steps then. -/
theorem Job.messages_parseBlock (job : Job) :
    job.parseBlock.messages =
      [⟨1, "Parsing codeblock..."⟩] ++ ((Block.parse job.source (3 ≤ job.verbosity)).messages ++
        match (Block.parse job.source false).outcome with
        | .ok properties =>
          [⟨2, "Keys: " ++ ", ".intercalate (properties.map Block.Property.key)⟩]
        | .error _ => []) := by
  -- The switch changes what is said, but not what comes out.
  have hdebug : (Block.parse job.source (3 ≤ job.verbosity)).outcome =
      (Block.parse job.source false).outcome := by
    rw [Block.Parser.outcome_parse_eq, Block.Parser.outcome_parse_eq]
  rw [parseBlock, Trace.messages_bind, Trace.messages_say, Trace.outcome_say]
  dsimp only
  rw [Trace.messages_bind, Trace.messages_mapError, Trace.outcome_mapError, hdebug]
  cases (Block.parse job.source false).outcome with
  | error e => rfl
  | ok properties =>
      simp only [Except.mapError, Trace.messages_bind, Trace.messages_say, Trace.outcome_say,
        Trace.messages_pure, List.append_nil]

/-- Parsing at each verbosity: the same comes out, and the same is admitted as if everything had
    been said. This is the one stage that reads the verbosity, since changes of phase are traced
    from the third level on. -/
theorem Job.parseBlock_atVerbosity (verbosity : Int) (job : Job) :
    (job.atVerbosity verbosity).parseBlock.outcome =
        job.parseBlock.outcome.map (Job.atVerbosity verbosity) ∧
      upTo verbosity (job.atVerbosity verbosity).parseBlock.messages =
        upTo verbosity (job.atVerbosity 3).parseBlock.messages := by
  constructor
  · rw [outcome_parseBlock, outcome_parseBlock, source_atVerbosity]
    cases (Block.parse job.source false).outcome with
    | error e => rfl
    | ok properties => rfl
  · have hparsed : upTo verbosity (Block.parse job.source (3 ≤ verbosity)).messages =
        upTo verbosity (Block.parse job.source (3 ≤ (3 : Int))).messages := by
      rw [decide_eq_true (Int.le_refl 3)]
      -- At the third level and above nothing is left out; below it, what is left out is not
      -- admitted.
      by_cases hv : 3 ≤ verbosity
      · rw [decide_eq_true hv]
      · rw [decide_eq_false hv, Block.upTo_messages_parse (by omega) job.source true]
    rw [messages_parseBlock, messages_parseBlock, source_atVerbosity, source_atVerbosity,
      verbosity_atVerbosity, verbosity_atVerbosity]
    simp only [upTo_append]
    rw [hparsed]

/-- A stage says messages of the three levels, if the loader does. All that a stage says itself is
    of the first two; the third is said in parsing only. -/
theorem Stage.ranked_messages_run (stage : Stage) {job : Job} (hloader : job.loader.IsRanked) :
    Ranked (stage.run job).messages := by
  have hone : ∀ text, Ranked (liftM (Logged.say 1 text) : Trace Failure Unit).messages :=
    ranked_messages_say (by omega)
  have htwo : ∀ text, Ranked (liftM (Logged.say 2 text) : Trace Failure Unit).messages :=
    ranked_messages_say (by omega)
  -- Each stage says one thing at its start and one at its end, with the messages of what it calls
  -- between them.
  cases stage with
  | parseBlock =>
      rw [run, Job.parseBlock]
      refine ranked_messages_bind (hone _) fun _ _ => ranked_messages_bind ?_ fun properties _ =>
        ranked_messages_bind (htwo _) fun _ _ => ranked_nil
      rw [Trace.messages_mapError]
      exact Block.ranked_messages_parse _ _
  | findTemplate =>
      rw [run, Job.findTemplate]
      dsimp only
      split
      · exact ranked_nil
      · exact ranked_messages_bind (htwo _) fun _ _ => ranked_nil
  | loadTemplate =>
      rw [run, Job.loadTemplate]
      refine ranked_messages_bind (hone _) fun _ _ => ranked_messages_bind ?_ fun text _ =>
        ranked_messages_bind (htwo _) fun _ _ => ranked_nil
      rw [Trace.messages_mapError]
      exact hloader _
  | readTemplate =>
      rw [run, Job.readTemplate]
      refine ranked_messages_bind (hone _) fun _ _ => ranked_messages_bind ?_ fun template _ => ?_
      · rw [Trace.messages_mapError, Template.ofText, Template.Registry.tokenize]
        refine ranked_messages_bind (ranked_messages_bind ranked_nil fun tokens _ => ?_)
          fun _ _ => ranked_nil
        exact ranked_messages_bind (ranked_messages_say (by omega) _) fun _ _ => ranked_nil
      · split
        · refine ranked_messages_bind ranked_nil fun placeholders _ => ?_
          exact ranked_messages_bind (htwo _) fun _ _ => ranked_nil
        · exact ranked_nil
  | renderValues =>
      rw [run, Job.renderValues]
      split
      · exact ranked_nil
      · exact ranked_messages_bind (hone _) fun _ _ => ranked_nil
  | fillTemplate =>
      rw [run, Job.fillTemplate]
      refine ranked_messages_bind (hone _) fun _ _ => ranked_messages_bind ?_ fun output _ =>
        ranked_messages_bind (htwo _) fun _ _ => ranked_nil
      rw [Trace.messages_mapError, Template.fill]
      split
      · exact ranked_messages_bind (ranked_messages_say (by omega) _) fun _ _ => ranked_nil
      · exact ranked_nil

/-- A stage hands on a job with the same loader, so what is known of the loader holds for the
    stages after it. -/
theorem Stage.loader_run {stage : Stage} {job next : Job}
    (h : (stage.run job).outcome = .ok next) : next.loader = job.loader := by
  cases stage with
  | parseBlock =>
      rw [run, Job.outcome_parseBlock] at h
      rcases bind_eq_ok.1 h with ⟨properties, -, hnext⟩
      rw [← Except.ok.inj hnext]
  | findTemplate =>
      rw [run, Job.outcome_findTemplate] at h
      split at h
      · cases h
      · rw [← Except.ok.inj h]
  | loadTemplate =>
      rw [run, Job.outcome_loadTemplate] at h
      rcases bind_eq_ok.1 h with ⟨text, -, hnext⟩
      rw [← Except.ok.inj hnext]
  | readTemplate =>
      rw [run, Job.outcome_readTemplate] at h
      rcases bind_eq_ok.1 h with ⟨tokens, -, hnext⟩
      rw [← Except.ok.inj hnext]
  | renderValues =>
      rw [run, Job.outcome_renderValues] at h
      rw [← Except.ok.inj h]
  | fillTemplate =>
      rw [run, Job.outcome_fillTemplate] at h
      rcases bind_eq_ok.1 h with ⟨output, -, hnext⟩
      rw [← Except.ok.inj hnext]

/-- So do several of them. -/
theorem Job.ranked_messages_runAll (stages : List Stage) {job : Job}
    (hloader : job.loader.IsRanked) : Ranked (job.runAll stages).messages := by
  unfold runAll
  induction stages generalizing job with
  | nil => exact ranked_nil
  | cons stage stages ih =>
      rw [List.foldlM_cons]
      refine ranked_messages_bind (stage.ranked_messages_run hloader) fun next hnext => ih ?_
      rw [Stage.loader_run hnext]
      exact hloader

/-! ## Runs -/

theorem Job.runAll_all (job : Job) :
    job.runAll Stage.all = job.parseBlock >>= runAll Stage.all.tail := by
  unfold runAll
  rw [Stage.all, List.foldlM_cons, List.tail_cons, Stage.run]

/-- What all stages say at each verbosity: what parsing says, and what the others
    say after it. -/
theorem Job.messages_runAll_atVerbosity (verbosity : Int) (job : Job) :
    ((job.atVerbosity verbosity).runAll Stage.all).messages =
      (job.atVerbosity verbosity).parseBlock.messages ++
        match job.parseBlock.outcome with
        | .ok next => (next.runAll Stage.all.tail).messages
        | .error _ => [] := by
  rw [runAll_all, Trace.messages_bind, (parseBlock_atVerbosity verbosity job).1]
  cases job.parseBlock.outcome with
  | error e => rfl
  | ok next =>
      simp only [Except.map]
      rw [runAll_atVerbosity (by decide), Trace.messages_map]

/-- All stages lead to the same at each verbosity. -/
theorem Job.outcome_runAll_atVerbosity (verbosity : Int) (job : Job) :
    ((job.atVerbosity verbosity).runAll Stage.all).outcome =
      (job.runAll Stage.all).outcome.map (Job.atVerbosity verbosity) := by
  rw [runAll_all, runAll_all, Trace.outcome_bind, Trace.outcome_bind,
    (parseBlock_atVerbosity verbosity job).1]
  cases job.parseBlock.outcome with
  | error e => rfl
  | ok next =>
      simp only [Except.map]
      rw [runAll_atVerbosity (by decide), Trace.outcome_map]
      rfl

section Forging

variable (source : String) (loader : Files.Loader) (renderer : Option Renderer)
  (settings : Settings)

/-- The work at some verbosity: all stages on the job at that verbosity. -/
theorem forgeWork_eq (verbosity : Int) :
    forgeWork source loader renderer { settings with verbosity } =
      (fun job => job.output.getD "") <$>
        ((Job.start source loader (some (renderer.getD (.wrap settings.markdownClass)))
          settings).atVerbosity verbosity).runAll Stage.all := by
  rw [map_eq_pure_bind]
  rfl

/-- At each verbosity the same is admitted as if everything had been said. -/
theorem upTo_messages_forgeWork (verbosity : Int) :
    upTo verbosity (forgeWork source loader renderer { settings with verbosity }).messages =
      upTo verbosity
        (forgeWork source loader renderer { settings with verbosity := 3 }).messages := by
  rw [forgeWork_eq, forgeWork_eq, Trace.messages_map, Trace.messages_map,
    Job.messages_runAll_atVerbosity, Job.messages_runAll_atVerbosity, upTo_append, upTo_append,
    (Job.parseBlock_atVerbosity ..).2]

/-- A run says messages of the three levels, if the loader does. -/
theorem ranked_messages_forgeWork (hloader : loader.IsRanked) (verbosity : Int) :
    Ranked (forgeWork source loader renderer { settings with verbosity }).messages := by
  rw [forgeWork_eq, Trace.messages_map]
  exact Job.ranked_messages_runAll Stage.all hloader

/-- A run ends at each verbosity as at every other. Verbosity is passed along with the settings,
    so it could matter in any stage; that it does not is shown stage by stage. -/
theorem outcome_forgeWork_verbosity (verbosity other : Int) :
    (forgeWork source loader renderer { settings with verbosity }).outcome =
      (forgeWork source loader renderer { settings with verbosity := other }).outcome := by
  -- The job that is left at the end differs in its verbosity only, and its output is what is asked
  -- for.
  have hout : ∀ v (ended : Except Failure Job),
      (ended.map (Job.atVerbosity v)).map (fun job => job.output.getD "") =
        ended.map fun job => job.output.getD "" := by
    intro v ended
    cases ended with
    | error e => rfl
    | ok job => rfl
  rw [forgeWork_eq, forgeWork_eq, Trace.outcome_map, Trace.outcome_map,
    Job.outcome_runAll_atVerbosity, Job.outcome_runAll_atVerbosity, hout, hout]

/-- What is shown of a run is what its verbosity admits of the messages of the third
    level's run. -/
theorem entries_forge_eq (journal : Journal) (verbosity : Int) :
    (forge source loader renderer { settings with verbosity } journal).2.entries =
      journal.entries ++ (upTo verbosity
        (forgeWork source loader renderer { settings with verbosity := 3 }).messages).map
          Message.text := by
  show ((journal.connect (some verbosity)).2.play (forgeWork source loader renderer
    { settings with verbosity }).messages).entries = _
  rw [entries_connect_play, upTo_messages_forgeWork]

/-- If the loader says messages of the three levels, nothing is shown of a run below the first
    level, and everything from the third on. Of a loader that a host brings this is not known, so
    it is demanded. -/
theorem entries_forge_of_isRanked (hloader : loader.IsRanked) (journal : Journal) :
    let run := fun v : Int =>
      forge source loader renderer { settings with verbosity := v } journal
    let said := (forgeWork source loader renderer { settings with verbosity := 3 }).messages
    Ranked said ∧ (∀ v < 1, (run v).2.entries = journal.entries) ∧
      ∀ v ≥ 3, (run v).2.entries = journal.entries ++ said.map Message.text := by
  intro run said
  have hsaid : Ranked said := ranked_messages_forgeWork source loader renderer settings hloader 3
  refine ⟨hsaid, fun v hv => ?_, fun v hv => ?_⟩
  · show (forge ..).2.entries = _
    rw [entries_forge_eq, upTo_of_lt hv hsaid, List.map_nil, List.append_nil]
  · show (forge ..).2.entries = _
    rw [entries_forge_eq, upTo_of_le hv hsaid]

/-- A list of texts and a directory are such loaders, so this much can be said of every run
    with a loader that is given here, whatever the list or the directory holds. -/
theorem entries_forge_of_given
    (hgiven : (∃ entries, loader = .ofEntries entries) ∨ ∃ d, loader = .ofDirectory d)
    (journal : Journal) :
    let run := fun v : Int =>
      forge source loader renderer { settings with verbosity := v } journal
    let said := (forgeWork source loader renderer { settings with verbosity := 3 }).messages
    Ranked said ∧ (∀ v < 1, (run v).2.entries = journal.entries) ∧
      ∀ v ≥ 3, (run v).2.entries = journal.entries ++ said.map Message.text := by
  have hloader : loader.IsRanked := by
    rcases hgiven with ⟨entries, rfl⟩ | ⟨d, rfl⟩
    · exact Files.Loader.isRanked_ofEntries entries
    · exact Files.Loader.isRanked_ofDirectory d
  exact entries_forge_of_isRanked source loader renderer settings hloader journal

/-- Verbosity filters messages and does nothing else: at each verbosity forging has the same
    outcome, and shows what that verbosity admits of the messages of the third level's run. These
    are of the three levels if the loader's are, so nothing is shown below the first, and from the
    third on all of them are. A journal shows the messages of a parse in the same way, whether or
    not changes of phase are traced, and tracing them does not change what the parse comes to.

    The messages of a run at a lower verbosity are not a part of those at the third, as fewer
    things are said in parsing. That they are the same once they are filtered is what has to be
    proved. -/
theorem entries_forge_verbosity (journal : Journal) (text : String) (debug : Bool) :
    let run := fun v : Int =>
      forge source loader renderer { settings with verbosity := v } journal
    let said := (forgeWork source loader renderer { settings with verbosity := 3 }).messages
    let parse := Block.parse text debug
    let heard := fun v : Int => ((journal.connect (some v)).2.play parse.messages).entries
    (∀ v w, (run v).1 = (run w).1) ∧
      (∀ v, (run v).2.entries = journal.entries ++ (upTo v said).map Message.text) ∧
      (loader.IsRanked → Ranked said ∧
        (∀ v < 1, (run v).2.entries = journal.entries) ∧
        ∀ v ≥ 3, (run v).2.entries = journal.entries ++ said.map Message.text) ∧
      (∀ v, heard v = journal.entries ++ (upTo v parse.messages).map Message.text) ∧
      (∀ v < 1, heard v = journal.entries) ∧
      (∀ v ≥ 3, heard v = journal.entries ++ parse.messages.map Message.text) ∧
      parse.outcome = (Block.parse text !debug).outcome := by
  intro run said parse heard
  have hrun : ∀ v, (run v).2.entries = journal.entries ++ (upTo v said).map Message.text :=
    fun v => entries_forge_eq source loader renderer settings journal v
  have hheard : ∀ v, heard v = journal.entries ++ (upTo v parse.messages).map Message.text :=
    fun v => entries_connect_play journal v parse.messages
  have hparse : Ranked parse.messages := Block.ranked_messages_parse text debug
  -- What is shown follows from what is said, for a run and for a parse alike.
  have hlevels := fun hloader =>
    entries_forge_of_isRanked source loader renderer settings hloader journal
  refine ⟨fun v w => ?_, hrun, hlevels, hheard, fun v hv => ?_, fun v hv => ?_, ?_⟩
  · show (forge ..).1 = (forge ..).1
    rw [outcome_forge, outcome_forge, outcome_forgeWork_verbosity]
  · rw [hheard, upTo_of_lt hv hparse, List.map_nil, List.append_nil]
  · rw [hheard, upTo_of_le hv hparse]
  · show (Block.parse text debug).outcome = _
    rw [Block.Parser.outcome_parse_eq, Block.Parser.outcome_parse_eq]

end Forging

/-- A loader with texts at hand: below the first level nothing is shown, of a run that
    fails no more than of one that does not, and above the third nothing more. -/
theorem entries_forge_verbosity_ofEntries :
    let loader := Files.Loader.ofEntries [("HTML/note.html", "<p>\x7btitle\x7d</p>")]
    let shown := fun source verbosity => (forge source loader none { verbosity } {}).2.entries
    shown "template: note\ntitle: Title" 0 = [] ∧ shown "template: note" (-1) = [] ∧
      shown "template: note\ntitle: Title" 9 = shown "template: note\ntitle: Title" 3 := by
  intro loader shown
  have hloader : loader.IsRanked := Files.Loader.isRanked_ofEntries _
  have hfilled :=
    (entries_forge_verbosity "template: note\ntitle: Title" loader none {} {} "" false).2.2.1
      hloader
  have hfailed :=
    (entries_forge_verbosity "template: note" loader none {} {} "" false).2.2.1 hloader
  refine ⟨hfilled.2.1 0 (by omega), hfailed.2.1 (-1) (by omega), ?_⟩
  exact (hfilled.2.2 9 (by omega)).trans (hfilled.2.2 3 (by omega)).symm

end Stencil
