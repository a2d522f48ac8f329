import Stencil.Highlight.Page
import Stencil.Log.Journal
import Stencil.Pipeline.Stage

/-!
# Forging

A codeblock as the text that its template makes with its values.

The messages of a run are shown at the verbosity of its settings, whatever was
connected to the journal before; what was connected before is connected again
when the run is over, however it ends. For display, a failure that is reported
becomes a callout that tells what is wrong and shows the source, as a highlighter that
the host has displays it. That a callout took the place of the output is told to
whatever is connected outside the run.

## Main definitions

* `forge`: The output of a codeblock.
* `shownSource`: The source as it is displayed in a callout.
* `errorCallout`: The callout that tells what is wrong.
* `forgeCallout`: The output of a codeblock, or a callout, for display.

## Theorems

* `connected_forge`: Forging leaves the connection as it was.
* `outcome_forge`: The outcome does not depend on the journal.
-/

namespace Stencil

/-- The work of turning a source into output; values are wrapped if no renderer is
    given. -/
def forgeWork (source : String) (loader : Files.Loader) (renderer : Option Renderer)
    (settings : Settings) : Trace Failure String := do
  let renderer := renderer.getD (.wrap settings.markdownClass)
  let job ← (Job.start source loader (some renderer) settings).runAll Stage.all
  return job.output.getD ""

/-- The output of a codeblock. -/
def forge (source : String) (loader : Files.Loader) (renderer : Option Renderer)
    (settings : Settings) (journal : Journal) : Except Failure String × Journal :=
  let work := forgeWork source loader renderer settings
  let (token, connected) := journal.connect (some settings.verbosity)
  (work.outcome, (connected.play work.messages).restore token)

/-- The source as it is displayed in a callout; nothing of it, if there is none or the
    settings do not ask for it. -/
def shownSource (h : Highlight.Highlighter) (source : Option String) (settings : Settings) :
    Except Failure String :=
  match source, settings.showsSource with
  | some source, true =>
    match Highlight.highlight? h "codeblock" settings.style source with
    | none => .error (.style settings.style)
    | some shown => .ok ((Text.Tag.div "callout-source").around shown)
  | _, _ => .ok ""

/-- The callout that tells what is wrong and shows the source, if one is given and
    the settings ask for it. -/
def errorCallout (h : Highlight.Highlighter) (message : String) (source : Option String)
    (settings : Settings) : Except Failure String :=
  (shownSource h source settings).map fun shown =>
    (Text.Tag.div "callout callout-danger").around
      ((Text.Tag.div "callout-title").around "CalloutForge Error" ++
        (Text.Tag.div "callout-content").around (Text.escapeText message) ++ shown)

/-- What is displayed, inside the element that a host looks for. -/
def wrapped (content : String) : String :=
  (Text.Tag.div "callout-forge-wrapper").around content

/-- The output of a codeblock, or the callout for a failure that is reported. -/
def forgeCallout (h : Highlight.Highlighter) (source : String) (loader : Files.Loader)
    (renderer : Option Renderer) (settings : Settings) (journal : Journal) :
    Except Failure String × Journal :=
  let (outcome, journal) := forge source loader renderer settings journal
  match outcome with
  | .ok content => (.ok (wrapped content), journal)
  | .error failure =>
    match failure.report? with
    | none => (.error failure, journal)
    | some report =>
      ((errorCallout h report.text source settings).map wrapped,
        journal.play [⟨1, "Callout Forge Error: " ++ report.text⟩])

/-- The outcome does not depend on the journal. -/
theorem outcome_forge (source : String) (loader : Files.Loader) (renderer : Option Renderer)
    (settings : Settings) (journal : Journal) :
    (forge source loader renderer settings journal).1 =
      (forgeWork source loader renderer settings).outcome := by
  simp only [forge]

/-- Forging leaves the connection as it was. -/
theorem connected_forge (source : String) (loader : Files.Loader) (renderer : Option Renderer)
    (settings : Settings) (journal : Journal) :
    (forge source loader renderer settings journal).2.connected = journal.connected := by
  simp only [forge, Journal.connected_restore]

/-- Displaying leaves the connection as it was, too. -/
theorem connected_forgeCallout (h : Highlight.Highlighter) (source : String)
    (loader : Files.Loader) (renderer : Option Renderer) (settings : Settings)
    (journal : Journal) :
    (forgeCallout h source loader renderer settings journal).2.connected = journal.connected := by
  have hforge := connected_forge source loader renderer settings journal
  unfold forgeCallout
  generalize forge source loader renderer settings journal = forged at hforge ⊢
  obtain ⟨outcome, after⟩ := forged
  cases outcome with
  | ok content => exact hforge
  | error failure =>
    dsimp only
    split
    · exact hforge
    · exact hforge

end Stencil
