import Stencil.Highlight.Usual
import Stencil.Pipeline.Forge
import Stencil.Proofs.Log.Levels

/-!
# Announced Failures

What is said when a callout takes the place of the output, and who hears it.

A run connects the verbosity of its settings to the journal, and the connection ends
with the run, also when the run fails. That a callout takes the place of the output is
said after that, so it is not the verbosity of the settings that decides whether it
is shown, but whatever is connected outside. Where nothing is connected outside, nobody hears
it, and what is shown of a run that fails is what the run itself said up to its
failure.

## Main definitions

* `announced`: What is said of the way a run ended.

## Theorems

* `entries_forge`: What is shown of a run.
* `entries_forgeCallout`: What is shown of a run and of its end, and when its failure is.
* `not_announced_blank`: Without a connection outside, a failure is displayed and not announced.
-/

namespace Stencil

/-- What is said of the way a run ended: if a callout takes the place of the output,
    what the callout reports. -/
def announced : Except Failure String → List Message
  | .ok _ => []
  | .error failure =>
    failure.report?.elim [] fun report => [⟨1, "Callout Forge Error: " ++ report.text⟩]

section Forging

variable (source : String) (loader : Files.Loader) (renderer : Option Renderer)
  (settings : Settings) (journal : Journal)

/-- What is shown of a run is what its settings admit, whatever is connected outside. -/
theorem entries_forge :
    (forge source loader renderer settings journal).2.entries =
      journal.entries ++
        (upTo settings.verbosity (forgeWork source loader renderer settings).messages).map
          Message.text :=
  entries_connect_play journal settings.verbosity _

/-- Displaying is a run, and then saying how it ended. -/
theorem journal_forgeCallout (h : Highlight.Highlighter) :
    (forgeCallout h source loader renderer settings journal).2 =
      (forge source loader renderer settings journal).2.play
        (announced (forgeWork source loader renderer settings).outcome) := by
  have houtcome := outcome_forge source loader renderer settings journal
  unfold forgeCallout
  -- The run comes first, and its outcome alone decides what is said after it.
  generalize forge source loader renderer settings journal = forged at houtcome ⊢
  rcases forged with ⟨outcome, after⟩
  rw [← houtcome]
  cases outcome with
  | ok content => exact (Journal.play_nil after).symm
  | error failure =>
      dsimp only [announced]
      cases failure.report? with
      | none => exact (Journal.play_nil after).symm
      | some report => rfl

end Forging

/-- What is shown when a source is displayed: first what its run says, as far as the
    settings admit it, and then how the run ended, as far as what is connected
    outside admits that. So the failure that a callout reports is shown last just if
    something is connected outside whose verbosity reaches the first level. -/
theorem entries_forgeCallout (h : Highlight.Highlighter) (source : String)
    (loader : Files.Loader) (renderer : Option Renderer) (settings : Settings)
    (journal : Journal) :
    let work := forgeWork source loader renderer settings
    let own := journal.entries ++ (upTo settings.verbosity work.messages).map Message.text
    let shown := (forgeCallout h source loader renderer settings journal).2.entries
    (forge source loader renderer settings journal).2.entries = own ∧
      (journal.connected = none → shown = own) ∧
      (∀ outer, journal.connected = some outer →
        shown = own ++ (upTo outer (announced work.outcome)).map Message.text) ∧
      ∀ failure report, work.outcome = .error failure → failure.report? = some report →
        (shown = own ++ ["Callout Forge Error: " ++ report.text] ↔
          ∃ outer, journal.connected = some outer ∧ 1 ≤ outer) := by
  intro work own shown
  have hown : (forge source loader renderer settings journal).2.entries = own :=
    entries_forge source loader renderer settings journal
  have hshown : shown = own ++ ((announced work.outcome).filter
      (Journal.showsAt journal.connected)).map Message.text := by
    show (forgeCallout h source loader renderer settings journal).2.entries = _
    rw [journal_forgeCallout, Journal.entries_play, hown]
    -- After the run the journal is connected as it was before.
    unfold Journal.shows
    rw [connected_forge]
  have hnone : journal.connected = none → shown = own := by
    intro hconnected
    rw [hshown, hconnected, List.filter_eq_nil_iff.2, List.map_nil, List.append_nil]
    exact fun m _ => Bool.false_ne_true
  have hsome : ∀ outer, journal.connected = some outer →
      shown = own ++ (upTo outer (announced work.outcome)).map Message.text := by
    intro outer hconnected
    rw [hshown, hconnected]
    rfl
  refine ⟨hown, hnone, hsome, fun failure report hfailure hreport => ?_⟩
  -- A failure that is reported is announced by one message of the first level.
  have hannounced : announced work.outcome =
      [⟨1, "Callout Forge Error: " ++ report.text⟩] := by
    rw [hfailure, announced, hreport]
    rfl
  constructor
  · intro hlast
    cases hconnected : journal.connected with
    | none =>
        have hsame : own = own ++ ["Callout Forge Error: " ++ report.text] :=
          (hnone hconnected).symm.trans hlast
        exact absurd (List.self_eq_append_right.1 hsame) (List.cons_ne_nil _ _)
    | some outer =>
        refine ⟨outer, rfl, ?_⟩
        rw [hsome outer hconnected, hannounced, List.append_cancel_left_eq] at hlast
        -- Below the first level nothing would have been shown.
        by_cases hlevel : 1 ≤ outer
        · exact hlevel
        · rw [upTo, List.filter_cons_of_neg (by simpa using hlevel)] at hlast
          exact absurd hlast.symm (List.cons_ne_nil _ _)
  · rintro ⟨outer, hconnected, hlevel⟩
    rw [hsome outer hconnected, hannounced, upTo, List.filter_cons_of_pos (by simpa using hlevel)]
    rfl

/-- A source with nothing in it: connected at the first level outside, its failure is shown
    after what its run said. -/
theorem entries_forgeCallout_blank :
    let h := Highlight.Highlighter.usual true
    let loader := Files.Loader.ofEntries []
    let settings : Settings := { showsSource := false }
    (forgeWork "" loader none settings).outcome = .error (.block .blank) ∧
      (forgeCallout h "" loader none settings { connected := some 1 }).2.entries =
        ["Parsing codeblock...",
          "Callout Forge Error: Codeblock is empty or has only whitespaces."] := by
  have hwork : forgeWork "" (Files.Loader.ofEntries []) none { showsSource := false } =
      ⟨.error (.block .blank), [⟨1, "Parsing codeblock..."⟩]⟩ := rfl
  intro h loader settings
  have hshown := (entries_forgeCallout h "" loader none settings { connected := some 1 }).2.2.2
    (.block .blank) _ (congrArg Trace.outcome hwork) rfl
  refine ⟨congrArg Trace.outcome hwork, (hshown.2 ⟨1, rfl, by decide⟩).trans ?_⟩
  rw [hwork]
  rfl

/-- A source with nothing in it, and nothing connected outside: the failure is displayed,
    and it is not among what is shown, though the settings admit the first level. -/
theorem not_announced_blank :
    let loader := Files.Loader.ofEntries []
    let settings : Settings := { showsSource := false }
    let displayed := forgeCallout (.usual true) "" loader none settings {}
    1 ≤ settings.verbosity ∧
      (forge "" loader none settings {}).1 = .error (.block .blank) ∧
      displayed.1 = .ok (wrapped ((Text.Tag.div "callout callout-danger").around
        ((Text.Tag.div "callout-title").around "CalloutForge Error" ++
          (Text.Tag.div "callout-content").around
            "Codeblock is empty or has only whitespaces."))) ∧
      displayed.2.entries = ["Parsing codeblock..."] ∧
      ¬ ["Callout Forge Error: Codeblock is empty or has only whitespaces."] <:+
        displayed.2.entries := by
  refine ⟨by decide, rfl, ?_, rfl, by decide⟩
  have hescaped : Text.escapeText "Codeblock is empty or has only whitespaces." =
      "Codeblock is empty or has only whitespaces." := by decide
  rw [← hescaped, ← String.append_empty (s := (Text.Tag.div "callout-content").around _),
    ← String.append_assoc]
  rfl

end Stencil
