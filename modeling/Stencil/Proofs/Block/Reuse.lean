import Stencil.Proofs.Block.Outcome

/-!
# Parsers Used Again

What is left in a parser from earlier use, and that it makes no difference.

Parsing starts afresh, but not in everything: the number of the last line and the
number of the line that opened a fence are kept from before. The first is set before
it is read, by the line that comes next. The second is read only when the text ends
within a fence, and then the line that opened the fence has set it. So a parser
that was used and a new one go through the same lines in step, and at every moment
they differ at most in the number of the line that opened a fence, while none is
open. That is what `Alike` says. A step that does not fail takes alike parsers to
alike parsers, and a step that fails fails for both, with the same data.

The steps of a parser can also be called one by one, on lines of one's own. They bring
it into states that no text leads to, but they leave its source alone.

## Main definitions

* `Alike`: Parsers that differ in nothing that counts.
* `Reusable`: An action that ends alike on alike parsers.
* `Call`: What a parser can be asked to do.
* `Keeps`: An action that leaves the source and the switch alone.
* `after`: A parser after some calls.

## Theorems

* `reusable_bind`: Sequences of such actions are such actions.
* `reusable_takeLine`: Taking a line is one.
* `run_takeLine_number`: Taking a line does not depend on the number of the line before.
* `keeps_after`: Calls leave the source and the switch alone.
* `run_parse_after`: Parsing comes to the same after any calls.
-/

namespace Stencil.Block.Parser

variable {α β : Type}

/-- Parsers that are the same but for the number of the line that opened a fence, and
    in that too if a fence is open. -/
def Alike (p q : Parser) : Prop :=
  ∃ n, q = { p with fenceNumber := n } ∧ (p.isOpen = true → n = p.fenceNumber)

/-- What an action comes to on two parsers: the same outcome and the same messages, and
    parsers that are alike. -/
structure Matched (x y : Logged (Except Error α × Parser)) : Prop where
  outcome : y.value.1 = x.value.1
  left : Alike x.value.2 y.value.2
  messages : y.messages = x.messages

/-- An action that ends alike on parsers that are alike: with the same outcome and messages, and
    with parsers that are alike again. -/
def Reusable (action : Action α) : Prop :=
  ∀ p q, Alike p q → Matched (p.run action) (q.run action)

theorem Alike.refl (p : Parser) : Alike p p :=
  ⟨p.fenceNumber, rfl, fun _ => rfl⟩

theorem matched_pure (outcome : Except Error α) {p q : Parser} (h : Alike p q) :
    Matched (pure (outcome, p)) (pure (outcome, q)) :=
  ⟨rfl, h, rfl⟩

/-- The same may be said before. -/
theorem matched_after {x y : Logged (Except Error α × Parser)} (said : Logged Unit)
    (h : Matched x y) : Matched (said >>= fun _ => x) (said >>= fun _ => y) := by
  refine ⟨h.outcome, h.left, ?_⟩
  rw [Logged.messages_bind, Logged.messages_bind, h.messages]

/-- A sequence goes on alike after parts that ended alike. If the first part failed, nothing goes
    on, and that is alike as well. -/
theorem matched_resume {x y : Logged (Except Error α × Parser)} (h : Matched x y)
    {next : α → Action β} (hnext : ∀ a, Reusable (next a)) :
    Matched (x >>= resume next) (y >>= resume next) := by
  have hrest : Matched (resume next x.value) (resume next y.value) := by
    have houtcome := h.outcome
    have hleft := h.left
    -- Both failed with the same error, or both go on with the same result.
    generalize x.value = ended at houtcome hleft ⊢
    generalize y.value = other at houtcome hleft ⊢
    rcases ended with ⟨outcome, p⟩
    rcases other with ⟨outcome', q⟩
    obtain rfl : outcome' = outcome := houtcome
    cases outcome' with
    | error e => exact matched_pure (.error e) hleft
    | ok a => exact hnext a p q hleft
  refine ⟨hrest.outcome, hrest.left, ?_⟩
  rw [Logged.messages_bind, Logged.messages_bind, h.messages, hrest.messages]

/-- Sequences of actions that end alike end alike. -/
theorem reusable_bind {action : Action α} (h : Reusable action) {next : α → Action β}
    (hnext : ∀ a, Reusable (next a)) : Reusable (action >>= next) := by
  intro p q halike
  rw [run_bind, run_bind]
  exact matched_resume (h p q halike) hnext

/-! ## Steps -/

theorem reusable_resolve (line : Line) : Reusable (resolve line) := by
  rintro p q ⟨n, rfl, hn⟩
  rw [run_resolve, run_resolve]
  dsimp only
  cases p.phase.next? line.kind with
  | some phase => exact matched_pure (.ok phase) ⟨n, rfl, hn⟩
  | none => exact matched_pure _ ⟨n, rfl, hn⟩

/-- Opening a fence sets the number, and closing it makes it unimportant again. The other effects
    neither read it nor change it. -/
theorem reusable_perform (line : Line) (effect : Effect) : Reusable (perform line effect) := by
  rintro p q ⟨n, rfl, hn⟩
  cases effect with
  | startProperty =>
      simp only [perform, run_startProperty]
      exact matched_pure (.ok ()) ⟨n, rfl, hn⟩
  | appendLine =>
      simp only [perform, run_appendLine]
      cases hdraft : p.draft with
      | none => exact matched_pure (.error (.noDraft line.number)) ⟨n, by rw [hdraft], hn⟩
      | some draft => exact matched_pure (.ok ()) ⟨n, rfl, hn⟩
  | openFence =>
      simp only [perform, run_openFence]
      exact matched_pure (.ok ()) (.refl _)
  | closeFence =>
      simp only [perform, run_closeFence]
      exact matched_pure (.ok ()) (.refl _)
  | finishProperty =>
      simp only [perform, run_finishProperty]
      exact matched_pure (.ok ()) ⟨n, rfl, hn⟩

theorem reusable_performAll (line : Line) (effects : List Effect) :
    Reusable (performAll line effects) := by
  induction effects with
  | nil => exact fun p q h => matched_pure (.ok ()) h
  | cons effect effects ih =>
      rw [performAll]
      exact reusable_bind (reusable_perform line effect) fun _ => ih

theorem reusable_enter (phase : Phase) (line : Line) : Reusable (enter phase line) := by
  rintro p q ⟨n, rfl, hn⟩
  rw [run_enter, run_enter]
  refine matched_after _ ?_
  have hreached : Alike { p with phase } { p with phase, fenceNumber := n } := ⟨n, rfl, hn⟩
  cases phase.effects? with
  | none => exact matched_pure (.error (.unreachable phase)) hreached
  | some effects => exact reusable_performAll line effects _ _ hreached

theorem reusable_takeLine (number : Int) (text : String) : Reusable (takeLine number text) := by
  rintro p q ⟨n, rfl, hn⟩
  rw [run_takeLine, run_takeLine]
  have hline : ∀ line : Line, Matched
      (Parser.run { p with number } (resolve line) >>= resume fun phase => enter phase line)
      (Parser.run { p with number, fenceNumber := n } (resolve line) >>=
        resume fun phase => enter phase line) :=
    fun line => matched_resume (reusable_resolve line { p with number } _ ⟨n, rfl, hn⟩)
      fun phase => reusable_enter phase line
  -- The line is read with the fence, which is the same for both.
  exact matched_after (Line.read p.fence text number >>= fun _ => pure ())
    (hline (Line.classify p.fence text number))

theorem reusable_takeLines (number : Int) (texts : List String) :
    Reusable (takeLines number texts) := by
  induction texts generalizing number with
  | nil => exact fun p q h => matched_pure (.ok ()) h
  | cons text texts ih =>
      rw [takeLines]
      exact reusable_bind (reusable_takeLine number text) fun _ => ih (number + 1)

/-- At the end of the text the number is read, but only if a fence is open, and then it was set by
    the line that opened it. -/
theorem reusable_finishInput : Reusable finishInput := by
  rintro p q ⟨n, rfl, hn⟩
  rw [run_finishInput, run_finishInput]
  by_cases haccepting : p.phase.isAccepting = true
  · rw [if_pos haccepting, if_pos haccepting]
    exact reusable_enter .ended _ p _ ⟨n, rfl, hn⟩
  · rw [if_neg haccepting, if_neg haccepting]
    -- Whether a fence is open does not depend on the number, and if one is, the numbers agree.
    have hsame : isOpen { p with fenceNumber := n } = p.isOpen := rfl
    rw [hsame]
    by_cases hopen : p.isOpen = true
    · rw [if_pos hopen, if_pos hopen, hn hopen]
      exact matched_pure _ (.refl _)
    · rw [if_neg hopen, if_neg hopen]
      exact matched_pure _ ⟨n, rfl, hn⟩

theorem reusable_checkKeys : Reusable checkKeys := by
  rintro p q ⟨n, rfl, hn⟩
  rw [run_checkKeys, run_checkKeys]
  exact matched_pure _ ⟨n, rfl, hn⟩

/-- Taking a line does not depend on the number of the line before. -/
theorem run_takeLine_number (p : Parser) (before number : Int) (text : String) :
    Parser.run { p with number := before } (takeLine number text) =
      p.run (takeLine number text) := by
  rw [run_takeLine, run_takeLine]

/-! ## Parsing -/

/-- What comes after the lines of a text. -/
theorem reusable_rest : Reusable (do
    finishInput
    checkKeys
    let p ← get
    Logged.say 2 ("Parsed " ++ toString p.properties.length ++ " properties")
    return p.properties) := by
  refine reusable_bind reusable_finishInput fun _ => reusable_bind reusable_checkKeys fun _ => ?_
  rintro p q ⟨n, rfl, hn⟩
  rw [run_get_bind, run_get_bind, run_say_bind, run_say_bind]
  exact matched_after _ (matched_pure (.ok p.properties) ⟨n, rfl, hn⟩)

/-- Parsing ends alike on parsers with the same source and the same switch, however
    they differ, if there is anything to parse. -/
theorem matched_parse {p q : Parser} (hsource : q.source = p.source) (hdebug : q.debug = p.debug)
    (hne : Text.strip p.source ≠ "") : Matched (p.run parse) (q.run parse) := by
  have hp : ¬ (Text.strip p.source).isEmpty = true := by
    rw [String.isEmpty_iff]
    exact hne
  have hq : ¬ (Text.strip q.source).isEmpty = true := by rwa [hsource]
  rw [parse, run_get_bind, run_get_bind]
  dsimp only
  rw [if_neg hp, if_neg hq, run_modify_bind, run_modify_bind, run_say_bind, run_say_bind, hsource]
  refine matched_after _ ?_
  rw [run_bind, run_bind]
  refine matched_resume ?_ fun _ => reusable_rest
  -- There is a first line, and it sets the number in which the parsers still differ.
  cases hlines : Text.lines (Text.strip p.source) with
  | nil => exact absurd hlines (Text.lines_ne_nil _)
  | cons text texts =>
      have hreset : Alike p.reset { q.reset with number := p.number } := by
        refine ⟨q.fenceNumber, ?_, fun hopen => absurd hopen Bool.false_ne_true⟩
        simp only [reset, hsource, hdebug]
      rw [run_takeLines_cons, run_takeLines_cons, ← run_takeLine_number q.reset p.number]
      exact matched_resume (reusable_takeLine 1 text _ _ hreset)
        fun _ => reusable_takeLines (1 + 1) texts

/-! ## Earlier calls -/

/-- What a parser can be asked to do: to parse, or to take one of its steps. A step may be asked
    for at any time and with any line, so a parser can be left in states that no run of its own
    leads to. -/
inductive Call where
  | parse
  | takeLine (number : Int) (text : String)
  | resolve (line : Line)
  | enter (phase : Phase) (line : Line)
  | perform (line : Line) (effect : Effect)
  | finishInput
  | checkKeys

/-- The action of a call, without its result. -/
def Call.action : Call → Action Unit
  | parse => do let _ ← Parser.parse
  | takeLine number text => Parser.takeLine number text
  | resolve line => do let _ ← Parser.resolve line
  | enter phase line => Parser.enter phase line
  | perform line effect => Parser.perform line effect
  | finishInput => Parser.finishInput
  | checkKeys => Parser.checkKeys

/-- A parser after some calls, whether they fail or not. A failed call leaves behind what it did
    up to its failure. -/
def after (p : Parser) (calls : List Call) : Parser :=
  calls.foldl (fun p call => (p.run call.action).value.2) p

/-- An action that leaves the source and the switch alone. -/
def Keeps (action : Action α) : Prop :=
  ∀ p : Parser, (p.run action).value.2.source = p.source ∧
    (p.run action).value.2.debug = p.debug

theorem keeps_bind {action : Action α} (h : Keeps action) {next : α → Action β}
    (hnext : ∀ a, Keeps (next a)) : Keeps (action >>= next) := by
  intro p
  have hfirst := h p
  rw [run_bind, Logged.value_bind]
  generalize (p.run action).value = ended at hfirst ⊢
  rcases ended with ⟨e | a, q⟩
  · exact hfirst
  · rcases hnext a q with ⟨hsource, hdebug⟩
    exact ⟨hsource.trans hfirst.1, hdebug.trans hfirst.2⟩

theorem keeps_pure (a : α) : Keeps (pure a) :=
  fun _ => ⟨rfl, rfl⟩

theorem keeps_resolve (line : Line) : Keeps (resolve line) := by
  intro p
  rw [run_resolve, Logged.value_pure]
  cases p.phase.next? line.kind with
  | some phase => exact ⟨rfl, rfl⟩
  | none => exact ⟨rfl, rfl⟩

theorem keeps_perform (line : Line) (effect : Effect) : Keeps (perform line effect) := by
  intro p
  cases effect with
  | startProperty =>
      rw [perform, run_startProperty]
      exact ⟨rfl, rfl⟩
  | appendLine =>
      rw [perform, run_appendLine, Logged.value_pure]
      cases p.draft with
      | none => exact ⟨rfl, rfl⟩
      | some draft => exact ⟨rfl, rfl⟩
  | openFence => exact ⟨rfl, rfl⟩
  | closeFence => exact ⟨rfl, rfl⟩
  | finishProperty =>
      rw [perform, run_finishProperty]
      exact ⟨rfl, rfl⟩

theorem keeps_performAll (line : Line) (effects : List Effect) :
    Keeps (performAll line effects) := by
  induction effects with
  | nil => exact keeps_pure ()
  | cons effect effects ih =>
      rw [performAll]
      exact keeps_bind (keeps_perform line effect) fun _ => ih

theorem keeps_enter (phase : Phase) (line : Line) : Keeps (enter phase line) := by
  intro p
  rw [run_enter, Logged.value_bind]
  cases phase.effects? with
  | none => exact ⟨rfl, rfl⟩
  | some effects => exact keeps_performAll line effects { p with phase }

theorem keeps_takeLine (number : Int) (text : String) : Keeps (takeLine number text) := by
  have hmodify : Keeps (modify fun p : Parser => { p with number } : Action PUnit) :=
    fun _ => ⟨rfl, rfl⟩
  have hclassify : Keeps (classify text) := fun _ => ⟨rfl, rfl⟩
  rw [takeLine]
  exact keeps_bind hmodify fun _ => keeps_bind hclassify fun line =>
    keeps_bind (keeps_resolve line) fun phase => keeps_enter phase line

theorem keeps_takeLines (number : Int) (texts : List String) : Keeps (takeLines number texts) := by
  induction texts generalizing number with
  | nil => exact keeps_pure ()
  | cons text texts ih =>
      rw [takeLines]
      exact keeps_bind (keeps_takeLine number text) fun _ => ih (number + 1)

theorem keeps_finishInput : Keeps finishInput := by
  intro p
  rw [run_finishInput]
  split
  · exact keeps_enter .ended _ p
  · exact ⟨rfl, rfl⟩

theorem keeps_checkKeys : Keeps checkKeys := by
  intro p
  rw [run_checkKeys]
  exact ⟨rfl, rfl⟩

theorem keeps_parse : Keeps parse := by
  intro p
  rw [parse, run_get_bind]
  dsimp only
  split
  · exact ⟨rfl, rfl⟩
  · rw [run_modify_bind, run_say_bind, Logged.value_bind]
    have hend : Keeps (get >>= fun q : Parser => do
        Logged.say 2 ("Parsed " ++ toString q.properties.length ++ " properties")
        return q.properties) := fun _ => ⟨rfl, rfl⟩
    exact keeps_bind (keeps_takeLines 1 _) (fun _ => keeps_bind keeps_finishInput fun _ =>
      keeps_bind keeps_checkKeys fun _ => hend) p.reset

theorem Call.keeps_action (call : Call) : Keeps call.action := by
  cases call with
  | parse => exact keeps_bind keeps_parse fun _ => keeps_pure ()
  | takeLine number text => exact keeps_takeLine number text
  | resolve line => exact keeps_bind (keeps_resolve line) fun _ => keeps_pure ()
  | enter phase line => exact keeps_enter phase line
  | perform line effect => exact keeps_perform line effect
  | finishInput => exact keeps_finishInput
  | checkKeys => exact keeps_checkKeys

/-- Calls leave the source and the switch alone. -/
theorem keeps_after (p : Parser) (calls : List Call) :
    (p.after calls).source = p.source ∧ (p.after calls).debug = p.debug := by
  unfold after
  induction calls generalizing p with
  | nil => exact ⟨rfl, rfl⟩
  | cons call calls ih =>
      rw [List.foldl_cons]
      rcases ih (p.run call.action).value.2 with ⟨hsource, hdebug⟩
      rcases call.keeps_action p with ⟨hcallSource, hcallDebug⟩
      exact ⟨hsource.trans hcallSource, hdebug.trans hcallDebug⟩

/-- Parsing comes to the same after any calls as on a new parser over the same source,
    whatever state the parser was in before them: the outcome is the same, properties
    or failure, and so are the messages. It leaves a parser that is alike, or it found
    nothing to parse and leaves the parser as it was. -/
theorem run_parse_after (p : Parser) (calls : List Call) :
    let used := p.after calls
    let fresh : Parser := { source := p.source, debug := p.debug }
    (used.run parse).value.1 = (fresh.run parse).value.1 ∧
      (used.run parse).messages = (fresh.run parse).messages ∧
      (Alike (fresh.run parse).value.2 (used.run parse).value.2 ∨
        Text.strip p.source = "" ∧ (used.run parse).value.2 = used) := by
  intro used fresh
  rcases keeps_after p calls with ⟨hsource, hdebug⟩
  by_cases hblank : Text.strip p.source = ""
  · -- Nothing is reset for a text with nothing in it, so what was left stays.
    have hused : Text.strip used.source = "" := by rwa [hsource]
    rw [run_parse_blank hused, run_parse_blank (show Text.strip fresh.source = "" from hblank)]
    exact ⟨rfl, rfl, .inr ⟨hblank, rfl⟩⟩
  · have hmatched : Matched (fresh.run parse) (used.run parse) :=
      matched_parse hsource hdebug hblank
    exact ⟨hmatched.outcome, hmatched.messages, .inl hmatched.left⟩

end Stencil.Block.Parser
