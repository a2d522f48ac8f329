import Stencil.Block.Run
import Stencil.Proofs.Log.Levels

/-!
# Tracing the Parser

What it changes that a parser says how its phases change.

Tracing is a switch of the parser. It is looked at in one place, when a phase
is entered, and all that happens there is one more message of the third level.
So an action ends on a traced parser as it ends on the same parser untraced,
leaves the same parser behind but for the switch, and says the same up to the
second level. `Untouched` says this of an action. It goes through sequences,
where the second action meets the parser that the first one left, and thus
through any number of lines.

## Main definitions

* `Retraced`: How an action ends on a parser with the switch set.
* `Untouched`: An action that ends alike with and without tracing.

## Theorems

* `untouched_bind`: Sequences of such actions are such actions.
* `untouched_enter`: Entering a phase is one, though it looks at the switch.
* `untouched_parse`: Parsing is one.
* `upTo_messages_parse`: What is said about a text is the same up to the second level.
* `ranked_messages_parse`: Parsing says messages of the three levels.
-/

namespace Stencil.Block

namespace Parser

variable {α β : Type}

/-- How an action ends on a parser whose tracing is set, given how it ends on the
    parser as it is. -/
structure Retraced (debug : Bool) (x y : Logged (Except Error α × Parser)) : Prop where
  /-- The outcome is the same, and so is the parser but for the switch. -/
  value : y.value = (x.value.1, { x.value.2 with debug })
  /-- The same is said, except for messages of the third level. -/
  upTo : upTo 2 y.messages = upTo 2 x.messages
  /-- There are messages of the three levels only. -/
  ranked : Ranked x.messages ∧ Ranked y.messages

/-- An action that ends alike with and without tracing, and says the same but for messages of the
    third level. -/
def Untouched (action : Action α) : Prop :=
  ∀ (p : Parser) (debug : Bool), Retraced debug (p.run action) (run { p with debug } action)

variable {debug : Bool} {x y : Logged (Except Error α × Parser)}

theorem retraced_pure (outcome : Except Error α) (p : Parser) :
    Retraced debug (pure (outcome, p)) (pure (outcome, { p with debug })) :=
  ⟨rfl, rfl, ranked_nil, ranked_nil⟩

/-- What is said before makes no difference, if it is the same up to the second
    level. -/
theorem retraced_after {one other : Logged Unit}
    (hsaid : upTo 2 other.messages = upTo 2 one.messages)
    (hone : Ranked one.messages) (hother : Ranked other.messages) (h : Retraced debug x y) :
    Retraced debug (one >>= fun _ => x) (other >>= fun _ => y) := by
  refine ⟨h.value, ?_, ?_⟩
  · rw [Logged.messages_bind, Logged.messages_bind, upTo_append, upTo_append, hsaid, h.upTo]
  · rw [Logged.messages_bind, Logged.messages_bind, ranked_append, ranked_append]
    exact ⟨⟨hone, h.ranked.1⟩, hother, h.ranked.2⟩

theorem retraced_say {level : Int} (hlevel : 1 ≤ level ∧ level ≤ 3) (text : String)
    (h : Retraced debug x y) :
    Retraced debug (Logged.say level text >>= fun _ => x)
      (Logged.say level text >>= fun _ => y) := by
  have hranked : Ranked (Logged.say level text).messages := by
    rw [Logged.messages_say, ranked_cons]
    exact ⟨hlevel, ranked_nil⟩
  exact retraced_after rfl hranked hranked h

/-- A sequence goes on alike after parts that ended alike. -/
theorem retraced_resume (h : Retraced debug x y) {next : α → Action β}
    (hnext : ∀ a, Untouched (next a)) : Retraced debug (x >>= resume next) (y >>= resume next) := by
  have hrest : Retraced debug (resume next x.value) (resume next y.value) := by
    rw [h.value]
    rcases x.value with ⟨e | a, p⟩
    · exact retraced_pure (.error e) p
    · exact hnext a p debug
  refine ⟨hrest.value, ?_, ?_⟩
  · rw [Logged.messages_bind, Logged.messages_bind, upTo_append, upTo_append, h.upTo, hrest.upTo]
  · rw [Logged.messages_bind, Logged.messages_bind, ranked_append, ranked_append]
    exact ⟨⟨h.ranked.1, hrest.ranked.1⟩, h.ranked.2, hrest.ranked.2⟩

/-- Sequences of actions that end alike end alike. -/
theorem untouched_bind {action : Action α} (h : Untouched action) {next : α → Action β}
    (hnext : ∀ a, Untouched (next a)) : Untouched (action >>= next) := by
  intro p debug
  rw [run_bind, run_bind]
  exact retraced_resume (h p debug) hnext

/-! ## Steps -/

theorem untouched_resolve (line : Line) : Untouched (resolve line) := by
  intro p debug
  rw [run_resolve, run_resolve]
  dsimp only
  cases p.phase.next? line.kind with
  | some phase => exact retraced_pure (.ok phase) p
  | none => exact retraced_pure _ { p with phase := .failed }

theorem untouched_perform (line : Line) (effect : Effect) : Untouched (perform line effect) := by
  intro p debug
  cases effect with
  | startProperty =>
      simp only [perform, run_startProperty]
      exact retraced_pure (.ok ()) _
  | appendLine =>
      simp only [perform, run_appendLine]
      rcases p with ⟨_, _, _, _, _, _ | draft, _, _⟩
      · exact retraced_pure (.error (.noDraft line.number)) _
      · exact retraced_pure (.ok ()) _
  | openFence =>
      simp only [perform, run_openFence]
      exact retraced_pure (.ok ()) _
  | closeFence =>
      simp only [perform, run_closeFence]
      exact retraced_pure (.ok ()) _
  | finishProperty =>
      simp only [perform, run_finishProperty]
      exact retraced_pure (.ok ()) _

theorem untouched_performAll (line : Line) (effects : List Effect) :
    Untouched (performAll line effects) := by
  induction effects with
  | nil => exact fun p _ => retraced_pure (.ok ()) p
  | cons effect effects ih =>
      rw [performAll]
      exact untouched_bind (untouched_perform line effect) fun _ => ih

/-- Entering a phase looks at the switch, to say one thing more or less. -/
theorem untouched_enter (phase : Phase) (line : Line) : Untouched (enter phase line) := by
  intro p debug
  -- On either side the change of phase is said or not; it is above the second level.
  have hsaid : ∀ said : Bool,
      let traced := if said then Logged.say 3 (p.phase.name ++ " -> " ++ phase.name) else pure ()
      upTo 2 traced.messages = [] ∧ Ranked traced.messages := by
    intro said
    cases said with
    | false => exact ⟨rfl, ranked_nil⟩
    | true => exact ⟨rfl, by simp⟩
  rw [run_enter, run_enter]
  refine retraced_after ?_ (hsaid p.debug).2 (hsaid debug).2 ?_
  · exact (hsaid debug).1.trans (hsaid p.debug).1.symm
  · cases phase.effects? with
    | none => exact retraced_pure (.error (.unreachable phase)) { p with phase }
    | some effects => exact untouched_performAll line effects { p with phase } debug

theorem untouched_takeLine (number : Int) (text : String) : Untouched (takeLine number text) := by
  intro p debug
  rw [run_takeLine, run_takeLine]
  have hline := retraced_resume (untouched_resolve (Line.classify p.fence text number)
    { p with number } debug) fun phase => untouched_enter phase (Line.classify p.fence text number)
  exact retraced_say (by omega) _ hline

theorem untouched_takeLines (number : Int) (texts : List String) :
    Untouched (takeLines number texts) := by
  induction texts generalizing number with
  | nil => exact fun p _ => retraced_pure (.ok ()) p
  | cons text texts ih =>
      rw [takeLines]
      exact untouched_bind (untouched_takeLine number text) fun _ => ih (number + 1)

theorem untouched_finishInput : Untouched finishInput := by
  intro p debug
  rw [run_finishInput, run_finishInput]
  dsimp only
  by_cases haccepting : p.phase.isAccepting = true
  · rw [if_pos haccepting, if_pos haccepting]
    exact untouched_enter .ended _ p debug
  · rw [if_neg haccepting, if_neg haccepting]
    exact retraced_pure _ { p with phase := .failed }

theorem untouched_checkKeys : Untouched checkKeys := by
  intro p debug
  rw [run_checkKeys, run_checkKeys]
  exact retraced_pure _ p

/-- Parsing ends alike with and without tracing, as all of its parts do. -/
theorem untouched_parse : Untouched parse := by
  intro p debug
  rw [parse, run_get_bind, run_get_bind]
  dsimp only
  by_cases hblank : (Text.strip p.source).isEmpty = true
  · -- A text with nothing in it is refused before anything is said.
    rw [if_pos hblank, run_throw_bind, run_throw_bind]
    exact retraced_pure (.error .blank) p
  · rw [if_neg hblank, run_modify_bind, run_modify_bind, run_say_bind, run_say_bind]
    refine retraced_say (by omega) _ ?_
    -- The number of properties is said at the very end, of the parser that is left.
    have hend : Untouched (get >>= fun q : Parser => do
        Logged.say 2 ("Parsed " ++ toString q.properties.length ++ " properties")
        return q.properties) := by
      intro q debug
      rw [run_get_bind, run_get_bind, run_say_bind, run_say_bind]
      exact retraced_say (by omega) _ (retraced_pure (.ok q.properties) q)
    exact untouched_bind (untouched_takeLines 1 _) (fun _ => untouched_bind untouched_finishInput
      fun _ => untouched_bind untouched_checkKeys fun _ => hend) p.reset debug

end Parser

/-! ## Texts -/

theorem retraced_parse (text : String) (debug : Bool) :
    Parser.Retraced debug (Parser.run { source := text } Parser.parse)
      (Parser.run { source := text, debug } Parser.parse) :=
  Parser.untouched_parse { source := text } debug

theorem messages_parse (text : String) (debug : Bool) :
    (parse text debug).messages = (Parser.run { source := text, debug } Parser.parse).messages := by
  rw [parse, Trace.messages, ExceptT.run_mk, Logged.messages_bind, Logged.messages_pure,
    List.append_nil]

/-- Up to the second level the same is said with and without tracing. -/
theorem upTo_messages_parse {verbosity : Int} (h : verbosity < 3) (text : String) (debug : Bool) :
    upTo verbosity (parse text debug).messages = upTo verbosity (parse text false).messages := by
  have hlow : verbosity ≤ 2 := by omega
  rw [messages_parse, messages_parse, ← upTo_upTo hlow, (retraced_parse text debug).upTo,
    upTo_upTo hlow]

/-- Parsing says messages of the three levels. -/
theorem ranked_messages_parse (text : String) (debug : Bool) :
    Ranked (parse text debug).messages := by
  rw [messages_parse]
  exact (retraced_parse text debug).ranked.2

end Stencil.Block
