import Stencil.Block.Parser

/-!
# Running the Parser

What each step of the parser does, as equations.

An action is run on a parser and ends with an outcome, the parser that it
leaves, and what it said. `run_bind` takes a sequence apart: `resume` runs the
second part on the parser that the first one leaves, and not at all if the
first one failed. The other equations say what the single steps do, so that
statements about the parser need not look inside an action again.

## Main definitions

* `resume`: How a sequence goes on after its first part.

## Theorems

* `run_bind`: A sequence runs one part after the other.
* `run_resolve`: The phase that a line leads to.
* `run_enter`: A parser that reaches a phase is in it.
* `run_takeLine`: A line is classified, resolved and entered.
* `takeLines_append`: Lines can be taken in parts.
* `run_finishInput`, `run_checkKeys`: What is checked at the end.
-/

namespace Stencil.Block.Parser

variable {α β : Type}

/-- How a sequence goes on after its first part, which ended as given. -/
def resume (next : α → Action β) : Except Error α × Parser → Logged (Except Error β × Parser)
  | (.ok a, p) => p.run (next a)
  | (.error e, p) => pure (.error e, p)

@[simp] theorem resume_ok (next : α → Action β) (a : α) (p : Parser) :
    resume next (.ok a, p) = p.run (next a) := rfl

@[simp] theorem resume_error (next : α → Action β) (e : Error) (p : Parser) :
    resume next (.error e, p) = pure (.error e, p) := rfl

/-- A sequence runs its second part on the parser that the first one leaves, if
    the first one does not fail. -/
theorem run_bind (p : Parser) (action : Action α) (next : α → Action β) :
    p.run (action >>= next) = p.run action >>= resume next := by
  unfold run ExceptT.run StateT.run
  simp only [bind, ExceptT.bind, ExceptT.mk, StateT.bind, ExceptT.bindCont]
  rcases action p with ⟨⟨_ | _, q⟩, ms⟩ <;> rfl

@[simp] theorem run_pure (p : Parser) (a : α) : p.run (pure a) = pure (.ok a, p) := rfl

@[simp] theorem run_throw (p : Parser) (e : Error) :
    p.run (throw e : Action α) = pure (.error e, p) := rfl

@[simp] theorem run_get (p : Parser) : p.run get = pure (.ok p, p) := rfl

@[simp] theorem run_set (p q : Parser) : p.run (set q) = pure (.ok (), q) := rfl

@[simp] theorem run_modify (p : Parser) (f : Parser → Parser) :
    p.run (modify f) = pure (.ok (), f p) := rfl

theorem run_say (p : Parser) (level : Int) (text : String) :
    p.run (liftM (Logged.say level text)) =
      Logged.say level text >>= fun _ => pure (.ok (), p) := rfl

/-- What follows a look at the parser sees the parser. -/
theorem run_get_bind (p : Parser) (next : Parser → Action β) :
    p.run (get >>= next) = p.run (next p) := by
  rw [run_bind, run_get, pure_bind, resume_ok]

theorem run_set_bind (p q : Parser) (next : PUnit → Action β) :
    p.run (set q >>= next) = q.run (next ⟨⟩) := by
  rw [run_bind, run_set, pure_bind, resume_ok]

theorem run_modify_bind (p : Parser) (f : Parser → Parser) (next : PUnit → Action β) :
    p.run (modify f >>= next) = (f p).run (next ⟨⟩) := by
  rw [run_bind, run_modify, pure_bind, resume_ok]

theorem run_say_bind (p : Parser) (level : Int) (text : String) (next : Unit → Action β) :
    p.run (liftM (Logged.say level text) >>= next) =
      Logged.say level text >>= fun _ => p.run (next ()) := by
  rw [run_bind, run_say, bind_assoc]
  simp only [pure_bind, resume_ok]

/-- What follows a failure does not happen. -/
theorem run_throw_bind (p : Parser) (e : Error) (next : α → Action β) :
    p.run (throw e >>= next) = pure (.error e, p) := by
  rw [run_bind, run_throw, pure_bind, resume_error]

/-! ## Steps -/

theorem run_classify (p : Parser) (text : String) :
    p.run (classify text) =
      Line.read p.fence text p.number >>= fun line => pure (.ok line, p) := rfl

theorem run_resolve (p : Parser) (line : Line) :
    p.run (resolve line) = pure (match p.phase.next? line.kind with
      | some phase => (.ok phase, p)
      | none => (.error (if p.phase = .start then .noDeclaration line.number
          else .noTransition line.number line.kind p.phase), { p with phase := .failed })) := by
  rw [resolve, run_get_bind]
  cases p.phase.next? line.kind with
  | some phase => rfl
  | none =>
      rw [run_set_bind]
      dsimp only
      split <;> rfl

theorem run_finishProperty (p : Parser) :
    p.run finishProperty = pure (.ok (),
      { p with
        properties := p.properties ++ (p.draft.map Draft.finish).toList
        draft := none }) := by
  rw [finishProperty, run_modify]
  rcases p with ⟨_, _, _, _, _, _ | _, _, _⟩ <;> simp

theorem run_startProperty (p : Parser) (line : Line) :
    p.run (startProperty line) = pure (.ok (),
      { p with
        properties := p.properties ++ (p.draft.map Draft.finish).toList
        draft := some ⟨line.key.getD "", [line.value.getD ""], line.number⟩ }) := by
  rw [startProperty, run_bind, run_finishProperty, pure_bind, resume_ok, run_modify]

theorem run_appendLine (p : Parser) (line : Line) :
    p.run (appendLine line) = pure (match p.draft with
      | none => (.error (.noDraft line.number), p)
      | some draft => (.ok (), { p with draft := some (draft.append line.content) })) := by
  rw [appendLine, run_get_bind]
  cases p.draft <;> rfl

theorem run_openFence (p : Parser) (line : Line) :
    p.run (openFence line) = pure (.ok (),
      { p with fence := some (line.fence.getD ""), fenceNumber := line.number }) := rfl

theorem run_closeFence (p : Parser) :
    p.run closeFence = pure (.ok (), { p with fence := none, fenceNumber := 0 }) := rfl

@[simp] theorem run_performAll_nil (p : Parser) (line : Line) :
    p.run (performAll line []) = pure (.ok (), p) := rfl

/-- Effects after one that fails are not carried out. -/
theorem run_performAll_cons (p : Parser) (line : Line) (effect : Effect) (effects : List Effect) :
    p.run (performAll line (effect :: effects)) =
      p.run (perform line effect) >>= resume fun _ => performAll line effects := by
  rw [performAll, run_bind]

/-- A parser that reaches a phase is in it, whatever becomes of the effects. -/
theorem run_enter (p : Parser) (phase : Phase) (line : Line) :
    p.run (enter phase line) =
      (if p.debug then Logged.say 3 (p.phase.name ++ " -> " ++ phase.name) else pure ()) >>=
        fun _ => match phase.effects? with
          | none => pure (.error (.unreachable phase), { p with phase })
          | some effects => Parser.run { p with phase } (performAll line effects) := by
  rw [enter, run_get_bind]
  -- The message leaves the parser as it is, so both cases go on alike.
  have hgo : p.run (set { p with phase } >>= fun _ => match phase.effects? with
      | none => throw (.unreachable phase)
      | some effects => performAll line effects) = (match phase.effects? with
      | none => pure (.error (.unreachable phase), { p with phase })
      | some effects => Parser.run { p with phase } (performAll line effects)) := by
    rw [run_set_bind]
    cases phase.effects? <;> rfl
  rw [← hgo]
  by_cases hdebug : p.debug
  · rw [if_pos hdebug, if_pos hdebug]
    exact run_say_bind ..
  · rw [if_neg hdebug, if_neg hdebug]
    exact (pure_bind ..).symm

/-- A line is classified, resolved and entered. -/
theorem run_takeLine (p : Parser) (number : Int) (text : String) :
    p.run (takeLine number text) =
      Line.read p.fence text number >>= fun line =>
        Parser.run { p with number } (resolve line) >>= resume fun phase => enter phase line := by
  rw [takeLine, run_modify_bind, run_bind, run_classify]
  simp only [bind_assoc, pure_bind, resume_ok, run_bind]

@[simp] theorem run_takeLines_nil (p : Parser) (number : Int) :
    p.run (takeLines number []) = pure (.ok (), p) := rfl

theorem run_takeLines_cons (p : Parser) (number : Int) (text : String) (rest : List String) :
    p.run (takeLines number (text :: rest)) =
      p.run (takeLine number text) >>= resume fun _ => takeLines (number + 1) rest := by
  rw [takeLines, run_bind]

/-- Lines can be taken in parts. -/
theorem takeLines_append (number : Int) (one other : List String) :
    takeLines number (one ++ other) =
      takeLines number one >>= fun _ => takeLines (number + one.length) other := by
  induction one generalizing number with
  | nil => simp [takeLines]
  | cons text one ih =>
      simp only [List.cons_append, takeLines, ih, bind_assoc, List.length_cons]
      rw [show number + 1 + (one.length : Int) = number + ((one.length + 1 : Nat) : Int) by omega]

theorem run_finishInput (p : Parser) :
    p.run finishInput =
      if p.phase.isAccepting then p.run (enter .ended ⟨.text, "", 0, none, none, none⟩)
      else pure (.error (if p.isOpen then .unclosedFence p.fenceNumber p.number
          else .unexpectedEnd p.number), { p with phase := .failed }) := by
  rw [finishInput, run_get_bind]
  split
  · rfl
  · rw [run_set_bind]
    split <;> rfl

theorem run_checkKeys (p : Parser) :
    p.run checkKeys = pure (
      if duplicates (p.properties.map Property.key) = [] then .ok ()
      else .error (.duplicateKeys (duplicates (p.properties.map Property.key))), p) := by
  rw [checkKeys, run_get_bind]
  dsimp only
  split <;> simp_all

end Stencil.Block.Parser
