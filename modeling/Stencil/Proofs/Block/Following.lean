import Stencil.Block.Run
import Stencil.Proofs.Block.Outline

/-!
# The Parser Follows the Outline

What a parser holds after any number of lines, in terms of the outline.

The parser keeps its knowledge in several places: the phase says where in the
codeblock it is, the fence what closes the open fence, the draft what has been
read of the last value. `Amid` says how these places agree with each other and
with the fence of the outline once the first declaration has been taken. The
phase table has no entry for a closing line outside a fence and the growing
property must not be missing when a line is added; both are safe because a
parser that is amid a codeblock stays so, whatever the next line is. That is
`takeLine_amid`, the one place where the kinds of lines are gone through.

A draft is never complete before the next declaration comes, so the finished
properties alone are no invariant. `prospect` adds to them what lines that are
still to come make of the draft. It does not change when a line is taken, and
when no line is left it is the properties.

The line number of the open fence is stated for open fences only: a parser
that is used again starts with the number that the last source left there.
`Rests` says that no number is left, and is kept on its own.

## Main definitions

* `Phase.isFenced`: The phases inside a fence.
* `Fresh`: A parser before its first line.
* `Amid`: A parser after a declaration.
* `Rests`: Only an open fence has a number.
* `prospect`: The properties there will be.

## Theorems

* `takeLine_amid`: A line never fails after a declaration, and does what the outline says.
* `takeLines_amid`: The same for any number of lines.
* `takeLine_fresh`, `takeLine_fresh_failure`: The first line.
* `takeLines_fresh`: All lines of a source.
* `finishInput_closed`, `finishInput_open`: The end of a source.
-/

namespace Stencil.Block

/-! ## Phases and kinds -/

/-- The phases inside a fence. -/
def Phase.isFenced : Phase → Bool
  | fenceOpened | fenced => true
  | _ => false

theorem Phase.isFenced_iff (phase : Phase) :
    phase.isFenced = true ↔ phase = fenceOpened ∨ phase = fenced := by
  cases phase <;> simp [isFenced]

/-- Where the text may end, everything but a closing line may follow. -/
theorem Phase.next?_of_isAccepting {phase : Phase} (h : phase.isAccepting = true) :
    phase.next? .declaration = some declared ∧ phase.next? .fenceOpen = some fenceOpened ∧
      phase.next? .text = some text := by
  cases phase <;> simp_all [isAccepting, next?]

/-- Inside a fence only the closing line matters. -/
theorem Phase.next?_of_isFenced {phase : Phase} (h : phase.isFenced = true) (kind : LineKind) :
    phase.next? kind = some (if kind = .fenceClose then fenceClosed else fenced) := by
  cases phase <;> cases kind <;> simp_all [isFenced, next?]

namespace Line

/-- The lines that close a fence are those that are its run. -/
theorem kind_classify_eq_fenceClose_iff (fence : Option String) (text : String) (number : Int) :
    (classify fence text number).kind = .fenceClose ↔ fence = some (Text.strip text) := by
  unfold classify
  dsimp only
  split
  · simp [*]
  · split
    · simp [*]
    · split <;> simp [*]

/-- Outside a fence, a declaration is what it captures. -/
theorem classify_none_of_declaration {text : String} {key value : List Char}
    (h : declaration? (Text.strip text).toList = some (key, value)) (number : Int) :
    classify none text number =
      ⟨.declaration, Text.strip text, number, some (.ofList key), some (.ofList value), none⟩ := by
  unfold classify
  dsimp only
  rw [if_neg (by simp), h]

theorem classify_none_of_fenceRun {text : String} {run : List Char}
    (h : fenceRun? (Text.strip text).toList = some run) (number : Int) :
    classify none text number =
      ⟨.fenceOpen, Text.strip text, number, none, none, some (.ofList run)⟩ := by
  unfold classify
  dsimp only
  rw [if_neg (by simp), not_declaration_of_fenceRun h, h]

theorem classify_none_of_text {text : String} (hd : declaration? (Text.strip text).toList = none)
    (hf : fenceRun? (Text.strip text).toList = none) (number : Int) :
    classify none text number = ⟨.text, Text.strip text, number, none, none, none⟩ := by
  unfold classify
  dsimp only
  rw [if_neg (by simp), hd, hf]

end Line

namespace Parser

/-! ## Steps without their messages -/

/-- A line is classified and its phase is entered, or there is no such phase. In which phase a
    parser is then, and what it fails with, depends on whether it had started. -/
theorem value_run_takeLine (p : Parser) (number : Int) (text : String) :
    (p.run (takeLine number text)).value =
      match p.phase.next? (Line.classify p.fence text number).kind with
      | some phase =>
        (run { p with number } (enter phase (Line.classify p.fence text number))).value
      | none =>
        (.error (if p.phase = .start then .noDeclaration number
          else .noTransition number (Line.classify p.fence text number).kind p.phase),
          { p with number, phase := .failed }) := by
  rw [run_takeLine, Logged.value_bind, Line.value_read, Logged.value_bind, run_resolve,
    Logged.value_pure]
  dsimp only
  cases p.phase.next? (Line.classify p.fence text number).kind with
  | some phase => rfl
  | none => rw [Line.number_classify]; rfl

theorem value_run_enter (p : Parser) (phase : Phase) (line : Line) :
    (p.run (enter phase line)).value =
      match phase.effects? with
      | none => (.error (.unreachable phase), { p with phase })
      | some effects => (run { p with phase } (performAll line effects)).value := by
  rw [run_enter, Logged.value_bind]
  cases phase.effects? <;> rfl

/-- Effects are carried out one after the other as long as none fails. -/
theorem value_run_performAll_cons {p q : Parser} {line : Line} {effect : Effect}
    {effects : List Effect} (h : (p.run (perform line effect)).value = (.ok (), q)) :
    (p.run (performAll line (effect :: effects))).value =
      (q.run (performAll line effects)).value := by
  rw [run_performAll_cons, Logged.value_bind, h, resume_ok]

/-- A declaration finishes the growing property and starts one. -/
theorem value_run_enter_declared (p : Parser) (line : Line) :
    (p.run (enter .declared line)).value = (.ok (),
      { p with
        phase := .declared
        properties := p.properties ++ (p.draft.map Draft.finish).toList
        draft := some ⟨line.key.getD "", [line.value.getD ""], line.number⟩ }) := by
  rw [value_run_enter]
  exact value_run_performAll_cons (by rw [perform, run_startProperty, Logged.value_pure])

/-- All other phases that lines lead to add the line to the growing property
    before anything else. -/
theorem value_run_enter_appendLine (p : Parser) {draft : Draft} (h : p.draft = some draft)
    (phase : Phase) (effects : List Effect) (he : phase.effects? = some (.appendLine :: effects))
    (line : Line) :
    (p.run (enter phase line)).value =
      (run { p with phase, draft := some (draft.append line.content) }
        (performAll line effects)).value := by
  rw [value_run_enter, he]
  refine value_run_performAll_cons ?_
  rw [perform, run_appendLine, Logged.value_pure]
  dsimp only
  rw [h]

theorem value_run_enter_text (p : Parser) {draft : Draft} (h : p.draft = some draft)
    (line : Line) :
    (p.run (enter .text line)).value = (.ok (),
      { p with phase := .text, draft := some (draft.append line.content) }) :=
  value_run_enter_appendLine p h .text [] rfl line

theorem value_run_enter_fenced (p : Parser) {draft : Draft} (h : p.draft = some draft)
    (line : Line) :
    (p.run (enter .fenced line)).value = (.ok (),
      { p with phase := .fenced, draft := some (draft.append line.content) }) :=
  value_run_enter_appendLine p h .fenced [] rfl line

theorem value_run_enter_fenceOpened (p : Parser) {draft : Draft} (h : p.draft = some draft)
    (line : Line) :
    (p.run (enter .fenceOpened line)).value = (.ok (),
      { p with
        phase := .fenceOpened
        draft := some (draft.append line.content)
        fence := some (line.fence.getD "")
        fenceNumber := line.number }) :=
  value_run_enter_appendLine p h .fenceOpened [.openFence] rfl line

theorem value_run_enter_fenceClosed (p : Parser) {draft : Draft} (h : p.draft = some draft)
    (line : Line) :
    (p.run (enter .fenceClosed line)).value = (.ok (),
      { p with
        phase := .fenceClosed
        draft := some (draft.append line.content)
        fence := none
        fenceNumber := 0 }) :=
  value_run_enter_appendLine p h .fenceClosed [.closeFence] rfl line

theorem value_run_enter_ended (p : Parser) (line : Line) :
    (p.run (enter .ended line)).value = (.ok (),
      { p with
        phase := .ended
        properties := p.properties ++ (p.draft.map Draft.finish).toList
        draft := none }) := by
  rw [value_run_enter]
  exact value_run_performAll_cons (by rw [perform, run_finishProperty, Logged.value_pure])

/-! ## After the first declaration -/

/-- A parser after a declaration: a property is growing, and its phase and its
    fence agree with the fence of the outline. -/
structure Amid (p : Parser) (fence : Option Fence) (draft : Draft) : Prop where
  draft_eq : p.draft = some draft
  fence_eq : p.fence = fence.map Fence.run
  fenced_eq : p.phase.isFenced = fence.isSome
  accepting_eq : p.phase.isAccepting = fence.isNone
  fenceNumber_eq : ∀ open' ∈ fence, p.fenceNumber = p.number - open'.age

/-- Only an open fence has a number. It is what keeps a number from an earlier fence out of the
    report of a later one. -/
def Rests (p : Parser) : Prop :=
  p.fence = none → p.fenceNumber = 0

/-- What a line of the given role leaves of the finished properties and of the
    growing one. -/
def advance (number : Int) (finished : List Property) (draft : Draft) :
    Role → List Property × Draft
  | .declares key value => (finished ++ [draft.finish], ⟨key, [value], number⟩)
  | .continues line => (finished, draft.append line)

/-! ## One line

What the parser is after a line of each kind. -/

section Takes

variable {p : Parser} {draft : Draft} {text : String} (number : Int)

/-- A declaration outside a fence finishes the property that was growing and starts another one. -/
theorem takeLine_declaration {key value : List Char}
    (hnext : p.phase.next? .declaration = some .declared)
    (hfence : p.fence = none)
    (hd : declaration? (Text.strip text).toList = some (key, value)) :
    (p.run (takeLine number text)).value = (.ok (),
      { p with
        number
        phase := .declared
        properties := p.properties ++ (p.draft.map Draft.finish).toList
        draft := some ⟨.ofList key, [.ofList value], number⟩ }) := by
  have hline := Line.classify_none_of_declaration hd number
  rw [← hfence] at hline
  rw [value_run_takeLine, hline]
  dsimp only
  rw [hnext]
  -- The property that was growing is finished, and a new one starts with this line.
  exact value_run_enter_declared { p with number } _

/-- A line that opens a fence continues the value and is remembered with its run and its number. -/
theorem takeLine_fenceOpen {run : List Char} (hnext : p.phase.next? .fenceOpen = some .fenceOpened)
    (hdraft : p.draft = some draft) (hfence : p.fence = none)
    (hf : fenceRun? (Text.strip text).toList = some run) :
    (p.run (takeLine number text)).value = (.ok (),
      { p with
        number
        phase := .fenceOpened
        draft := some (draft.append (Text.strip text))
        fence := some (.ofList run)
        fenceNumber := number }) := by
  have hline := Line.classify_none_of_fenceRun hf number
  rw [← hfence] at hline
  rw [value_run_takeLine, hline]
  dsimp only
  rw [hnext]
  exact value_run_enter_fenceOpened { p with number } hdraft _

/-- Any other line outside a fence. -/
theorem takeLine_text (hnext : p.phase.next? .text = some .text) (hdraft : p.draft = some draft)
    (hfence : p.fence = none) (hd : declaration? (Text.strip text).toList = none)
    (hf : fenceRun? (Text.strip text).toList = none) :
    (p.run (takeLine number text)).value = (.ok (),
      { p with number, phase := .text, draft := some (draft.append (Text.strip text)) }) := by
  have hline := Line.classify_none_of_text hd hf number
  rw [← hfence] at hline
  rw [value_run_takeLine, hline]
  dsimp only
  rw [hnext]
  exact value_run_enter_text { p with number } hdraft _

/-- The run of a fence inside it continues the value, and no fence is open afterwards. -/
theorem takeLine_fenceClose (hphase : p.phase.isFenced = true) (hdraft : p.draft = some draft)
    (hfence : p.fence = some (Text.strip text)) :
    (p.run (takeLine number text)).value = (.ok (),
      { p with
        number
        phase := .fenceClosed
        draft := some (draft.append (Text.strip text))
        fence := none
        fenceNumber := 0 }) := by
  have hkind := (Line.kind_classify_eq_fenceClose_iff p.fence text number).2 hfence
  -- Inside a fence the kind of the line alone decides where it leads.
  rw [value_run_takeLine, Phase.next?_of_isFenced hphase, if_pos hkind]
  dsimp only
  rw [value_run_enter_fenceClosed { p with number } hdraft, Line.content_classify]

/-- Any other line inside a fence. -/
theorem takeLine_fenced (hphase : p.phase.isFenced = true) (hdraft : p.draft = some draft)
    (hfence : p.fence ≠ some (Text.strip text)) :
    (p.run (takeLine number text)).value = (.ok (),
      { p with number, phase := .fenced, draft := some (draft.append (Text.strip text)) }) := by
  have hkind : ¬ (Line.classify p.fence text number).kind = .fenceClose :=
    fun h => hfence ((Line.kind_classify_eq_fenceClose_iff p.fence text number).1 h)
  rw [value_run_takeLine, Phase.next?_of_isFenced hphase, if_neg hkind]
  dsimp only
  rw [value_run_enter_fenced { p with number } hdraft, Line.content_classify]

end Takes

/-! ## Many lines -/

/-- The properties there will be if lines of the given roles follow: those that are finished, the
    one that is growing with the lines that continue it, and those that come after it. -/
def prospect (finished : List Property) (draft : Draft) (rs : List Role) : List Property :=
  finished ++ ⟨draft.key, Text.unlines (draft.lines ++ further rs)⟩ :: gather rs

theorem prospect_nil (finished : List Property) (draft : Draft) :
    prospect finished draft [] = finished ++ [draft.finish] := by
  rw [prospect, further_nil, gather, List.append_nil, Draft.finish]

/-- If nothing more comes, the growing property is the last of those that lines
    declare. -/
theorem finish_of_prospect {finished : List Property} {draft : Draft} {rs : List Role}
    (h : ∀ more, prospect finished draft more = gather (rs ++ more)) :
    finished ++ [draft.finish] = gather rs := by
  have hnone := h []
  rw [prospect_nil, List.append_nil] at hnone
  exact hnone

/-- Taking a line leaves the prospect as it was. The line passes from those that follow to what
    has been read, and this is the invariant that a whole run carries. -/
theorem prospect_advance (number : Int) (finished : List Property) (draft : Draft) (r : Role)
    (rs : List Role) :
    prospect (advance number finished draft r).1 (advance number finished draft r).2 rs =
      prospect finished draft (r :: rs) := by
  cases r with
  | declares key value =>
      simp only [advance, prospect, further_declares, gather, Draft.finish, List.append_nil,
        List.append_assoc, List.singleton_append]
  | continues line =>
      simp only [advance, prospect, further_continues, gather, Draft.append, List.append_assoc,
        List.singleton_append]

/-- After a declaration no line fails. The line has the role that the outline
    gives it, and the fence after it is that of the outline. -/
theorem takeLine_amid {p : Parser} {fence : Option Fence} {draft : Draft} (h : Amid p fence draft)
    (text : String) :
    ∃ q draft', (p.run (takeLine (p.number + 1) text)).value = (.ok (), q) ∧
      q.number = p.number + 1 ∧ Amid q (Fence.after fence (Text.strip text)) draft' ∧
      (q.properties, draft') =
        advance (p.number + 1) p.properties draft (.of fence (Text.strip text)) ∧
      (Rests p → Rests q) := by
  rcases h with ⟨hdraft, hfence, hfenced, haccepting, hnumber⟩
  rcases fence with _ | fence
  · -- Outside a fence the line is what it looks like.
    have hnext := Phase.next?_of_isAccepting haccepting
    rw [Option.map_none] at hfence
    rcases hd : declaration? (Text.strip text).toList with _ | ⟨key, value⟩
    · rw [Role.of_of_not_declaration none hd]
      rcases hf : fenceRun? (Text.strip text).toList with _ | run
      · -- A text neither opens a fence nor declares.
        refine ⟨_, draft.append (Text.strip text), takeLine_text _ hnext.2.2 hdraft hfence hd hf,
          rfl, ?_, rfl, id⟩
        rw [Fence.after, hf, Option.map_none]
        exact ⟨rfl, hfence, rfl, rfl, by simp⟩
      · refine ⟨_, draft.append (Text.strip text), takeLine_fenceOpen _ hnext.2.1 hdraft hfence hf,
          rfl, ?_, rfl, fun _ hnone => absurd hnone (by simp)⟩
        rw [Fence.after, hf, Option.map_some]
        exact ⟨rfl, rfl, rfl, rfl, by simp⟩
    · rw [Role.of_none_of_declaration hd, Fence.after_none_of_declaration hd]
      refine ⟨_, ⟨.ofList key, [.ofList value], p.number + 1⟩,
        takeLine_declaration _ hnext.1 hfence hd, rfl, ⟨rfl, hfence, rfl, rfl, by simp⟩, ?_, id⟩
      rw [advance, hdraft]
      rfl
  · -- Inside a fence only its run is told from other lines.
    rw [Option.map_some] at hfence
    rw [Role.of_some, Fence.after]
    by_cases hrun : Text.strip text = fence.run
    · rw [if_pos hrun]
      refine ⟨_, draft.append (Text.strip text),
        takeLine_fenceClose _ hfenced hdraft (by rw [hfence, hrun]), rfl,
        ⟨rfl, rfl, rfl, rfl, by simp⟩, rfl, fun _ _ => rfl⟩
    · have hne : p.fence ≠ some (Text.strip text) := by
        rw [hfence, Ne, Option.some.injEq]
        exact Ne.symm hrun
      rw [if_neg hrun]
      refine ⟨_, draft.append (Text.strip text), takeLine_fenced _ hfenced hdraft hne, rfl,
        ⟨rfl, hfence, rfl, rfl, ?_⟩, rfl, id⟩
      intro open' hopen
      rw [Option.mem_some_iff] at hopen
      -- The fence is older by the line that came.
      have hage := hnumber fence rfl
      rw [← hopen]
      dsimp only
      rw [hage]
      omega

/-- After a declaration no lines fail, and they do what the outline says,
    whatever is still to come after them. -/
theorem takeLines_amid {p : Parser} {fence : Option Fence} {draft : Draft}
    (h : Amid p fence draft) (texts : List String) :
    ∃ q draft', (p.run (takeLines (p.number + 1) texts)).value = (.ok (), q) ∧
      q.number = p.number + texts.length ∧
      Amid q (Fence.scan fence (texts.map Text.strip)) draft' ∧
      (∀ more, prospect q.properties draft' more =
        prospect p.properties draft (roles fence (texts.map Text.strip) ++ more)) ∧
      (Rests p → Rests q) := by
  induction texts generalizing p fence draft with
  | nil =>
      refine ⟨p, draft, rfl, ?_, h, fun _ => rfl, id⟩
      simp
  | cons text texts ih =>
      -- The first line is one step, and the parser after it is amid the source again.
      rcases takeLine_amid h text with ⟨m, dm, hm, hnumber, hamid, hadvance, hrests⟩
      rcases ih hamid with ⟨q, dq, hq, hqnumber, hqamid, hqprospect, hqrests⟩
      refine ⟨q, dq, ?_, ?_, hqamid, ?_, fun hr => hqrests (hrests hr)⟩
      · rw [run_takeLines_cons, Logged.value_bind, hm, resume_ok, ← hnumber]
        exact hq
      · rw [hqnumber, hnumber, List.length_cons]
        omega
      · intro more
        rw [hqprospect, List.map_cons, roles, List.cons_append,
          ← prospect_advance (p.number + 1) p.properties draft, ← hadvance]

/-! ## From the first line on -/

/-- A parser before its first line. Nothing is said of what it was used for before: the fence
    number may be left over, as it is set before it is read. -/
structure Fresh (p : Parser) : Prop where
  phase_eq : p.phase = .start
  properties_eq : p.properties = []
  draft_eq : p.draft = none
  fence_eq : p.fence = none

theorem fresh_reset (p : Parser) : Fresh p.reset := ⟨rfl, rfl, rfl, rfl⟩

/-- A source starts with a declaration. -/
theorem takeLine_fresh {p : Parser} (h : Fresh p) {text : String} {key value : List Char}
    (hd : declaration? (Text.strip text).toList = some (key, value)) (number : Int) :
    ∃ q, (p.run (takeLine number text)).value = (.ok (), q) ∧ q.number = number ∧
      Amid q none ⟨.ofList key, [.ofList value], number⟩ ∧ q.properties = [] ∧
      (Rests p → Rests q) := by
  have hnext : p.phase.next? .declaration = some .declared := by
    rw [h.phase_eq]
    rfl
  refine ⟨_, takeLine_declaration number hnext h.fence_eq hd, rfl,
    ⟨rfl, h.fence_eq, rfl, rfl, by simp⟩, ?_, id⟩
  rw [h.properties_eq, h.draft_eq]
  rfl

/-- A source that starts with anything else is refused at once. At the start there is no property
    that a text or a fence could belong to. -/
theorem takeLine_fresh_failure {p : Parser} (h : Fresh p) {text : String}
    (hd : declaration? (Text.strip text).toList = none) (number : Int) :
    (p.run (takeLine number text)).value =
      (.error (.noDeclaration number), { p with number, phase := .failed }) := by
  have hnext : p.phase.next? (Line.classify p.fence text number).kind = none := by
    rw [h.phase_eq, h.fence_eq]
    rcases hf : fenceRun? (Text.strip text).toList with _ | run
    · rw [Line.classify_none_of_text hd hf]
      rfl
    · rw [Line.classify_none_of_fenceRun hf]
      rfl
  rw [value_run_takeLine, hnext]
  dsimp only
  rw [if_pos h.phase_eq]

/-- If the first line declares, all lines are taken, and the parser ends where
    the outline ends. -/
theorem takeLines_fresh {p : Parser} (h : Fresh p) {text : String} {captured : List Char × List Char}
    (hd : declaration? (Text.strip text).toList = some captured) (texts : List String) :
    ∃ q draft, (p.run (takeLines 1 (text :: texts))).value = (.ok (), q) ∧
      q.number = (text :: texts).length ∧
      Amid q (Fence.scan none ((text :: texts).map Text.strip)) draft ∧
      (∀ more, prospect q.properties draft more =
        gather (roles none ((text :: texts).map Text.strip) ++ more)) ∧
      (Rests p → Rests q) := by
  rcases captured with ⟨key, value⟩
  rcases takeLine_fresh h hd 1 with ⟨m, hm, hnumber, hamid, hproperties, hrests⟩
  rcases takeLines_amid hamid texts with ⟨q, draft, hq, hqnumber, hqamid, hqprospect, hqrests⟩
  refine ⟨q, draft, ?_, ?_, ?_, ?_, fun hr => hqrests (hrests hr)⟩
  · rw [hnumber] at hq
    rw [run_takeLines_cons, Logged.value_bind, hm, resume_ok]
    exact hq
  · rw [hqnumber, hnumber, List.length_cons]
    omega
  · rw [List.map_cons, Fence.scan_cons, Fence.after_none_of_declaration hd]
    exact hqamid
  · -- What the first line declares is the first that the outline gathers.
    intro more
    rw [hqprospect, hproperties, List.map_cons, roles, Role.of_none_of_declaration hd,
      Fence.after_none_of_declaration hd]
    rfl

/-- If the first line does not declare, no other line is looked at. -/
theorem takeLines_fresh_failure {p : Parser} (h : Fresh p) {text : String}
    (hd : declaration? (Text.strip text).toList = none) (texts : List String) :
    (p.run (takeLines 1 (text :: texts))).value =
      (.error (.noDeclaration 1), { p with number := 1, phase := .failed }) := by
  rw [run_takeLines_cons, Logged.value_bind, takeLine_fresh_failure h hd, resume_error,
    Logged.value_pure]

/-! ## The end of the source -/

/-- Outside a fence the growing property is finished. -/
theorem finishInput_closed {p : Parser} {draft : Draft} (h : Amid p none draft) :
    (p.run finishInput).value = (.ok (),
      { p with
        phase := .ended
        properties := p.properties ++ [draft.finish]
        draft := none }) := by
  have haccepting : p.phase.isAccepting = true := h.accepting_eq
  rw [run_finishInput, if_pos haccepting, value_run_enter_ended, h.draft_eq]
  rfl

/-- Inside a fence the source must not end. The report names the line that opened it and the last
    line. -/
theorem finishInput_open {p : Parser} {fence : Fence} {draft : Draft}
    (h : Amid p (some fence) draft) :
    (p.run finishInput).value =
      (.error (.unclosedFence (p.number - fence.age) p.number), { p with phase := .failed }) := by
  have hopen : p.isOpen = true := by
    rw [isOpen, h.fence_eq]
    rfl
  rw [run_finishInput, if_neg (by simp [h.accepting_eq]), if_pos hopen,
    h.fenceNumber_eq fence rfl, Logged.value_pure]

end Parser

end Stencil.Block
