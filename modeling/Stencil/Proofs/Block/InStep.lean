import Stencil.Proofs.Block.Following

/-!
# Phase, Fence and Draft in Step

What holds of a parser after every line of every run.

The phase table is safe only as long as three things change together. A
closing line can be reported only while a run is remembered, and the table has
an entry for it only in the phases inside a fence; a line can be added only
while a property grows; and a source may end only outside a fence. Each of
these is set by a different effect, so nothing in the table itself says that
they agree. `InStep` says what a caller can see of their agreement, and
`takeLines_inStep` that it holds after every line that was taken, with the
failures that are left for a run as its second half.

The invariant behind it is `Parser.Amid`, which follows the outline line by
line. What is new here is the way back from the outline to the lines: the age
of the open fence leads to the line that opened it, and the roles to the keys.

## Main definitions

* `InStep`: Phase, fence, fence number and draft agree about the lines so far.

## Theorems

* `inStep_of_amid`: A parser that follows the outline is in step.
* `inStep_of_takeLine`: A fresh parser is in step after every line that it takes.
* `error_of_takeLines_finishInput`: What is left that may fail.
* `takeLines_inStep`: Every parser is in step after every line.
-/

namespace Stencil.Block

namespace Parser

/-- Phase, fence, fence number and draft agree about the lines so far. They are kept separately by
    the parser, which relies on them to agree without a check. -/
structure InStep (p : Parser) (lines : List String) : Prop where
  /-- A fence is open in the phases inside a fence. -/
  isOpen_iff : p.isOpen = true ↔ p.phase = .fenceOpened ∨ p.phase = .fenced
  /-- The open fence is closed by the backticks that the numbered line starts
      with, and by nothing else. -/
  closing : p.isOpen = true →
    ∃ (i : Nat) (line : String), lines[i]? = some line ∧ p.fenceNumber = i + 1 ∧
      ∀ text number, (Line.classify p.fence text number).kind = .fenceClose ↔
        (Text.strip text).toList = (Text.strip line).toList.takeWhile isFenceChar
  /-- No line is numbered if no fence is open. -/
  rests : p.isOpen = false → p.fenceNumber = 0
  /-- A property is growing, and the keys are those declared outside fences. -/
  keys : ∃ draft, p.draft = some draft ∧
    p.properties.map Property.key ++ [draft.key] = declaredKeys (lines.map Text.strip)

theorem isOpen_of_amid {p : Parser} {fence : Option Fence} {draft : Draft}
    (h : Amid p fence draft) : p.isOpen = fence.isSome := by
  rw [isOpen, h.fence_eq, Option.isSome_map]

/-- A parser that follows the outline is in step. What the outline says of the lines so far is
    carried from line to line, and each field of this is read off from it. -/
theorem inStep_of_amid {p : Parser} {draft : Draft} {lines : List String}
    (h : Amid p (Fence.scan none (lines.map Text.strip)) draft) (hnumber : p.number = lines.length)
    (hgather : p.properties ++ [draft.finish] = gather (roles none (lines.map Text.strip)))
    (hrests : Rests p) : InStep p lines := by
  have hopen := isOpen_of_amid h
  refine ⟨?_, fun hisOpen => ?_, fun hclosed => hrests ?_, draft, h.draft_eq, ?_⟩
  · rw [hopen, ← h.fenced_eq, Phase.isFenced_iff]
  · -- The age of the fence leads back to the line that opened it.
    rw [hopen, Option.isSome_iff_exists] at hisOpen
    rcases hisOpen with ⟨fence, hfence⟩
    rcases Fence.exists_opening hfence with ⟨i, line, hline, hage, hrun⟩
    refine ⟨i, line, hline, ?_, fun other number => ?_⟩
    · rw [h.fenceNumber_eq fence hfence, hnumber, hage]
    · rw [Line.kind_classify_eq_fenceClose_iff, h.fence_eq, hfence, Option.map_some,
        Option.some.injEq, ← (fenceRun?_eq_some_iff.1 hrun).1, String.toList_inj]
      exact eq_comm
  · rw [isOpen, Option.isSome_eq_false_iff, Option.isNone_iff_eq_none] at hclosed
    exact hclosed
  · -- The outline gathers the properties that are finished and the one that is growing.
    have hkeys := congrArg (List.map Property.key) hgather
    rw [List.map_append, map_key_gather] at hkeys
    exact hkeys

/-- If lines were taken, the first of them declares. -/
theorem exists_declaration_of_takeLines {p q : Parser} (h : Fresh p) {text : String}
    {texts : List String} (hq : (p.run (takeLines 1 (text :: texts))).value = (.ok (), q)) :
    ∃ captured, declaration? (Text.strip text).toList = some captured := by
  rcases hd : declaration? (Text.strip text).toList with _ | captured
  · rw [takeLines_fresh_failure h hd] at hq
    exact absurd hq (by simp)
  · exact ⟨captured, rfl⟩

/-- A line is taken after others by taking them all. -/
theorem value_run_takeLines_concat {p m : Parser} {earlier : List String}
    (h : (p.run (takeLines 1 earlier)).value = (.ok (), m)) (line : String) :
    (p.run (takeLines 1 (earlier ++ [line]))).value =
      (m.run (takeLine (earlier.length + 1) line)).value := by
  have hnumber : (1 : Int) + earlier.length = earlier.length + 1 := Int.add_comm ..
  rw [takeLines_append, run_bind, Logged.value_bind, h, resume_ok, run_takeLines_cons,
    Logged.value_bind, hnumber]
  rcases (m.run (takeLine (earlier.length + 1) line)).value with ⟨e | _, q⟩
  · rfl
  · rfl

/-- A line finishes the growing property or none. -/
theorem exists_finished (number : Int) (finished : List Property) (draft : Draft) (r : Role) :
    ∃ more, (advance number finished draft r).1 = finished ++ more ∧ more.length ≤ 1 := by
  cases r with
  | declares key value => exact ⟨[draft.finish], rfl, Nat.le_refl 1⟩
  | continues line => exact ⟨[], (List.append_nil finished).symm, Nat.zero_le 1⟩

section Run

variable {p₀ : Parser} (hfresh : Fresh p₀)

include hfresh

/-- A parser is in step after every line that it takes. -/
theorem inStep_of_takeLine (hrests : Rests p₀) {earlier : List String} {line : String}
    {p q : Parser} (hp : (p₀.run (takeLines 1 earlier)).value = (.ok (), p))
    (hq : (p.run (takeLine (earlier.length + 1) line)).value = (.ok (), q)) :
    InStep q (earlier ++ [line]) := by
  -- The line and those before it are one run from a fresh parser.
  have hall := value_run_takeLines_concat hp line
  rw [hq] at hall
  rcases hlines : earlier ++ [line] with _ | ⟨text, texts⟩
  · exact absurd hlines (by simp)
  · rw [hlines] at hall
    rcases exists_declaration_of_takeLines hfresh hall with ⟨captured, hd⟩
    rcases takeLines_fresh hfresh hd texts with ⟨m, draft, hm, hnumber, hamid, hprospect, hr⟩
    rw [hm, Prod.mk.injEq] at hall
    rw [← hall.2]
    exact inStep_of_amid hamid hnumber (finish_of_prospect hprospect) (hr hrests)

/-- Every line finishes at most one property. The first line has none to finish; each later one
    finishes the growing property if it declares, and none otherwise. -/
theorem exists_finished_of_takeLine {earlier : List String} {line : String} {p q : Parser}
    (hp : (p₀.run (takeLines 1 earlier)).value = (.ok (), p))
    (hq : (p.run (takeLine (earlier.length + 1) line)).value = (.ok (), q)) :
    ∃ finished, q.properties = p.properties ++ finished ∧ finished.length ≤ 1 := by
  cases earlier with
  | nil =>
      rw [takeLines, run_pure, Logged.value_pure, Prod.mk.injEq] at hp
      rw [← hp.2] at hq ⊢
      -- At the start, the line declares or is refused.
      rcases hd : declaration? (Text.strip line).toList with _ | captured
      · rw [takeLine_fresh_failure hfresh hd] at hq
        exact absurd hq (by simp)
      · rcases takeLine_fresh hfresh hd 1 with ⟨m, hm, -, -, hproperties, -⟩
        have hone : (([] : List String).length : Int) + 1 = 1 := rfl
        rw [hone, hm, Prod.mk.injEq] at hq
        rw [← hq.2, hproperties, hfresh.properties_eq]
        exact ⟨[], rfl, Nat.zero_le 1⟩
  | cons text texts =>
      -- The run before the line succeeded, so its first line declares and the outline says where
      -- the parser is.
      rcases exists_declaration_of_takeLines hfresh hp with ⟨captured, hd⟩
      rcases takeLines_fresh hfresh hd texts with ⟨m, draft, hm, hnumber, hamid, -, -⟩
      rw [hm, Prod.mk.injEq] at hp
      rw [hp.2] at hnumber hamid
      rcases takeLine_amid hamid line with ⟨n, draft', hn, -, -, hadvance, -⟩
      rw [hnumber, hq, Prod.mk.injEq] at hn
      have hproperties := congrArg Prod.fst hadvance
      dsimp only at hproperties
      rw [hn.2, hproperties]
      exact exists_finished (p.number + 1) p.properties draft _

/-- The failures that are left for a run of lines, and when they come. After a first line that
    declares, no line fails, so what is left is the end of the input. -/
theorem error_of_takeLines_finishInput {lines : List String} (hne : lines ≠ []) {e : Error}
    {q : Parser} (hq : (p₀.run (takeLines 1 lines >>= fun _ => finishInput)).value = (.error e, q)) :
    (e = .noDeclaration 1 ∧
      (lines.head?.bind fun line => declaration? (Text.strip line).toList) = none) ∨
    ∃ fence, Fence.scan none (lines.map Text.strip) = some fence ∧
      e = .unclosedFence (lines.length - fence.age) lines.length := by
  rcases lines with _ | ⟨text, texts⟩
  · exact absurd rfl hne
  · rw [run_bind, Logged.value_bind] at hq
    rw [List.head?_cons, Option.bind_some]
    rcases hd : declaration? (Text.strip text).toList with _ | captured
    · rw [takeLines_fresh_failure hfresh hd, resume_error, Logged.value_pure, Prod.mk.injEq,
        Except.error.injEq] at hq
      exact Or.inl ⟨hq.1.symm, rfl⟩
    · rcases takeLines_fresh hfresh hd texts with ⟨m, draft, hm, hnumber, hamid, -, -⟩
      rw [hm, resume_ok] at hq
      rcases hfence : Fence.scan none ((text :: texts).map Text.strip) with _ | fence
      · rw [hfence] at hamid
        rw [finishInput_closed hamid] at hq
        exact absurd hq (by simp)
      · rw [hfence] at hamid
        rw [finishInput_open hamid, hnumber, Prod.mk.injEq, Except.error.injEq] at hq
        exact Or.inr ⟨fence, rfl, hq.1.symm⟩

end Run

/-- Every parser is in step after every line that it takes, whatever the line
    is, and the line finishes at most one property. A run of lines fails only
    if the first one does not declare, or if a fence is open after the last
    one; no line lacks a transition or a growing property, and no phase is
    entered that has no effects. -/
theorem takeLines_inStep (source : String) (debug : Bool) :
    (∀ (earlier : List String) (line : String) (p q : Parser),
      (run { source, debug } (takeLines 1 earlier)).value = (.ok (), p) →
      (p.run (takeLine (earlier.length + 1) line)).value = (.ok (), q) →
      InStep q (earlier ++ [line]) ∧
        ∃ finished, q.properties = p.properties ++ finished ∧ finished.length ≤ 1) ∧
    ∀ (lines : List String) (e : Error) (q : Parser), lines ≠ [] →
      (run { source, debug } (takeLines 1 lines >>= fun _ => finishInput)).value = (.error e, q) →
      (e = .noDeclaration 1 ∧
        (lines.head?.bind fun line => declaration? (Text.strip line).toList) = none) ∨
      ∃ fence, Fence.scan none (lines.map Text.strip) = some fence ∧
        e = .unclosedFence (lines.length - fence.age) lines.length := by
  -- A new parser has read nothing and has no fence, and both halves follow from that.
  have hfresh : Fresh { source, debug } := ⟨rfl, rfl, rfl, rfl⟩
  have hrests : Rests { source, debug } := fun _ => rfl
  constructor
  · intro earlier line p q hp hq
    exact ⟨inStep_of_takeLine hfresh hrests hp hq, exists_finished_of_takeLine hfresh hp hq⟩
  · intro lines e q hne hq
    exact error_of_takeLines_finishInput hfresh hne hq

/-- A declaration in a fence, where it declares nothing, and the end of the
    input right after it. -/
theorem takeLines_inStep_fenced :
    ∃ p q r : Parser,
      (run { source := "", debug := false } (takeLines 1 ["a: 1", "\x60\x60\x60"])).value
        = (.ok (), p) ∧
      (p.run (takeLine 3 "b: 2")).value = (.ok (), q) ∧
      (InStep q ["a: 1", "\x60\x60\x60", "b: 2"] ∧
        ∃ finished, q.properties = p.properties ++ finished ∧ finished.length ≤ 1) ∧
      (run { source := "", debug := false }
        (takeLines 1 ["a: 1", "\x60\x60\x60", "b: 2"] >>= fun _ => finishInput)).value
        = (.error (.unclosedFence 2 3), r) ∧
      (((.unclosedFence 2 3 : Error) = .noDeclaration 1 ∧
        declaration? (Text.strip "a: 1").toList = none) ∨
      ∃ fence, Fence.scan none (["a: 1", "\x60\x60\x60", "b: 2"].map Text.strip) = some fence ∧
        (.unclosedFence 2 3 : Error) = .unclosedFence ((3 : Nat) - fence.age) (3 : Nat)) := by
  refine ⟨_, _, _, rfl, rfl, ?_, rfl, ?_⟩
  · exact (takeLines_inStep "" false).1 ["a: 1", "\x60\x60\x60"] "b: 2" _ _ rfl rfl
  · exact (takeLines_inStep "" false).2 ["a: 1", "\x60\x60\x60", "b: 2"] _ _ (by simp) rfl

end Parser

end Stencil.Block
