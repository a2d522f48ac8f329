import Stencil.Proofs.Block.InStep
import Stencil.Proofs.Occurrence

/-!
# The Outcome of Parsing

Which texts are codeblocks, and why the others are not.

`verdict` says how parsing ends in terms of the outline, and
`outcome_run_parse` that it ends so, on every parser and whatever was parsed
with it before. The four ways to fail are tried in order: there is nothing to
read, the first line does not declare, a fence is left open, a key is declared
twice. A later check is made only if the earlier ones are passed, so at most
one failure is reported and no other one exists.

Two of the failures carry data that is not on the line where they are noticed.
A fence that is left open is noticed at the end but reported with the line
that opened it; keys are compared at the very end and reported in the order in
which they were first declared. `outcome_parse` states these data on their
own, without the scan's age and without the function that finds the keys.

## Main definitions

* `verdict`: How parsing ends, from the outline.
* `Started`: Lines of which the first one declares.
* `IsCodeblock`: The lines for which it ends well.

## Theorems

* `pairwise_idxOf_duplicates`: Repeated keys come in the order of their first occurrence.
* `mem_duplicates_iff`, `duplicates_eq_nil_iff`: Which keys are repeated.
* `verdict_eq_ok_iff`, `verdict_eq_unclosedFence_iff`: Two ways for it to end.
* `verdict_append`: Lines below others are read as if they stood alone.
* `outcome_run_parse`: Parsing ends as the outline says, on any parser.
* `outcome_parse_eq_ok_iff`: The texts that are codeblocks, and their properties.
* `outcome_parse`: The failures, their order and their data.
-/

namespace Stencil.Block

namespace Parser

/-! ## Repeated keys -/

/-- Repeated keys come in the order of their first occurrence. -/
theorem pairwise_idxOf_duplicates (keys : List String) :
    (duplicates keys).Pairwise fun a b => keys.idxOf a < keys.idxOf b :=
  (pairwise_idxOf_eraseDups keys).filter _

/-- The repeated keys are those that occur at least twice. -/
theorem mem_duplicates_iff (keys : List String) (key : String) :
    key ∈ duplicates keys ↔ 2 ≤ keys.count key := by
  rw [duplicates, List.mem_filter, List.mem_eraseDups, decide_eq_true_eq]
  constructor
  · exact fun h => h.2
  · intro h
    exact ⟨List.count_pos_iff.1 (by omega), h⟩

theorem duplicates_eq_nil_iff (keys : List String) : duplicates keys = [] ↔ keys.Nodup := by
  rw [List.eq_nil_iff_forall_not_mem, List.nodup_iff_count_le_one]
  constructor
  · intro h key
    have hkey := h key
    rw [mem_duplicates_iff] at hkey
    omega
  · intro h key hmem
    rw [mem_duplicates_iff] at hmem
    have hle := h key
    omega

end Parser

/-! ## The verdict -/

/-- How parsing ends, given the stripped lines of a text that is not blank. The order of the cases
    is the order in which faults come to light: at the first line, at the end of the text, and
    when all properties are there. -/
def verdict (lines : List String) : Except Error (List Property) :=
  match lines.head?.bind fun line => declaration? line.toList with
  | none => .error (.noDeclaration 1)
  | some _ =>
    match Fence.scan none lines with
    | some fence => .error (.unclosedFence (lines.length - fence.age) lines.length)
    | none =>
      if (declaredKeys lines).Nodup then .ok (gather (roles none lines))
      else .error (.duplicateKeys (Parser.duplicates (declaredKeys lines)))

/-- The first line declares. -/
def Started (lines : List String) : Prop :=
  ∃ captured, (lines.head?.bind fun line => declaration? line.toList) = some captured

namespace Started

variable {lines : List String}

/-- What follows does not change how lines start. -/
theorem append (h : Started lines) (more : List String) : Started (lines ++ more) := by
  rcases h with ⟨captured, hd⟩
  cases lines with
  | nil => exact absurd hd (by simp)
  | cons line lines => exact ⟨captured, hd⟩

/-- A line that declares is not empty. -/
theorem head?_ne_empty (h : Started lines) : lines.head? ≠ some "" := by
  rcases h with ⟨captured, hd⟩
  intro hempty
  rw [hempty] at hd
  exact absurd hd (by simp [declaration?])

/-- A text that starts with a declaration is not blank. -/
theorem strip_ne_empty {text : String} (h : Started (Text.strippedLines (Text.strip text))) :
    Text.strip text ≠ "" := by
  intro hblank
  rw [hblank] at h
  exact h.head?_ne_empty (by decide)

end Started

/-- Stripped lines that are a codeblock: each of the three faults that parsing can end with is
    ruled out by one of the fields. -/
structure IsCodeblock (lines : List String) : Prop where
  /-- The first line declares. -/
  declares : ∃ captured, (lines.head?.bind fun line => declaration? line.toList) = some captured
  /-- No fence is left open. -/
  closed : Fence.scan none lines = none
  /-- No key is declared twice. -/
  distinct : (declaredKeys lines).Nodup

/-- The lines of a codeblock, and no others, give properties: the first one declares, no fence is
    left open, and no key is declared twice. -/
theorem verdict_eq_ok_iff (lines : List String) (ps : List Property) :
    verdict lines = .ok ps ↔ IsCodeblock lines ∧ gather (roles none lines) = ps := by
  unfold verdict
  constructor
  · intro h
    -- The verdict asks three questions, and the lines are those of a codeblock if each is answered
    -- well.
    rcases hd : lines.head?.bind fun line => declaration? line.toList with _ | captured
    · rw [hd] at h
      exact absurd h (by simp)
    · rw [hd] at h
      dsimp only at h
      split at h
      · exact absurd h (by simp)
      · rename_i hclosed
        split at h
        · rename_i hdistinct
          exact ⟨⟨⟨captured, hd⟩, hclosed, hdistinct⟩, Except.ok.inj h⟩
        · exact absurd h (by simp)
  · rintro ⟨⟨⟨captured, hd⟩, hclosed, hdistinct⟩, rfl⟩
    rw [hd]
    dsimp only
    rw [hclosed]
    dsimp only
    rw [if_pos hdistinct]

/-- Lines that leave a fence open are those that give this failure, if the first
    one declares. -/
theorem verdict_eq_unclosedFence_iff (lines : List String) (opened number : Int) :
    verdict lines = .error (.unclosedFence opened number) ↔
      Started lines ∧ ∃ fence, Fence.scan none lines = some fence ∧
        opened = lines.length - fence.age ∧ number = lines.length := by
  unfold verdict
  constructor
  · intro h
    rcases hd : lines.head?.bind fun line => declaration? line.toList with _ | captured
    · rw [hd] at h
      exact absurd h (by simp)
    · rw [hd] at h
      dsimp only at h
      refine ⟨⟨captured, hd⟩, ?_⟩
      -- An open fence is asked for before repeated keys are.
      split at h
      · rename_i fence hfence
        simp only [Except.error.injEq, Error.unclosedFence.injEq] at h
        exact ⟨fence, hfence, h.1.symm, h.2.symm⟩
      · split at h
        · exact absurd h (by simp)
        · exact absurd h (by simp)
  · rintro ⟨⟨captured, hd⟩, fence, hfence, rfl, rfl⟩
    rw [hd]
    dsimp only
    rw [hfence]

/-- Below lines that start with a declaration and leave no fence open, other
    lines are read as if they stood alone. -/
theorem verdict_append {lines : List String} (hstarted : Started lines)
    (hclosed : Fence.scan none lines = none) (more : List String) :
    verdict (lines ++ more) = match Fence.scan none more with
      | some fence => .error (.unclosedFence (lines.length + more.length - fence.age)
          (lines.length + more.length))
      | none =>
        if (declaredKeys lines ++ declaredKeys more).Nodup then
          .ok (gather (roles none lines ++ roles none more))
        else .error (.duplicateKeys
          (Parser.duplicates (declaredKeys lines ++ declaredKeys more))) := by
  rcases hstarted.append more with ⟨captured, hd⟩
  rw [verdict, hd]
  dsimp only
  -- What the lines above leave behind is no open fence, so the others start as a text of their own
  -- does.
  rw [Fence.scan_append, roles_append, declaredKeys_append hclosed, hclosed, List.length_append,
    Int.natCast_add]

namespace Parser

/-- A blank source is refused before anything is read. -/
theorem run_parse_blank {p : Parser} (h : Text.strip p.source = "") :
    p.run parse = pure (.error .blank, p) := by
  rw [parse, run_get_bind]
  dsimp only
  rw [if_pos (by rw [h]; rfl), run_throw_bind]

/-- Keys are compared when all properties are finished. -/
theorem value_run_checkKeys (p : Parser) (next : Parser → Action (List Property))
    (hnext : ∀ q : Parser, (q.run (next q)).value = (.ok q.properties, q)) :
    (p.run (checkKeys >>= fun _ => get >>= next)).value.1 =
      if (p.properties.map Property.key).Nodup then .ok p.properties
      else .error (.duplicateKeys (duplicates (p.properties.map Property.key))) := by
  rw [run_bind, run_checkKeys, pure_bind]
  by_cases hkeys : (p.properties.map Property.key).Nodup
  · rw [if_pos hkeys, if_pos ((duplicates_eq_nil_iff _).2 hkeys), resume_ok, run_get_bind, hnext]
  · rw [if_neg hkeys, if_neg (fun h => hkeys ((duplicates_eq_nil_iff _).1 h)), resume_error,
      Logged.value_pure]

/-- Parsing ends as the outline says, whatever the parser did before. What carries this is that a
    parser follows the outline line by line: a first line that declares takes it amid the source,
    and from there no line fails. -/
theorem outcome_run_parse (p : Parser) :
    (p.run parse).value.1 =
      if Text.strip p.source = "" then .error .blank
      else verdict (Text.strippedLines (Text.strip p.source)) := by
  by_cases hblank : Text.strip p.source = ""
  · rw [if_pos hblank, run_parse_blank hblank, Logged.value_pure]
  · have hne : ¬ (Text.strip p.source).isEmpty = true := by
      rw [String.isEmpty_iff]
      exact hblank
    rw [if_neg hblank, parse, run_get_bind]
    dsimp only
    rw [if_neg hne, run_modify_bind, run_say_bind, Logged.value_bind, run_bind, Logged.value_bind,
      Text.strippedLines]
    rcases hlines : Text.lines (Text.strip p.source) with _ | ⟨text, texts⟩
    · exact absurd hlines (Text.lines_ne_nil _)
    · unfold verdict
      rw [List.map_cons, List.head?_cons, Option.bind_some, ← List.map_cons]
      rcases hd : declaration? (Text.strip text).toList with _ | captured
      · -- The first line does not declare, and is refused.
        rw [takeLines_fresh_failure (fresh_reset p) hd, resume_error, Logged.value_pure]
      · rcases takeLines_fresh (fresh_reset p) hd texts with
          ⟨q, draft, hq, hnumber, hamid, hprospect, -⟩
        -- All lines are taken. What is finished then, and what still grows, is what the outline
        -- gathers.
        have hgather := finish_of_prospect hprospect
        rw [hq, resume_ok, run_bind, Logged.value_bind]
        rcases hfence : Fence.scan none ((text :: texts).map Text.strip) with _ | fence
        · rw [hfence] at hamid
          -- No fence is open, so the last property is finished and the keys are looked at.
          have hkeys : (q.properties ++ [draft.finish]).map Property.key
              = declaredKeys ((text :: texts).map Text.strip) := by
            rw [hgather, map_key_gather, declaredKeys]
          rw [finishInput_closed hamid, resume_ok, value_run_checkKeys]
          · rw [hkeys, hgather]
          · intro m
            rw [run_say_bind, Logged.value_bind, run_pure, Logged.value_pure]
        · rw [hfence] at hamid
          -- A fence is open, and the keys are not looked at any more.
          rw [finishInput_open hamid, resume_error, Logged.value_pure, hnumber, List.length_map]

/-- The same for the properties of a text. -/
theorem outcome_parse_eq (text : String) (debug : Bool) :
    (Block.parse text debug).outcome =
      if Text.strip text = "" then .error .blank
      else verdict (Text.strippedLines (Text.strip text)) := by
  have hrun : (Block.parse text debug).outcome = (run { source := text, debug } parse).value.1 := by
    rw [Block.parse, Trace.outcome, ExceptT.run_mk, Logged.value_bind, Logged.value_pure]
  rw [hrun, outcome_run_parse]

/-- The texts that are codeblocks, and their properties. This is the form in which results about
    parsed texts use the verdict. -/
theorem outcome_parse_eq_ok_iff (text : String) (debug : Bool) (ps : List Property) :
    (Block.parse text debug).outcome = .ok ps ↔
      Text.strip text ≠ "" ∧ IsCodeblock (Text.strippedLines (Text.strip text)) ∧
        gather (roles none (Text.strippedLines (Text.strip text))) = ps := by
  rw [outcome_parse_eq]
  by_cases hblank : Text.strip text = ""
  · rw [if_pos hblank]
    constructor
    · exact fun h => absurd h (by simp)
    · exact fun h => absurd hblank h.1
  · rw [if_neg hblank, verdict_eq_ok_iff]
    exact ⟨fun h => ⟨hblank, h⟩, fun h => h.2⟩

end Parser

/-- A text that is not blank and does not fail starts with a declaration, and
    its fences can be followed from the second line on. -/
theorem scan_eq_scan_tail {lines : List String} {captured : List Char × List Char}
    (h : (lines.head?.bind fun line => declaration? line.toList) = some captured) :
    Fence.scan none lines = Fence.scan none lines.tail := by
  rcases lines with _ | ⟨line, lines⟩
  · rfl
  · rw [List.head?_cons, Option.bind_some] at h
    rw [Fence.scan_cons, Fence.after_none_of_declaration h, List.tail_cons]

/-- The open fence was opened on a line after the first, outside all other
    fences, and its age leads back to the number of that line. -/
theorem exists_opening_line {lines : List String} {fence : Fence}
    (h : Fence.scan none lines.tail = some fence) :
    ∃ earlier line later, lines.tail = earlier ++ line :: later ∧
      Fence.scan none earlier = none ∧ fenceRun? line.toList = some fence.run.toList ∧
      fence.run ∉ later ∧ (lines.length : Int) - fence.age = earlier.length + 2 := by
  rcases (Fence.scan_eq_some_iff _ _).1 h with
    ⟨earlier, line, later, htail, hout, hrun, hnot, hage⟩
  refine ⟨earlier, line, later, htail, hout, hrun, hnot, ?_⟩
  have hlength := congrArg List.length htail
  rw [List.length_tail, List.length_append, List.length_cons] at hlength
  omega

/-- The complete outcome of parsing, as a host is told it. The failures are
    tried in this order: a blank text, a first line that does not declare, a
    fence that is left open, repeated keys. The line reported for a fence is
    the one that opened it; the keys reported are those declared at least
    twice, each once, in the order in which they were first declared. -/
theorem outcome_parse (text : String) (debug : Bool) :
    let lines := Text.strippedLines (Text.strip text)
    let keys := declaredKeys lines
    let repeated := Parser.duplicates keys
    (parse text debug).outcome.mapError Error.report? =
      (if Text.strip text = "" then
        .error (some (.emptySource "Codeblock is empty or has only whitespaces."))
      else if (lines.head?.bind fun line => declaration? line.toList) = none then
        .error (some (.badSource "Codeblock must start with a property (key: value)." (some 1)))
      else match Fence.scan none lines.tail with
        | some fence =>
          .error (some (.badSource ("Unexpected end of input: unclosed code fence opened at line " ++
            toString ((lines.length : Int) - fence.age) ++ ".") (some lines.length)))
        | none =>
          if repeated = [] then .ok (gather (roles none lines))
          else .error (some (.duplicateKeys repeated))) ∧
    (∀ fence, Fence.scan none lines.tail = some fence →
      ∃ earlier line later, lines.tail = earlier ++ line :: later ∧
        Fence.scan none earlier = none ∧ fenceRun? line.toList = some fence.run.toList ∧
        fence.run ∉ later ∧ (lines.length : Int) - fence.age = earlier.length + 2) ∧
    (∀ key, key ∈ repeated ↔ 2 ≤ keys.count key) ∧
    repeated.Pairwise fun a b => keys.idxOf a < keys.idxOf b := by
  intro lines keys repeated
  -- The last three parts say what the fence and the keys of the first part are, and are about
  -- lists of lines alone.
  refine ⟨?_, fun _ => exists_opening_line, Parser.mem_duplicates_iff keys,
    Parser.pairwise_idxOf_duplicates keys⟩
  rw [Parser.outcome_parse_eq]
  by_cases hblank : Text.strip text = ""
  · rw [if_pos hblank, if_pos hblank]
    rfl
  · rw [if_neg hblank, if_neg hblank, verdict]
    rcases hd : lines.head?.bind fun line => declaration? line.toList with _ | captured
    · rw [if_pos rfl]
      rfl
    · have hsome : ¬ (some captured = none) := by simp
      rw [if_neg hsome]
      dsimp only
      -- The first line declares, so it makes no difference to the fences.
      rw [scan_eq_scan_tail hd]
      rcases Fence.scan none lines.tail with _ | fence
      · dsimp only
        by_cases hkeys : keys.Nodup
        · rw [if_pos hkeys, if_pos ((Parser.duplicates_eq_nil_iff keys).2 hkeys)]
          rfl
        · rw [if_neg hkeys, if_neg (fun h => hkeys ((Parser.duplicates_eq_nil_iff keys).1 h))]
          rfl
      · rfl

/-- A fence that a longer run does not close, and a key that is repeated too
    late to be reported. -/
theorem outcome_parse_unclosed :
    let text := "a: 1\n\x60\x60\x60\nb: 2\n\x60\x60\x60\x60\na: 3"
    let lines := Text.strippedLines (Text.strip text)
    (parse text false).outcome.mapError Error.report? =
      .error (some (.badSource "Unexpected end of input: unclosed code fence opened at line 2."
        (some 5))) ∧
    Fence.scan none lines.tail = some ⟨"\x60\x60\x60", 3⟩ ∧
    ∃ earlier line later, lines.tail = earlier ++ line :: later ∧
      Fence.scan none earlier = none ∧
      fenceRun? line.toList = some "\x60\x60\x60".toList ∧
      "\x60\x60\x60" ∉ later ∧ (lines.length : Int) - (3 : Nat) = earlier.length + 2 := by
  intro text lines
  have hopen : Fence.scan none lines.tail = some ⟨"\x60\x60\x60", 3⟩ := by decide
  have hlength : lines.length = 5 := by decide
  have hblank : ¬ Text.strip text = "" := by decide
  have hfirst : ¬ (lines.head?.bind fun line => declaration? line.toList) = none := by decide
  rcases outcome_parse text false with ⟨houtcome, hfence, -, -⟩
  refine ⟨?_, hopen, hfence _ hopen⟩
  rw [houtcome, if_neg hblank, if_neg hfirst, hopen, hlength]
  decide

end Stencil.Block
