import Stencil.Proofs.Block.Written

/-!
# Properties that are Read Back

Which lists of properties come back when they are written and parsed.

Writing puts a key and a colon before a value and joins everything; it does not
look at what it joins. Parsing strips the whole text and each line, and takes
any line outside a fence that looks like a declaration for one. So a list
comes back only if it does not depend on what parsing takes away, and if no
value holds what parsing would take for something else. `WellFormed` is this
condition, and it is exact in both directions.

That well formed lists come back rests on `roles_flatMap`: the lines of a well
formed property declare it, continue its value, and leave no fence open, so
the next property finds the lines as if it were the first. Conversely only
lists that parsing gives can come back at all, and parsing gives only well
formed ones, `wellFormed_of_parse`, whether or not the text was written by
`serialize`.

## Main definitions

* `Property.WellFormed`: A property that is read back from its own lines.
* `WellFormed`: A list of properties that is read back.

## Theorems

* `roles_flatMap`: Well formed properties are gathered from their lines.
* `parse_of_wellFormed`: Well formed lists are read back.
* `wellFormed_of_parse`: Whatever is parsed is well formed.
* `outcome_parse_serialize`: Well formed lists, and no others, are read back.
-/

namespace Stencil.Block

/-- A property that is read back from its own lines. Values may hold whatever does not look like
    another declaration and leaves no fence open, and their lines must be stripped, since reading
    strips them. -/
structure Property.WellFormed (p : Property) : Prop where
  /-- There is a key. -/
  key_ne : p.key ≠ ""
  /-- The key has small letters and dashes. -/
  isKeyChar_key : ∀ c ∈ p.key.toList, isKeyChar c = true
  /-- No line of the value has an outer blank. -/
  stripped : ∀ line ∈ Text.lines p.value, Text.strip line = line
  /-- No further line of the value declares, and all fences are closed. -/
  enclosed : Enclosed none (Text.lines p.value).tail

/-- A list of properties that is read back. The last field is about the end of the text, where
    empty lines are stripped off. -/
structure WellFormed (ps : List Property) : Prop where
  /-- There is a property. -/
  ne_nil : ps ≠ []
  /-- Each property is read back from its own lines. -/
  each : ∀ p ∈ ps, p.WellFormed
  /-- No key is declared twice. -/
  distinct : (ps.map Property.key).Nodup
  /-- The last line is not empty, unless the last value has no other line. -/
  last : ∀ p, ps.getLast? = some p →
    (Text.lines p.value).length = 1 ∨ (Text.lines p.value).getLast? ≠ some ""

/-! ## Well formed properties are read back -/

/-- The lines of a well formed property, stripped: only the first one changes. -/
theorem strippedLines_declaration {p : Property} (hp : p.WellFormed) {first : String}
    {rest : List String} (h : Text.lines p.value = first :: rest) :
    Text.strippedLines p.declaration = Text.strip (p.key ++ ": " ++ first) :: rest := by
  have hkey := newline_notMem_of_isKeyChar hp.isKeyChar_key
  have hstrip : ∀ line ∈ rest, Text.strip line = id line := by
    intro line hline
    exact hp.stripped line (by rw [h]; exact List.mem_cons_of_mem _ hline)
  rw [Text.strippedLines, lines_declaration p hkey h, List.map_cons, List.map_congr_left hstrip,
    List.map_id]

/-- The lines of a well formed property declare it and continue its value, and
    leave no fence open. -/
theorem roles_declaration {p : Property} (hp : p.WellFormed) {first : String}
    {rest : List String} (h : Text.lines p.value = first :: rest) :
    roles none (Text.strippedLines p.declaration) =
        .declares p.key first :: rest.map .continues ∧
      Fence.scan none (Text.strippedLines p.declaration) = none := by
  have hfirst : first ∈ Text.lines p.value := by
    rw [h]
    exact List.mem_cons_self ..
  have hd := declaration?_strip hp.key_ne hp.isKeyChar_key (hp.stripped first hfirst)
    (Text.newline_notMem_of_mem_lines hfirst)
  -- The first line of the value stands behind the key; the others are enclosed, so none of them
  -- declares.
  have henclosed : Enclosed none rest := by
    have htail := hp.enclosed
    rwa [h, List.tail_cons] at htail
  rcases roles_of_enclosed henclosed with ⟨hroles, hscan⟩
  rw [strippedLines_declaration hp h, roles, Role.of_none_of_declaration hd, Fence.scan_cons,
    Fence.after_none_of_declaration hd, hroles, String.ofList_toList, String.ofList_toList]
  exact ⟨rfl, hscan⟩

/-- Well formed properties are gathered from their lines. No fence is open between two of them, so
    each starts as if it were the first. -/
theorem roles_flatMap {ps : List Property} (hps : ∀ p ∈ ps, p.WellFormed) :
    further (roles none (ps.flatMap fun p => Text.strippedLines p.declaration)) = [] ∧
      gather (roles none (ps.flatMap fun p => Text.strippedLines p.declaration)) = ps ∧
      Fence.scan none (ps.flatMap fun p => Text.strippedLines p.declaration) = none := by
  induction ps with
  | nil => exact ⟨rfl, rfl, rfl⟩
  | cons p ps ih =>
      rw [List.forall_mem_cons] at hps
      rcases ih hps.2 with ⟨hfurther, hgather, hclosed⟩
      rcases hlines : Text.lines p.value with _ | ⟨first, rest⟩
      · exact absurd hlines (Text.lines_ne_nil _)
      · rcases roles_declaration hps.1 hlines with ⟨hroles, hscan⟩
        -- No fence is left open, so the other properties have the roles that they have alone.
        rw [List.flatMap_cons, roles_append, Fence.scan_append, hscan, hroles, List.cons_append,
          gather, further_append, hfurther, List.append_nil, gather_append, hgather, ← hlines,
          Text.unlines_lines]
        exact ⟨rfl, rfl, hclosed⟩

theorem strippedLines_serialize {ps : List Property} (hne : ps ≠ []) :
    Text.strippedLines (serialize ps) = ps.flatMap fun p => Text.strippedLines p.declaration := by
  rw [Text.strippedLines, lines_serialize hne, List.map_flatMap]
  rfl

/-- A well formed list starts with a declaration. -/
theorem head?_strippedLines_serialize {ps : List Property} (h : WellFormed ps) :
    ∃ line key value, (Text.strippedLines (serialize ps)).head? = some line ∧
      declaration? line.toList = some (key, value) ∧ line ≠ "" := by
  rw [strippedLines_serialize h.ne_nil]
  rcases ps with _ | ⟨p, ps⟩
  · exact absurd rfl h.ne_nil
  · have hp := h.each p (List.mem_cons_self ..)
    rcases hlines : Text.lines p.value with _ | ⟨first, rest⟩
    · exact absurd hlines (Text.lines_ne_nil _)
    · have hfirst : first ∈ Text.lines p.value := by
        rw [hlines]
        exact List.mem_cons_self ..
      rw [List.flatMap_cons, strippedLines_declaration hp hlines, List.cons_append, List.head?_cons]
      exact ⟨_, _, _, rfl, declaration?_strip hp.key_ne hp.isKeyChar_key
        (hp.stripped first hfirst) (Text.newline_notMem_of_mem_lines hfirst),
        strip_declaration_ne_empty _ _⟩

/-- A well formed list does not end with an empty line. -/
theorem getLast?_strippedLines_serialize {ps : List Property} (h : WellFormed ps) :
    (Text.strippedLines (serialize ps)).getLast? ≠ some "" := by
  rw [strippedLines_serialize h.ne_nil]
  rcases List.eq_nil_or_concat' ps with hnil | ⟨earlier, p, hps⟩
  · exact absurd hnil h.ne_nil
  · have hp := h.each p (by simp [hps])
    have hlast := h.last p (by simp [hps])
    rcases hlines : Text.lines p.value with _ | ⟨first, rest⟩
    · exact absurd hlines (Text.lines_ne_nil _)
    · rw [hps, List.flatMap_append, List.flatMap_singleton, strippedLines_declaration hp hlines,
        List.getLast?_append_of_ne_nil _ (List.cons_ne_nil _ _)]
      -- If the value has one line only, the last line is that of the declaration, and holds a
      -- colon at least.
      rcases rest with _ | ⟨second, rest⟩
      · rw [List.getLast?_singleton, Ne, Option.some.injEq]
        exact strip_declaration_ne_empty _ _
      · rw [hlines, List.getLast?_cons_cons] at hlast
        rw [List.getLast?_cons_cons]
        exact hlast.resolve_left (by simp)

/-- Well formed lists are read back: what they are written as is a codeblock, and its properties
    are these. -/
theorem parse_of_wellFormed {ps : List Property} (h : WellFormed ps) (debug : Bool) :
    (parse (serialize ps) debug).outcome = .ok ps := by
  rcases head?_strippedLines_serialize h with ⟨line, key, value, hhead, hd, hne⟩
  rcases roles_flatMap h.each with ⟨-, hgather, hclosed⟩
  rw [← strippedLines_serialize h.ne_nil] at hgather hclosed
  -- There is no blank line at either end, so stripping the text changes no line.
  have hstrip : Text.strippedLines (Text.strip (serialize ps)) =
      Text.strippedLines (serialize ps) := by
    apply Text.strippedLines_strip_eq_self
    · rw [hhead, Ne, Option.some.injEq]
      exact hne
    · exact getLast?_strippedLines_serialize h
  have hblank : Text.strip (serialize ps) ≠ "" := by
    rw [Ne, Text.strip_eq_empty_iff_forall_lines]
    exact fun hall => hne (hall line (List.mem_of_head? hhead))
  rw [Parser.outcome_parse_eq_ok_iff, hstrip]
  refine ⟨hblank, ⟨⟨(key, value), ?_⟩, hclosed, ?_⟩, hgather⟩
  · rw [hhead, Option.bind_some, hd]
  · rw [declaredKeys, ← map_key_gather, hgather]
    exact h.distinct

/-! ## What is parsed is well formed -/

/-- What a stripped line declares is well formed, if the further lines of the
    value are stripped and enclosed. -/
theorem wellFormed_of_declaration {line key value : String} {rest : List String}
    (hline : Text.strip line = line)
    (hd : declaration? line.toList = some (key.toList, value.toList))
    (hrest : ∀ l ∈ rest, Text.strip l = l ∧ '\n' ∉ l.toList) (henclosed : Enclosed none rest) :
    Property.WellFormed ⟨key, Text.unlines (value :: rest)⟩ := by
  rcases (declaration?_eq_some_iff _ _ _).1 hd with ⟨hne, hkey, -, -, -, -, -, hvalue⟩
  rcases declaration?_trimmed (Text.trim_toList_of_strip hline) hd with ⟨-, -, htrim⟩
  have hlines : Text.lines (Text.unlines (value :: rest)) = value :: rest := by
    apply Text.lines_unlines (List.cons_ne_nil _ _)
    rw [List.forall_mem_cons]
    exact ⟨hvalue, fun l hl => (hrest l hl).2⟩
  -- The lines of the value are what it was put together from, since none of them has a line feed.
  refine ⟨?_, hkey, ?_, ?_⟩
  · rintro rfl
    exact hne String.toList_empty
  · rw [hlines, List.forall_mem_cons]
    refine ⟨?_, fun l hl => (hrest l hl).1⟩
    rw [Text.strip, htrim, String.ofList_toList]
  · rw [hlines]
    exact henclosed

/-- Properties that are gathered from stripped lines are well formed. What continues a value does
    not declare, and a fence that it opens is closed before the next declaration, or that would
    not have declared. -/
theorem wellFormed_of_mem_gather {fence : Option Fence} {lines : List String}
    (hlines : ∀ line ∈ lines, Text.strip line = line ∧ '\n' ∉ line.toList)
    (hclosed : Fence.scan fence lines = none) :
    ∀ p ∈ gather (roles fence lines), p.WellFormed := by
  induction lines generalizing fence with
  | nil => exact fun p hp => absurd hp (by simp [roles, gather])
  | cons line lines ih =>
      rw [List.forall_mem_cons] at hlines
      rw [Fence.scan_cons] at hclosed
      have hlater := ih hlines.2 hclosed
      rw [roles]
      cases hr : Role.of fence line with
      | continues text => exact hlater
      | declares key value =>
          rcases (Role.of_eq_declares_iff fence line key value).1 hr with ⟨rfl, hd⟩
          have hrest : ∀ l ∈ further (roles (Fence.after none line) lines),
              Text.strip l = l ∧ '\n' ∉ l.toList := by
            intro l hl
            rcases exists_of_mem_roles (mem_of_mem_further hl) with ⟨m, hm, before, hrole⟩
            rw [Role.of_eq_continues hrole.symm]
            exact hlines.2 m hm
          have henclosed := enclosed_further hclosed
          -- A declaration opens no fence, so the further lines start outside of one.
          rw [Fence.after_none_of_declaration hd] at henclosed hrest hlater ⊢
          rw [gather, List.forall_mem_cons]
          exact ⟨wellFormed_of_declaration hlines.1.1 hd hrest henclosed, hlater⟩

/-- If the last line is not empty, neither is the last line that is written. -/
theorem getLast?_written (fence : Option Fence) {lines : List String}
    (h : lines.getLast? ≠ some "") : ((roles fence lines).map Role.written).getLast? ≠ some "" := by
  rw [List.getLast?_eq_getElem?] at h
  rw [List.getLast?_eq_getElem?, List.length_map, length_roles, List.getElem?_map, getElem?_roles]
  intro hlast
  rcases hline : lines[lines.length - 1]? with _ | line
  · rw [hline] at hlast
    exact absurd hlast (by simp)
  · rw [hline, Option.map_some, Option.map_some, Option.some.injEq] at hlast
    rw [hline, Ne, Option.some.injEq] at h
    exact written_of_ne_empty _ h hlast

/-- The last line of a value is the last line of all, if the value has more than
    the line that declares it. -/
theorem getLast?_lines_value {ps : List Property} {p : Property} (hp : ps.getLast? = some p)
    (hkey : '\n' ∉ p.key.toList)
    (h : (ps.flatMap fun p => Text.lines p.declaration).getLast? ≠ some "") :
    (Text.lines p.value).length = 1 ∨ (Text.lines p.value).getLast? ≠ some "" := by
  rcases List.getLast?_eq_some_iff.1 hp with ⟨earlier, rfl⟩
  rcases hlines : Text.lines p.value with _ | ⟨first, rest⟩
  · exact absurd hlines (Text.lines_ne_nil _)
  · rw [List.flatMap_append, List.flatMap_singleton, lines_declaration p hkey hlines,
      List.getLast?_append_of_ne_nil _ (List.cons_ne_nil _ _)] at h
    rcases rest with _ | ⟨second, rest⟩
    · exact Or.inl rfl
    · rw [List.getLast?_cons_cons] at h ⊢
      exact Or.inr h

/-- Whatever is parsed is well formed, so the lists that are read back are just those that can be
    parsed from some text. -/
theorem wellFormed_of_parse {text : String} {debug : Bool} {ps : List Property}
    (h : (parse text debug).outcome = .ok ps) : WellFormed ps := by
  rcases (Parser.outcome_parse_eq_ok_iff text debug ps).1 h with ⟨hblank, hcode, rfl⟩
  have hlines : ∀ line ∈ Text.strippedLines (Text.strip text),
      Text.strip line = line ∧ '\n' ∉ line.toList :=
    fun line hline => ⟨Text.strip_of_mem_strippedLines hline,
      Text.newline_notMem_of_mem_strippedLines hline⟩
  have hne := (further_roles_of_isCodeblock hcode).2
  have heach := wellFormed_of_mem_gather hlines hcode.closed
  -- The last line that is written is the last line of the text, which is not empty.
  have hlast := getLast?_written none (Text.ends_strippedLines_strip hblank).2
  rw [← lines_serialize_gather hcode fun line hline => (hlines line hline).2,
    lines_serialize hne] at hlast
  refine ⟨hne, heach, ?_, fun p hp => ?_⟩
  · rw [map_key_gather]
    exact hcode.distinct
  · have hkey := newline_notMem_of_isKeyChar (heach p (List.mem_of_getLast? hp)).isKeyChar_key
    exact getLast?_lines_value hp hkey hlast

/-- Well formed lists of properties, and no others, are read back after they
    were written. Whatever is parsed is well formed, so it is the same after it
    was written and parsed again. -/
theorem outcome_parse_serialize :
    (∀ (ps : List Property) (debug : Bool),
      (parse (serialize ps) debug).outcome = .ok ps ↔ WellFormed ps) ∧
    ∀ (text : String) (debug : Bool) (ps : List Property),
      (parse text debug).outcome = .ok ps →
        WellFormed ps ∧ (parse (serialize ps) debug).outcome = .ok ps := by
  constructor
  · exact fun ps debug => ⟨wellFormed_of_parse, fun h => parse_of_wellFormed h debug⟩
  · intro text debug ps h
    have hwell := wellFormed_of_parse h
    exact ⟨hwell, parse_of_wellFormed hwell debug⟩

/-- A text that is not written as `serialize` writes it. -/
theorem outcome_parse_serialize_blanks :
    let text := "\n a  : 1\n\nb:\n\x60\x60\x60 x\n c: 2\n\x60\x60\x60\n"
    let ps : List Property := [⟨"a", "1\n"⟩, ⟨"b", "\n\x60\x60\x60 x\nc: 2\n\x60\x60\x60"⟩]
    (parse text false).outcome = .ok ps ∧ serialize ps ≠ text ∧ WellFormed ps ∧
      (parse (serialize ps) false).outcome = .ok ps := by
  intro text ps
  have hblank : ¬ Text.strip text = "" := by decide
  have hverdict : verdict (Text.strippedLines (Text.strip text)) = .ok ps := by decide
  have hparse : (parse text false).outcome = .ok ps := by
    rw [Parser.outcome_parse_eq, if_neg hblank]
    exact hverdict
  exact ⟨hparse, by decide, outcome_parse_serialize.2 text false ps hparse⟩

end Stencil.Block
