import Stencil.Proofs.Block.Outcome

/-!
# Writing Properties Back

The lines of the codeblock that a parsed text is written back as.

The parser spreads lines over a list of properties and a draft, and writing
puts a key before each value; whether every line comes out again, once, in its
place and behind the right key, cannot be seen from either of them. The outline
has one role for each line, and `lines_serialize_gather` says that what is
written are the roles, one after the other. From there everything is about one
line and the fence that the lines before it leave open.

A line that continues a value comes out as it went in, stripped. A line that
declares comes out in one form, `tidied`, whatever blanks stood around its
colon.

## Main definitions

* `tidied`: A declaration as it is written back.

## Theorems

* `lines_serialize`: A list of properties has the lines of its declarations.
* `lines_serialize_gather`: What is written are the roles of the lines.
* `written_of`: How one line is written back.
* `lines_serialize_parse`: Every line of a codeblock is written back in its place.
-/

namespace Stencil.Block

/-! ## One line -/

/-- A declaration as it is written back: the key that it starts with, and what
    follows its first colon without outer blanks. -/
def tidied (line : String) : String :=
  .ofList (line.toList.takeWhile isKeyChar) ++ ": " ++
    Text.strip (.ofList ((line.toList.dropWhile (· != ':')).drop 1))

/-- How a stripped line is written back: declarations outside fences are tidied, all others are
    kept. A tidied line is put together from its own key and value, which are trimmed already. -/
theorem written_of (fence : Option Fence) {line : String} (hline : Text.strip line = line) :
    (Role.of fence line).written =
      if fence = none ∧ (declaration? line.toList).isSome then tidied line else line := by
  cases hr : Role.of fence line with
  | declares key value =>
      rcases (Role.of_eq_declares_iff fence line key value).1 hr with ⟨hfence, hd⟩
      rcases declaration?_trimmed (Text.trim_toList_of_strip hline) hd with ⟨hkey, hvalue, -⟩
      have hdeclares : fence = none ∧ (declaration? line.toList).isSome = true :=
        ⟨hfence, by rw [hd, Option.isSome_some]⟩
      rw [if_pos hdeclares, tidied, Role.written, ← hkey, String.ofList_toList, Text.strip,
        String.toList_ofList, ← hvalue, String.ofList_toList]
  | continues text =>
      -- A line that continues a value is no declaration, or a fence is open.
      have hkept : ¬ (fence = none ∧ (declaration? line.toList).isSome = true) := by
        rintro ⟨hfence, hd⟩
        rcases Option.isSome_iff_exists.1 hd with ⟨⟨key, value⟩, hd⟩
        rw [hfence, Role.of_none_of_declaration hd] at hr
        exact absurd hr (by simp)
      rw [if_neg hkept, Role.written, Role.of_eq_continues hr]

/-- A line is written back as one line. -/
theorem newline_notMem_written_of (fence : Option Fence) {line : String}
    (hfree : '\n' ∉ line.toList) : '\n' ∉ (Role.of fence line).written.toList := by
  cases hr : Role.of fence line with
  | declares key value =>
      rcases (Role.of_eq_declares_iff fence line key value).1 hr with ⟨-, hd⟩
      rcases (declaration?_eq_some_iff _ _ _).1 hd with ⟨-, hkey, -, -, -, -, -, hvalue⟩
      simp only [Role.written, String.toList_append, List.mem_append, not_or]
      exact ⟨⟨newline_notMem_of_isKeyChar hkey, by decide⟩, hvalue⟩
  | continues text =>
      rw [Role.written, Role.of_eq_continues hr]
      exact hfree

/-- A line that is not empty is not written back as an empty one. -/
theorem written_of_ne_empty (fence : Option Fence) {line : String} (hne : line ≠ "") :
    (Role.of fence line).written ≠ "" := by
  cases hr : Role.of fence line with
  | declares key value =>
      intro h
      have hlength := congrArg String.length h
      simp [Role.written] at hlength
  | continues text =>
      rw [Role.written, Role.of_eq_continues hr]
      exact hne

/-! ## All lines -/

/-- What holds of all roles of a line holds of the roles of lines. -/
theorem exists_of_mem_roles {fence : Option Fence} {lines : List String} {r : Role}
    (h : r ∈ roles fence lines) : ∃ line ∈ lines, ∃ before, r = Role.of before line := by
  rcases List.getElem?_of_mem h with ⟨i, hi⟩
  rw [getElem?_roles, Option.map_eq_some_iff] at hi
  rcases hi with ⟨line, hline, rfl⟩
  exact ⟨line, List.mem_of_getElem? hline, _, rfl⟩

/-- A list of properties has the lines of its declarations. -/
theorem lines_serialize {ps : List Property} (hne : ps ≠ []) :
    Text.lines (serialize ps) = ps.flatMap fun p => Text.lines p.declaration := by
  have hmap : ps.map Property.declaration ≠ [] := by
    rw [Ne, List.map_eq_nil_iff]
    exact hne
  rw [serialize, Text.lines_unlines_eq_flatMap hmap, List.flatMap_map]

/-- The first line of a codeblock is the first property's. -/
theorem further_roles_of_isCodeblock {lines : List String} (h : IsCodeblock lines) :
    further (roles none lines) = [] ∧ gather (roles none lines) ≠ [] := by
  rcases h.declares with ⟨⟨key, value⟩, hd⟩
  rcases lines with _ | ⟨line, lines⟩
  · exact absurd hd (by simp)
  · rw [List.head?_cons, Option.bind_some] at hd
    rw [roles, Role.of_none_of_declaration hd, gather]
    exact ⟨rfl, List.cons_ne_nil _ _⟩

/-- What is written are the roles of the lines. To gather lines into properties and to write these
    out again loses nothing but how a declaration was spaced. -/
theorem lines_serialize_gather {lines : List String} (h : IsCodeblock lines)
    (hfree : ∀ line ∈ lines, '\n' ∉ line.toList) :
    Text.lines (serialize (gather (roles none lines))) = (roles none lines).map Role.written := by
  rcases further_roles_of_isCodeblock h with ⟨hfurther, hne⟩
  have hwritten : ∀ r ∈ roles none lines, '\n' ∉ r.written.toList := by
    intro r hr
    rcases exists_of_mem_roles hr with ⟨line, hline, before, rfl⟩
    exact newline_notMem_written_of before (hfree line hline)
  rw [lines_serialize hne, written_eq hwritten, hfurther, List.nil_append]

/-- Every line of a codeblock is written back in its place, and nothing else is.
    Outside fences declarations are tidied; all other lines, and all lines in
    fences, are kept without their outer blanks. The keys are those of the
    declarations outside fences, and each value has the lines up to the next
    such declaration. -/
theorem lines_serialize_parse {text : String} {debug : Bool} {ps : List Property}
    (h : (parse text debug).outcome = .ok ps) :
    let source := (Text.lines (Text.strip text)).map Text.strip
    (Text.lines (serialize ps)).length = (Text.lines (Text.strip text)).length ∧
    (∀ (i : Nat) (line : String), source[i]? = some line →
      (Text.lines (serialize ps))[i]? = some (
        if Fence.scan none (source.take i) = none ∧ (declaration? line.toList).isSome
        then tidied line else line)) ∧
    ps.map Property.key = declaredKeys source ∧ ps = gather (roles none source) := by
  intro source
  rcases (Parser.outcome_parse_eq_ok_iff text debug ps).1 h with ⟨-, hcode, hps⟩
  have hlines : Text.lines (serialize ps) = (roles none source).map Role.written := by
    rw [← hps]
    exact lines_serialize_gather hcode fun line hline =>
      Text.newline_notMem_of_mem_strippedLines hline
  -- Each line that is written is the line of one role, and the roles are those of the lines of the
  -- source.
  refine ⟨?_, ?_, ?_, hps.symm⟩
  · rw [hlines, List.length_map, length_roles, List.length_map]
  · intro i line hline
    have hstrip : Text.strip line = line :=
      Text.strip_of_mem_strippedLines (List.mem_of_getElem? hline)
    rw [hlines, List.getElem?_map, getElem?_roles, hline, Option.map_some, Option.map_some,
      written_of _ hstrip]
  · rw [← hps, map_key_gather]
    rfl

/-- Blanks around a colon, a declaration in a fence, and an empty line. -/
theorem lines_serialize_parse_fenced :
    let text := " a  :1 \n \x60\x60\x60\nb: 2\n\n\x60\x60\x60\nc:"
    let ps : List Property := [⟨"a", "1\n\x60\x60\x60\nb: 2\n\n\x60\x60\x60"⟩, ⟨"c", ""⟩]
    let source := (Text.lines (Text.strip text)).map Text.strip
    (parse text false).outcome = .ok ps ∧
    (Text.lines (serialize ps)).length = (Text.lines (Text.strip text)).length ∧
    (∀ (i : Nat) (line : String), source[i]? = some line →
      (Text.lines (serialize ps))[i]? = some (
        if Fence.scan none (source.take i) = none ∧ (declaration? line.toList).isSome
        then tidied line else line)) ∧
    ps.map Property.key = declaredKeys source ∧ ps = gather (roles none source) := by
  intro text ps source
  have hblank : ¬ Text.strip text = "" := by decide
  have hverdict : verdict source = .ok ps := by decide
  have hparse : (parse text false).outcome = .ok ps := by
    rw [Parser.outcome_parse_eq, if_neg hblank]
    exact hverdict
  exact ⟨hparse, lines_serialize_parse hparse⟩

end Stencil.Block
