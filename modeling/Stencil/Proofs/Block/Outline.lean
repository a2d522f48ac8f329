import Stencil.Block.Property
import Stencil.Proofs.Block.Declaration

/-!
# The Outline of a Codeblock

What the lines of a codeblock declare, told without a parser.

The parser has a phase, a growing property and a fence, and each line changes
some of them. What it is for can be said with much less. A line needs only one
thing from the lines before it, whether a fence is open and which run closes
it; that is `Fence.scan`. Given this, a line has one of two roles: it declares
a property, or it continues the value of the last one. The roles of all lines
are `roles`, and `gather` cuts them before each declaration. Nothing here is
undone or flushed later, so the properties can be read off.

`Fence.age` counts the lines since the fence was opened rather than naming the
line that opened it. A scan then needs no line numbers, and can be taken up in
the middle of a text or repeated in a value; the number of the line is the
number of lines so far less the age.

`Enclosed` is what the further lines of one value have to be like: seen from
its own start, the value declares nothing outside its fences and closes every
fence it opens. Values that were gathered from a source are like that, and
values that are like that can be written one after the other and keep their
roles.

## Main definitions

* `Fence`, `Fence.after`, `Fence.scan`: The fence that is open, and how lines change it.
* `Role`, `Role.of`, `roles`: What lines do.
* `Role.written`: A line as it is written back.
* `further`, `gather`, `declaredKeys`: Values, properties and keys.
* `Enclosed`: Further lines of one value.

## Theorems

* `fenceRun?_eq_some_iff`: The run that opens a fence.
* `Fence.scan_eq_some_iff`, `Fence.exists_opening`: The line that opened the open fence.
* `Fence.scan_fence`, `roles_fence`: What a fence holds makes no difference behind it.
* `map_key_gather`: The keys of the properties are those declared.
* `written_eq`: Every line is a line of exactly one property.
* `enclosed_further`: Gathered values are enclosed.
* `roles_of_enclosed`: Enclosed lines continue a value.
* `gather_append`: A value ends where the next declaration is.
-/

namespace Stencil.Block

/-! ## Fences -/

/-- The run that opens a fence: all the backticks that the line starts with, three
    at least, with no more than one word behind them. -/
theorem fenceRun?_eq_some_iff {s run : List Char} :
    fenceRun? s = some run ↔ run = s.takeWhile isFenceChar ∧ 3 ≤ run.length ∧
      (Text.trim (s.dropWhile isFenceChar)).any Text.isBlank = false := by
  rw [fenceRun?, Option.ite_none_right_eq_some, Bool.and_eq_true, decide_eq_true_eq,
    Bool.not_eq_true', Option.some.injEq]
  constructor
  · rintro ⟨⟨hleast, hword⟩, rfl⟩
    exact ⟨rfl, hleast, hword⟩
  · rintro ⟨rfl, hleast, hword⟩
    exact ⟨⟨hleast, hword⟩, rfl⟩

/-- A fence that is open. Where it was opened is told by its age, so that the scan needs no
    numbers of lines. -/
structure Fence where
  /-- The run of backticks that closes it. -/
  run : String
  /-- How many lines have come since the line that opened it. -/
  age : Nat := 0
deriving DecidableEq, Repr

namespace Fence

/-- The fence that is open after a line, given the one that is open before it.
    Inside a fence only its own run, and nothing else, closes it. -/
def after (fence : Option Fence) (line : String) : Option Fence :=
  match fence with
  | none => (fenceRun? line.toList).map fun run => { run := .ofList run }
  | some fence => if line = fence.run then none else some { fence with age := fence.age + 1 }

/-- The fence that is open after lines. -/
def scan (fence : Option Fence) (lines : List String) : Option Fence :=
  lines.foldl after fence

@[simp] theorem scan_nil (fence : Option Fence) : scan fence [] = fence := rfl

theorem scan_cons (fence : Option Fence) (line : String) (lines : List String) :
    scan fence (line :: lines) = scan (after fence line) lines := rfl

theorem scan_append (fence : Option Fence) (one other : List String) :
    scan fence (one ++ other) = scan (scan fence one) other :=
  List.foldl_append

/-- A declaration opens no fence. -/
theorem after_none_of_declaration {line : String} {captured : List Char × List Char}
    (h : declaration? line.toList = some captured) : after none line = none := by
  cases hrun : fenceRun? line.toList with
  | none => rw [after, hrun, Option.map_none]
  | some run =>
      rw [not_declaration_of_fenceRun hrun] at h
      exact absurd h (by simp)

/-- A fence stays open, and grows older, as long as its run does not come. No other line means
    anything to it. -/
theorem scan_of_notMem {run : String} {lines : List String} (h : run ∉ lines) (age : Nat) :
    scan (some ⟨run, age⟩) lines = some ⟨run, age + lines.length⟩ := by
  induction lines generalizing age with
  | nil => rfl
  | cons line lines ih =>
      rw [List.mem_cons, not_or] at h
      have hstep : after (some ⟨run, age⟩) line = some ⟨run, age + 1⟩ := by
        rw [after, if_neg (Ne.symm h.1)]
      rw [scan_cons, hstep, ih h.2, List.length_cons, Nat.add_assoc, Nat.add_comm 1]

theorem after_none_of_fenceRun {line run : String} (h : fenceRun? line.toList = some run.toList) :
    after none line = some ⟨run, 0⟩ := by
  rw [after, h, Option.map_some, String.ofList_toList]

theorem after_run (run : String) (age : Nat) : after (some ⟨run, age⟩) run = none := if_pos rfl

/-- Behind a fence it makes no difference what the fence holds. -/
theorem scan_fence {opening run : String} {content : List String}
    (hopening : fenceRun? opening.toList = some run.toList) (h : run ∉ content)
    (rest : List String) : scan none (opening :: (content ++ run :: rest)) = scan none rest := by
  rw [scan_cons, after_none_of_fenceRun hopening, scan_append, scan_of_notMem h, scan_cons,
    after_run]

/-- The line that opened the fence that is open at the end: it stands outside all earlier fences,
    and the run that it starts with does not come again. How old the fence is tells how many lines
    came since, so the number of the opening line can be told at the end. -/
theorem scan_eq_some_iff (lines : List String) (fence : Fence) :
    scan none lines = some fence ↔
      ∃ earlier line later, lines = earlier ++ line :: later ∧ scan none earlier = none ∧
        fenceRun? line.toList = some fence.run.toList ∧ fence.run ∉ later ∧
        fence.age = later.length := by
  constructor
  · intro h
    -- The fence at the end is the one before the last line or was opened by it, so the induction
    -- is from the end.
    induction lines using List.reverseRecOn generalizing fence with
    | nil => exact absurd h (by simp)
    | append_singleton lines last ih =>
        rw [scan_append, scan_cons, scan_nil] at h
        cases hscan : scan none lines with
        | none =>
            -- The fence was opened just now.
            rw [hscan, after, Option.map_eq_some_iff] at h
            rcases h with ⟨run, hrun, rfl⟩
            refine ⟨lines, last, [], rfl, hscan, ?_, by simp, rfl⟩
            rw [hrun, String.toList_ofList]
        | some open' =>
            rw [hscan, after] at h
            split at h
            · exact absurd h (by simp)
            · rename_i hne
              rcases ih open' hscan with ⟨earlier, line, later, rfl, hout, hrun, hnot, hage⟩
              rw [Option.some.injEq] at h
              rw [← h]
              refine ⟨earlier, line, later ++ [last], by simp, hout, hrun, ?_, ?_⟩
              · simp only [List.mem_append, List.mem_singleton, not_or]
                exact ⟨hnot, Ne.symm hne⟩
              · simp [hage]
  · rintro ⟨earlier, line, later, rfl, hout, hrun, hnot, hage⟩
    rw [scan_append, hout, scan_cons, after_none_of_fenceRun hrun, scan_of_notMem hnot,
      Nat.zero_add, ← hage]

/-- The line that opened the open fence, and its number. It is as many lines back as the fence is
    old. -/
theorem exists_opening {lines : List String} {fence : Fence}
    (h : scan none (lines.map Text.strip) = some fence) :
    ∃ (i : Nat) (line : String), lines[i]? = some line ∧
      (lines.length : Int) - fence.age = i + 1 ∧
      fenceRun? (Text.strip line).toList = some fence.run.toList := by
  rcases (scan_eq_some_iff _ _).1 h with ⟨earlier, opening, later, hlines, -, hrun, -, hage⟩
  have hget : (lines.map Text.strip)[earlier.length]? = some opening := by
    rw [hlines]
    simp
  rw [List.getElem?_map, Option.map_eq_some_iff] at hget
  rcases hget with ⟨line, hline, rfl⟩
  refine ⟨earlier.length, line, hline, ?_, hrun⟩
  have hlength := congrArg List.length hlines
  rw [List.length_map, List.length_append, List.length_cons] at hlength
  omega

end Fence

/-! ## Roles -/

/-- What a line does to the properties. Lines of fences continue a value like any others, so there
    are two roles only. -/
inductive Role where
  /-- It declares a property, whose value starts as given. -/
  | declares (key value : String)
  /-- It is a further line of the last value. -/
  | continues (line : String)
deriving DecidableEq, Repr

namespace Role

/-- What a line does if the given fence is open before it. Inside a fence a declaration is text. -/
def of (fence : Option Fence) (line : String) : Role :=
  match fence, declaration? line.toList with
  | none, some (key, value) => .declares (.ofList key) (.ofList value)
  | _, _ => .continues line

/-- The line as it is written back. -/
def written : Role → String
  | declares key value => key ++ ": " ++ value
  | continues line => line

/-- The key that is declared. -/
def key? : Role → Option String
  | declares key _ => some key
  | continues _ => none

theorem of_some (fence : Fence) (line : String) : of (some fence) line = .continues line := rfl

theorem of_none_of_declaration {line : String} {key value : List Char}
    (h : declaration? line.toList = some (key, value)) :
    of none line = .declares (.ofList key) (.ofList value) := by
  unfold of
  rw [h]

theorem of_of_not_declaration {line : String} (fence : Option Fence)
    (h : declaration? line.toList = none) : of fence line = .continues line := by
  unfold of
  rw [h]
  cases fence <;> rfl

/-- The lines that declare are the declarations outside all fences, and what they declare is what
    their pattern captures. -/
theorem of_eq_declares_iff (fence : Option Fence) (line key value : String) :
    of fence line = .declares key value ↔
      fence = none ∧ declaration? line.toList = some (key.toList, value.toList) := by
  constructor
  · intro h
    rcases fence with _ | fence
    · rcases hd : declaration? line.toList with _ | ⟨k, v⟩
      · rw [of_of_not_declaration none hd] at h
        exact absurd h (by simp)
      · rw [of_none_of_declaration hd, declares.injEq] at h
        rcases h with ⟨rfl, rfl⟩
        refine ⟨rfl, ?_⟩
        rw [String.toList_ofList, String.toList_ofList]
    · -- Inside a fence nothing declares.
      rw [of_some] at h
      exact absurd h (by simp)
  · rintro ⟨rfl, hd⟩
    rw [of_none_of_declaration hd, String.ofList_toList, String.ofList_toList]

/-- A line that continues a value is kept as it is. -/
theorem of_eq_continues {fence : Option Fence} {line text : String}
    (h : of fence line = .continues text) : text = line := by
  unfold of at h
  split at h
  · exact absurd h (by simp)
  · exact (continues.inj h).symm

end Role

/-- What lines do, one after the other. Each line decides with the fence that it opens or closes
    how the next one is taken. -/
def roles (fence : Option Fence) : List String → List Role
  | [] => []
  | line :: lines => .of fence line :: roles (Fence.after fence line) lines

theorem roles_cons (fence : Option Fence) (line : String) (lines : List String) :
    roles fence (line :: lines) = .of fence line :: roles (Fence.after fence line) lines := rfl

theorem length_roles (fence : Option Fence) (lines : List String) :
    (roles fence lines).length = lines.length := by
  induction lines generalizing fence with
  | nil => rfl
  | cons line lines ih => rw [roles, List.length_cons, List.length_cons, ih]

theorem roles_append (fence : Option Fence) (one other : List String) :
    roles fence (one ++ other) = roles fence one ++ roles (Fence.scan fence one) other := by
  induction one generalizing fence with
  | nil => rfl
  | cons line one ih => rw [List.cons_append, roles, roles, List.cons_append, ih, Fence.scan_cons]

/-- Inside a fence every line continues a value. -/
theorem roles_of_notMem {run : String} {lines : List String} (h : run ∉ lines) (age : Nat) :
    roles (some ⟨run, age⟩) lines = lines.map .continues := by
  induction lines generalizing age with
  | nil => rfl
  | cons line lines ih =>
      rw [List.mem_cons, not_or] at h
      have hafter : Fence.after (some ⟨run, age⟩) line = some ⟨run, age + 1⟩ := by
        rw [Fence.after, if_neg (Ne.symm h.1)]
      rw [roles, Role.of_some, hafter, ih h.2, List.map_cons]

/-- The lines of a fence continue a value, those that open and close it too; the
    lines behind it have the roles that they have alone. -/
theorem roles_fence {opening run : String} {content : List String}
    (hopening : fenceRun? opening.toList = some run.toList) (h : run ∉ content)
    (rest : List String) :
    roles none (opening :: (content ++ run :: rest)) =
      (opening :: (content ++ [run])).map .continues ++ roles none rest := by
  have hrole : Role.of none opening = .continues opening :=
    Role.of_of_not_declaration none (not_declaration_of_fenceRun hopening)
  rw [roles_cons, hrole, Fence.after_none_of_fenceRun hopening, roles_append,
    Fence.scan_of_notMem h, roles_of_notMem h, roles_cons, Role.of_some, Fence.after_run]
  simp

/-- The role of a line depends on the fence that the lines before it leave open. -/
theorem getElem?_roles (fence : Option Fence) (lines : List String) (i : Nat) :
    (roles fence lines)[i]? =
      lines[i]?.map fun line => .of (Fence.scan fence (lines.take i)) line := by
  induction lines generalizing fence i with
  | nil => simp [roles]
  | cons line lines ih =>
      cases i with
      | zero => rfl
      | succ i => rw [roles, List.getElem?_cons_succ, List.getElem?_cons_succ, ih,
          List.take_succ_cons, Fence.scan_cons]

/-! ## Properties -/

/-- The lines of a value before the next declaration. -/
def further : List Role → List String
  | .continues line :: roles => line :: further roles
  | _ => []

/-- The properties that lines declare. A value has the line that declares it
    and all lines before the next declaration. -/
def gather : List Role → List Property
  | [] => []
  | .declares key value :: roles =>
    ⟨key, Text.unlines (value :: further roles)⟩ :: gather roles
  | .continues _ :: roles => gather roles

/-- The keys that lines declare outside fences. -/
def declaredKeys (lines : List String) : List String :=
  (roles none lines).filterMap Role.key?

/-- Lines that leave no fence open declare the same keys whatever follows. -/
theorem declaredKeys_append {one : List String} (h : Fence.scan none one = none)
    (other : List String) :
    declaredKeys (one ++ other) = declaredKeys one ++ declaredKeys other := by
  rw [declaredKeys, roles_append, h, List.filterMap_append, declaredKeys, declaredKeys]

/-- No line of a fence declares a key. -/
theorem declaredKeys_fence {opening run : String} {content : List String}
    (hopening : fenceRun? opening.toList = some run.toList) (h : run ∉ content)
    (rest : List String) :
    declaredKeys (opening :: (content ++ run :: rest)) = declaredKeys rest := by
  have hnone : ∀ lines : List String, (lines.map Role.continues).filterMap Role.key? = [] := by
    intro lines
    rw [List.filterMap_map, List.filterMap_eq_nil_iff]
    exact fun _ _ => rfl
  rw [declaredKeys, roles_fence hopening h, List.filterMap_append, hnone, List.nil_append,
    declaredKeys]

@[simp] theorem further_nil : further [] = [] := rfl

@[simp] theorem further_declares (key value : String) (rs : List Role) :
    further (.declares key value :: rs) = [] := rfl

@[simp] theorem further_continues (line : String) (rs : List Role) :
    further (.continues line :: rs) = line :: further rs := rfl

theorem mem_of_mem_further {line : String} {rs : List Role} (h : line ∈ further rs) :
    .continues line ∈ rs := by
  induction rs with
  | nil => exact absurd h (by simp [further])
  | cons r rs ih =>
      cases r with
      | declares key value => exact absurd h (by simp)
      | continues text =>
          rcases List.mem_cons.1 h with rfl | h
          · exact List.mem_cons_self ..
          · exact List.mem_cons_of_mem _ (ih h)

/-- The keys of the properties are those declared. -/
theorem map_key_gather (rs : List Role) :
    (gather rs).map Property.key = rs.filterMap Role.key? := by
  induction rs with
  | nil => rfl
  | cons r rs ih =>
      cases r with
      | declares key value =>
          have hkey : Role.key? (.declares key value) = some key := rfl
          rw [gather, List.map_cons, ih, List.filterMap_cons_some hkey]
      | continues line =>
          have hkey : Role.key? (.continues line) = none := rfl
          rw [gather, ih, List.filterMap_cons_none hkey]

/-! ## Lines of properties -/

/-- The lines of a property are the line that declares it and the further lines
    of its value. -/
theorem lines_declaration (p : Property) (hkey : '\n' ∉ p.key.toList) {first : String}
    {rest : List String} (h : Text.lines p.value = first :: rest) :
    Text.lines p.declaration = (p.key ++ ": " ++ first) :: rest := by
  have hfree : ∀ l ∈ first :: rest, '\n' ∉ l.toList := by
    rw [← h]
    exact fun l hl => Text.newline_notMem_of_mem_lines hl
  rw [List.forall_mem_cons] at hfree
  rw [Property.declaration, ← Text.unlines_lines p.value, h, Text.append_unlines_cons,
    Text.lines_unlines (by simp)]
  rw [List.forall_mem_cons]
  refine ⟨?_, hfree.2⟩
  simp only [String.toList_append, List.mem_append, not_or]
  exact ⟨⟨hkey, by decide⟩, hfree.1⟩

/-- Every line is a line of exactly one property, if the first one declares; else the first lines
    are of none. So what is written back has the lines of the source, one for one. -/
theorem written_eq {rs : List Role} (hfree : ∀ r ∈ rs, '\n' ∉ r.written.toList) :
    rs.map Role.written =
      further rs ++ (gather rs).flatMap fun p => Text.lines p.declaration := by
  induction rs with
  | nil => rfl
  | cons r rs ih =>
      rw [List.forall_mem_cons] at hfree
      rw [List.map_cons, ih hfree.2]
      cases r with
      | continues line => rfl
      | declares key value =>
          have hwritten : '\n' ∉ key.toList ∧ '\n' ∉ value.toList := by
            have h := hfree.1
            simp only [Role.written, String.toList_append, List.mem_append, not_or] at h
            exact ⟨h.1.1, h.2⟩
          have hfurther : ∀ l ∈ further rs, '\n' ∉ l.toList :=
            fun l hl => hfree.2 (.continues l) (mem_of_mem_further hl)
          -- None of the lines has a line feed in it, so the value splits into these lines again.
          have hlines : Text.lines (Text.unlines (value :: further rs)) = value :: further rs :=
            Text.lines_unlines (by simp) (List.forall_mem_cons.2 ⟨hwritten.2, hfurther⟩)
          have hsegments : Text.lines (Property.declaration ⟨key, Text.unlines (value :: further rs)⟩)
              = (key ++ ": " ++ value) :: further rs :=
            lines_declaration ⟨key, Text.unlines (value :: further rs)⟩ hwritten.1 hlines
          rw [gather, List.flatMap_cons, hsegments]
          rfl

/-! ## Enclosed lines -/

/-- Lines that may follow in a value: none of them declares a property outside
    a fence, and no fence is left open. -/
def Enclosed (fence : Option Fence) : List String → Prop
  | [] => fence = none
  | line :: lines =>
    (fence = none → declaration? line.toList = none) ∧ Enclosed (Fence.after fence line) lines

/-- If no fence is left open by all lines, none is left open by those that come before the next
    declaration: a declaration is one only outside of fences. -/
theorem enclosed_further {fence : Option Fence} {lines : List String}
    (h : Fence.scan fence lines = none) : Enclosed fence (further (roles fence lines)) := by
  induction lines generalizing fence with
  | nil => exact h
  | cons line lines ih =>
      rw [roles]
      cases hr : Role.of fence line with
      | declares key value => exact ((Role.of_eq_declares_iff fence line key value).1 hr).1
      | continues text =>
          rw [Role.of_eq_continues hr, further_continues]
          refine ⟨fun hout => ?_, ih h⟩
          rcases hd : declaration? line.toList with _ | ⟨key, value⟩
          · rfl
          · rw [hout, Role.of_none_of_declaration hd] at hr
            exact absurd hr (by simp)

/-- Enclosed lines continue a value, and leave no fence open. -/
theorem roles_of_enclosed {fence : Option Fence} {lines : List String} (h : Enclosed fence lines) :
    roles fence lines = lines.map .continues ∧ Fence.scan fence lines = none := by
  induction lines generalizing fence with
  | nil => exact ⟨rfl, h⟩
  | cons line lines ih =>
      rcases ih h.2 with ⟨hroles, hscan⟩
      have hrole : Role.of fence line = .continues line := by
        rcases fence with _ | fence
        · exact Role.of_of_not_declaration none (h.1 rfl)
        · rfl
      rw [roles, hrole, hroles, Fence.scan_cons, hscan]
      exact ⟨rfl, rfl⟩

theorem further_append (lines : List String) (rs : List Role) :
    further (lines.map .continues ++ rs) = lines ++ further rs := by
  induction lines with
  | nil => rfl
  | cons line lines ih => rw [List.map_cons, List.cons_append, further_continues, ih,
      List.cons_append]

theorem gather_append (lines : List String) (rs : List Role) :
    gather (lines.map .continues ++ rs) = gather rs := by
  induction lines with
  | nil => rfl
  | cons line lines ih => rw [List.map_cons, List.cons_append, gather, ih]

end Stencil.Block
