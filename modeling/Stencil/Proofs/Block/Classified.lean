import Stencil.Proofs.Block.Patterns

/-!
# Kinds of Lines

Which lines are of which kind, and what is captured of them.

A line has one kind, and the kinds are tried in an order. `Classified` says for
each kind what the line is made of and which of the earlier kinds it is not. That
no line declares and opens a fence at once makes the order of these two
unimportant. What closes a fence, though, can also be what opens one: whether a
run of backticks ends a fence or starts another is decided by the fence that is
open.

What is captured are parts of the line. The key ends before the first character
that is not of a key, and the value starts behind the blanks. The run of a fence
takes in all the backticks, so the line that closes the fence has as many.

## Main definitions

* `Closes`: The run that closes the open fence.
* `Line.Classified`: A line of one kind, with what it captures.

## Theorems

* `Line.Classified.unique`: A text is one line.
* `Line.classified_classify`: A text is a line of some kind.
* `read_eq_iff_classified`: The line that a text is.
-/

namespace Stencil.Block

/-! ## Kinds -/

/-- A line that is the run which closes the open fence, if one is open. -/
def Closes (run : Option Nat) (s : List Char) : Prop :=
  ∃ n, run = some n ∧ s = List.replicate n '\x60'

/-- A line of one kind, with what it captures: its text is trimmed, and `run` is how
    many backticks close the open fence. -/
inductive Line.Classified (run : Option Nat) (s : List Char) (number : Int) : Line → Prop
  /-- It is what closes the open fence. -/
  | closes (hclose : Closes run s) :
      Classified run s number
        { kind := .fenceClose, content := .ofList s, number, fence := some (.ofList s) }
  /-- It is not that, and declares. -/
  | declares {key value : List Char} (hclose : ¬ Closes run s) (hdecl : Declares s key value) :
      Classified run s number
        { kind := .declaration, content := .ofList s, number, key := some (.ofList key),
          value := some (.ofList value) }
  /-- It is neither of these, and opens a fence. -/
  | opens {ticks : List Char} (hclose : ¬ Closes run s)
      (hdecl : ∀ key value, ¬ Declares s key value) (hopen : OpensFence s ticks) :
      Classified run s number
        { kind := .fenceOpen, content := .ofList s, number, fence := some (.ofList ticks) }
  /-- It is none of these. -/
  | text (hclose : ¬ Closes run s) (hdecl : ∀ key value, ¬ Declares s key value)
      (hopen : ∀ ticks, ¬ OpensFence s ticks) :
      Classified run s number { kind := .text, content := .ofList s, number }

namespace Line

variable {run : Option Nat} {s : List Char} {number : Int}

/-- A text is one line. The four kinds exclude each other as they are defined, and what a line of
    each kind captures is determined by the text. -/
theorem Classified.unique {line other : Line} (h : Classified run s number line)
    (h' : Classified run s number other) : line = other := by
  cases h with
  | closes hclose =>
      cases h' with
      | closes => rfl
      | declares hnot | opens hnot | text hnot => exact absurd hclose hnot
  | declares hclose hdecl =>
      cases h' with
      | closes hyes => exact absurd hyes hclose
      | declares _ hdecl' =>
          rcases hdecl.unique hdecl' with ⟨rfl, rfl⟩
          rfl
      | opens _ hnot | text _ hnot => exact absurd hdecl (hnot _ _)
  | opens hclose hdecl hopen =>
      cases h' with
      | closes hyes => exact absurd hyes hclose
      | declares _ hyes => exact absurd hyes (hdecl _ _)
      | opens _ _ hopen' => rw [hopen.unique hopen']
      | text _ _ hnot => exact absurd hopen (hnot _)
  | text hclose hdecl hopen =>
      cases h' with
      | closes hyes => exact absurd hyes hclose
      | declares _ hyes => exact absurd hyes (hdecl _ _)
      | opens _ _ hyes => exact absurd hyes (hopen _)
      | text => rfl

/-- The run that closes the open fence is the content of a line just if the line
    closes the fence. -/
theorem closes_iff : (run.map fun n => String.ofList (List.replicate n '\x60')) =
    some (.ofList s) ↔ Closes run s := by
  rw [Option.map_eq_some_iff, Closes]
  refine exists_congr fun n => and_congr_right fun _ => ?_
  rw [String.ofList_inj, eq_comm]

/-- The line that a text is is of some kind. The kinds are tried in the order of precedence, so
    each later one comes with the denial of those before it. -/
theorem classified_classify (run : Option Nat) (text : String) (number : Int) :
    Classified run (Text.trim text.toList) number
      (classify (run.map fun n => .ofList (.replicate n '\x60')) text number) := by
  have hcontent : Text.strip text = .ofList (Text.trim text.toList) := rfl
  unfold classify
  dsimp only
  rw [hcontent, String.toList_ofList]
  split
  · rename_i hclose
    rw [hclose]
    exact .closes (closes_iff.1 hclose)
  · rename_i hclose
    rw [closes_iff] at hclose
    split
    · rename_i hdecl
      exact .declares hclose (declaration?_eq_some_iff_declares.1 hdecl)
    · rename_i hdecl
      have hnot : ∀ key value, ¬ Declares (Text.trim text.toList) key value := by
        intro key value h
        rw [declaration?_eq_some_iff_declares.2 h] at hdecl
        cases hdecl
      split
      · rename_i hopen
        exact .opens hclose hnot (fenceRun?_eq_some_iff_opensFence.1 hopen)
      · rename_i hopen
        refine .text hclose hnot fun ticks h => ?_
        rw [fenceRun?_eq_some_iff_opensFence.2 h] at hopen
        cases hopen

end Line

/-- What a text is as a line, outside a fence or inside one that a run of backticks
    closes: its kind and what it captures follow from what it is made of. The
    content is the trimmed text, and no text declares and opens a fence. The
    patterns of declarations and of fences, as they are written, capture just what
    is declared and what a fence is opened with. -/
theorem read_eq_iff_classified (run : Option Nat) (text : String) (number : Int) :
    let line := (Line.read (run.map fun n => .ofList (.replicate n '\x60')) text number).value
    let s := Text.trim text.toList
    (∀ other, line = other ↔ Line.Classified run s number other) ∧
    line.content = Text.strip text ∧
    (∀ key value ticks, ¬ (Declares s key value ∧ OpensFence s ticks)) ∧
    (∃ p, Pattern.ofSource "^([a-z\\-]+)\\s*:\\s*(.*)$" = .ok p ∧
      ∀ captured, p.atStart? s = some captured ↔
        ∃ key value, captured = [some key, some value] ∧ Declares s key value) ∧
    ∃ p, Pattern.ofSource "^(\x60\x7b3,\x7d)(?:\\s*[^\\s]+)?\\s*$" = .ok p ∧
      ∀ captured, p.atStart? s = some captured ↔
        ∃ ticks, captured = [some ticks] ∧ OpensFence s ticks := by
  rw [Line.value_read]
  intro line s
  have hs : Text.trim s = s := Text.trim_trim _
  have hline : Line.Classified run s number line := Line.classified_classify run text number
  have hcontent : line.content = Text.strip text := Line.content_classify _ text number
  -- That the line is classified and that there is one such line only make up the equivalence.
  refine ⟨fun other => ⟨fun heq => heq ▸ hline, hline.unique⟩, hcontent, ?_, ?_, ?_⟩
  · rintro key value ticks ⟨hdecl, hopen⟩
    exact hdecl.not_opensFence hopen
  · exact ⟨_, ofSource_declarationPattern, fun captured => atStart?_declarationPattern_iff hs⟩
  · exact ⟨_, ofSource_fencePattern, fun captured => atStart?_fencePattern_iff hs⟩

end Stencil.Block
