import Stencil.Text.Fault

/-!
# Reading Sequence by Sequence

Encodings in which a character takes one byte or several. Bytes are read from
the front: the first byte says how a sequence goes on, and the rest of it says
which characters it stands for. A sequence may also stand for nothing and
change how those after it are read.

An encoding gives what the bytes at hand begin with. All else is shared: a fault
covers the bytes that are no sequence, or all that are left where they end
inside one.

## Main definitions

* `Sequence`: What the bytes at hand begin with.
* `decodeSequences`: The characters that the bytes encode.
-/

namespace Stencil.Text

/-- What the bytes at hand begin with. The first of them is always part of it,
    and `more` counts those of the others that are. -/
inductive Sequence (σ : Type) where
  /-- A sequence, the characters it stands for, and how to read on. -/
  | chars (s : List Char) (more : Nat) (state : σ)
  /-- No sequence. -/
  | illegal (more : Nat)
  /-- The start of a sequence, all that is left. -/
  | cutOff
  /-- A call for a character of a set that has none to call up. -/
  | undesignated

namespace Sequence

/-- A sequence of one byte. -/
def one {σ : Type} (c : Char) (state : σ) : Sequence σ :=
  .chars [c] 0 state

/-- A byte that is its own code point. -/
def plain {σ : Type} (b : UInt8) (state : σ) : Sequence σ :=
  .one (Char.ofNat b.toNat) state

/-- The sequence that was found. If there is none, a fault covers as many further
    bytes as `faulty` says. -/
def ofFound {σ : Type} (found : Option (List Char)) (more : Nat) (state : σ)
    (faulty : Nat := 0) : Sequence σ :=
  match found with
  | some s => .chars s more state
  | none => .illegal faulty

/-- A sequence of two bytes, whose second one is looked up. -/
def ofTwo {σ : Type} (state : σ) (find : UInt8 → Option Char) : List UInt8 → Sequence σ
  | [] => .cutOff
  | b :: _ => .ofFound ((find b).map ([·])) 1 state

end Sequence

/-- The characters that the bytes encode; `start` is how many bytes were read
    before them, and the encoding is reported under the name `label`. -/
def decodeSequences {σ : Type} (label : String) (sequence : σ → UInt8 → List UInt8 → Sequence σ)
    (state : σ) (start : Nat) : List UInt8 → Except ReadFault (List Char)
  | [] => .ok []
  | a :: rest =>
    match sequence state a rest with
    | .chars s more next =>
      (decodeSequences label sequence next (start + more + 1) (rest.drop more)).map (s ++ ·)
    | .illegal more => .error (.bytes ⟨label, start, a, more + 1, .illegalSequence⟩)
    | .cutOff => .error (.bytes ⟨label, start, a, rest.length + 1, .incompleteSequence⟩)
    | .undesignated => .error .undesignated
termination_by bytes => bytes.length
decreasing_by
  simp only [List.length_drop, List.length_cons]
  omega

end Stencil.Text
