import Stencil.Pattern.Basic

/-!
# Widths

How many characters a pattern fits at least and at most.

A look behind has to know how far back to go, so what it looks for must have one
length. The lengths of groups are given, for the sake of those that are referred
to.

## Main definitions

* `Width`: A least and a greatest length.
* `Pattern.width`: The width of a pattern.
-/

namespace Stencil.Pattern

/-- A least length, and a greatest one if there is one. -/
structure Width where
  least : Nat
  most : Option Nat
deriving DecidableEq, Repr

namespace Width

/-- The length zero. -/
def zero : Width :=
  ⟨0, some 0⟩

/-- The width of one thing after the other. -/
def add (v w : Width) : Width :=
  ⟨v.least + w.least, do return (← v.most) + (← w.most)⟩

/-- The width of one thing or the other. -/
def join (v w : Width) : Width :=
  ⟨min v.least w.least, do return max (← v.most) (← w.most)⟩

/-- The width of a thing at least and at most so many times. -/
def times (w : Width) (least : Nat) (most : Option Nat) : Width :=
  ⟨w.least * least, if w.most = some 0 ∨ most = some 0 then some 0 else do
    return (← w.most) * (← most)⟩

end Width

/-- The width of a pattern, given those of groups. -/
def width (groups : Nat → Width) : Pattern → Width
  | empty | look .. | anchor _ => .zero
  | run _ least most => Width.times ⟨1, some 1⟩ least most
  | seq p q => (p.width groups).add (q.width groups)
  | either p q | given _ p q => (p.width groups).join (q.width groups)
  | repeated p least most _ => (p.width groups).times least most
  | group _ p | atomic p => p.width groups
  | again number _ => groups number

end Stencil.Pattern
