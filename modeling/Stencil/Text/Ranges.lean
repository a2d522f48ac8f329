/-!
# Ranges of Code Points

Classes of characters that are data rather than a rule: a list of closed
ranges of code points, in ascending order. The classes that use it are looked
up for short texts only, so membership is a plain walk along the list.

## Main definitions

* `CodeRange`: A first and a last code point.
* `inRanges`: Whether some range holds a character.
-/

namespace Stencil.Text

/-- The code points from the first to the second, both included. -/
abbrev CodeRange := Nat × Nat

/-- Some range of the list holds the character. -/
def inRanges (ranges : List CodeRange) (c : Char) : Bool :=
  ranges.any fun r => r.1 ≤ c.toNat && c.toNat ≤ r.2

end Stencil.Text
