import Stencil.Text.Chinese.Gb2312
import Stencil.Text.Sequence

/-!
# HZ

Chinese text in bytes of ASCII alone. Signs that a tilde begins say where
characters of GB 2312 begin, in two bytes each, and where they end. A doubled
tilde is one, and a tilde before the end of a line joins the next line to it.

## Main definitions

* `Hz.sequence`: What bytes begin with.
-/

namespace Stencil.Text.Hz

/-- What bytes begin with, in a Chinese part of the text or outside. -/
def sequence (chinese : Bool) (a : UInt8) (rest : List UInt8) : Sequence Bool :=
  if a == 0x7E then
    match rest with
    | [] => .cutOff
    | b :: _ =>
      match chinese, Char.ofNat b.toNat with
      | false, '~' => .chars ['~'] 1 false
      | false, '\x7b' => .chars [] 1 true
      | false, '\n' => .chars [] 1 false
      | true, '\x7d' => .chars [] 1 false
      | _, _ => .illegal 0
  else if 0x80 ≤ a then .illegal 0
  else if chinese then .ofTwo true (Grid.gb2312.byBytes? 0x21 a) rest
  else .plain a false

end Stencil.Text.Hz
