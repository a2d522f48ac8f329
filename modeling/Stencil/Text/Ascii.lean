import Stencil.Text.Fault

/-!
# Reading ASCII

The characters of bytes, each of which has to be one of ASCII.

## Main definitions

* `decodeAscii`: The characters that the bytes encode.
-/

namespace Stencil.Text

/-- The characters of ASCII bytes; `start` is how many bytes were read before
    them. -/
def decodeAscii (start : Nat) : List UInt8 → Except DecodeFault (List Char)
  | [] => .ok []
  | b :: rest =>
    if b < 0x80 then do
      return Char.ofNat b.toNat :: (← decodeAscii (start + 1) rest)
    else .error ⟨"ascii", start, b, 1, .outOfRange⟩

end Stencil.Text
