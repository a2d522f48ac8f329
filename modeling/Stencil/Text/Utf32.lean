import Stencil.Text.ByteOrder
import Stencil.Text.Fault

/-!
# Reading UTF-32

The characters that a list of bytes encodes in units of four bytes, each the
code point of a character. A fault covers the unit that is none, or what is
left of the bytes if they end inside a unit.

## Main definitions

* `decodeUtf32`: The characters that the bytes encode.
-/

namespace Stencil.Text

/-- The characters that the bytes encode; `start` is how many bytes were read
    before them. -/
def decodeUtf32 (order : ByteOrder) (start : Nat) : List UInt8 → Except DecodeFault (List Char)
  | [] => .ok []
  | a :: rest =>
    let fault (length : Nat) (reason : DecodeReason) : Except DecodeFault (List Char) :=
      .error ⟨"utf-32-" ++ order.label, start, a, length, reason⟩
    match rest with
    | b :: c :: d :: rest =>
      let unit := order.number [a, b, c, d]
      if 0x110000 ≤ unit then fault 4 .beyondLast
      else if 0xD800 ≤ unit && unit < 0xE000 then fault 4 .surrogate
      else do
        return Char.ofNat unit :: (← decodeUtf32 order (start + 4) rest)
    | _ => fault (1 + rest.length) .truncated

end Stencil.Text
