import Stencil.Text.ByteOrder
import Stencil.Text.Fault

/-!
# Reading UTF-16

The characters that a list of bytes encodes in units of two bytes.

A unit is a character, unless it is half of a pair: a first half and a second
one together are a character beyond those that a unit can be. A fault covers
the half that has no other. Where the bytes end after a first half, it covers
what is left of them.

## Main definitions

* `decodeUtf16`: The characters that the bytes encode.
-/

namespace Stencil.Text

/-- A unit that is the first half of a pair. -/
def isFirstHalf (unit : Nat) : Bool :=
  0xD800 ≤ unit && unit < 0xDC00

/-- A unit that is the second half of a pair. -/
def isSecondHalf (unit : Nat) : Bool :=
  0xDC00 ≤ unit && unit < 0xE000

/-- The code point of a pair. -/
def codePointOfPair (first second : Nat) : Nat :=
  0x10000 + (first - 0xD800) * 0x400 + (second - 0xDC00)

/-- The characters that the bytes encode; `start` is how many bytes were read
    before them. -/
def decodeUtf16 (order : ByteOrder) (start : Nat) : List UInt8 → Except DecodeFault (List Char)
  | [] => .ok []
  | a :: rest =>
    let fault (length : Nat) (reason : DecodeReason) : Except DecodeFault (List Char) :=
      .error ⟨"utf-16-" ++ order.label, start, a, length, reason⟩
    match rest with
    | [] => fault 1 .truncated
    | b :: rest =>
      let unit := order.number [a, b]
      if isSecondHalf unit then fault 2 .loneSecondHalf
      else if isFirstHalf unit then
        match rest with
        | c :: d :: rest =>
          let other := order.number [c, d]
          if !isSecondHalf other then fault 2 .loneFirstHalf
          else do
            return Char.ofNat (codePointOfPair unit other) ::
              (← decodeUtf16 order (start + 4) rest)
        | _ => fault (2 + rest.length) .unexpectedEnd
      else do
        return Char.ofNat unit :: (← decodeUtf16 order (start + 2) rest)

end Stencil.Text
