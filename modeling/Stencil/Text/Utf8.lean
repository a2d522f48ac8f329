import Stencil.Text.Fault

/-!
# Reading UTF-8

The characters that a list of bytes encodes, or where and why it encodes none.

A well-formed sequence is a lead byte and the continuation bytes it asks for.
The second byte is bounded more narrowly after four of the lead bytes, which
is what excludes overlong forms, surrogates and code points beyond the last.
A fault covers the longest start of a well-formed sequence at the faulty
place: a byte that cannot lead is a fault of length one, a sequence broken by
a wrong byte ends before that byte, and one cut off by the end of the bytes
runs to the end.

## Main definitions

* `decodeUtf8`: The characters that the bytes encode.
-/

namespace Stencil.Text

/-- A byte that continues a sequence: its two highest bits are one and zero. -/
def isContinuation (b : UInt8) : Bool :=
  0x80 ≤ b && b ≤ 0xBF

/-- The six bits that a continuation byte carries. -/
def continuationBits (b : UInt8) : Nat :=
  b.toNat % 0x40

/-- A byte that may follow the lead byte of a sequence of three. -/
def isSecondOfThree (lead b : UInt8) : Bool :=
  isContinuation b && (if lead == 0xE0 then 0xA0 ≤ b else true) &&
    (if lead == 0xED then b ≤ 0x9F else true)

/-- A byte that may follow the lead byte of a sequence of four. -/
def isSecondOfFour (lead b : UInt8) : Bool :=
  isContinuation b && (if lead == 0xF0 then 0x90 ≤ b else true) &&
    (if lead == 0xF4 then b ≤ 0x8F else true)

/-- The characters that the bytes encode; `start` is how many bytes were read
    before them. -/
def decodeUtf8 (start : Nat) : List UInt8 → Except DecodeFault (List Char)
  | [] => .ok []
  | a :: rest =>
    let fault (length : Nat) (reason : DecodeReason) : Except DecodeFault (List Char) :=
      .error ⟨"utf-8", start, a, length, reason⟩
    if a < 0x80 then do
      return Char.ofNat a.toNat :: (← decodeUtf8 (start + 1) rest)
    else if a < 0xC2 then fault 1 .invalidStart
    else if a < 0xE0 then
      match rest with
      | [] => fault 1 .unexpectedEnd
      | b :: rest =>
        if !isContinuation b then fault 1 .invalidContinuation
        else do
          let n := (a.toNat % 0x20) * 0x40 + continuationBits b
          return Char.ofNat n :: (← decodeUtf8 (start + 2) rest)
    else if a < 0xF0 then
      match rest with
      | [] => fault 1 .unexpectedEnd
      | b :: rest =>
        if !isSecondOfThree a b then fault 1 .invalidContinuation
        else match rest with
          | [] => fault 2 .unexpectedEnd
          | c :: rest =>
            if !isContinuation c then fault 2 .invalidContinuation
            else do
              let n := ((a.toNat % 0x10) * 0x40 + continuationBits b) * 0x40 + continuationBits c
              return Char.ofNat n :: (← decodeUtf8 (start + 3) rest)
    else if a < 0xF5 then
      match rest with
      | [] => fault 1 .unexpectedEnd
      | b :: rest =>
        if !isSecondOfFour a b then fault 1 .invalidContinuation
        else match rest with
          | [] => fault 2 .unexpectedEnd
          | c :: rest =>
            if !isContinuation c then fault 2 .invalidContinuation
            else match rest with
              | [] => fault 3 .unexpectedEnd
              | d :: rest =>
                if !isContinuation d then fault 3 .invalidContinuation
                else do
                  let n := (((a.toNat % 0x08) * 0x40 + continuationBits b) * 0x40 +
                    continuationBits c) * 0x40 + continuationBits d
                  return Char.ofNat n :: (← decodeUtf8 (start + 4) rest)
    else fault 1 .invalidStart

end Stencil.Text
