import Stencil.Text.Utf16

/-!
# Reading UTF-7

Text in bytes of ASCII alone. All but the plus sign stand for themselves. A plus
sign begins a part in base 64, whose digits are the bits of units of UTF-16, and
the first byte that is no digit ends it; a hyphen there is part of it, and so is
one right after a plus sign, where the two stand for the sign itself.

A fault inside such a part covers it from its beginning on.

## Main definitions

* `base64Digit?`: The value of a digit.
* `decodeUtf7`: The characters that the bytes encode.
-/

namespace Stencil.Text

/-- The value of a digit in base 64. -/
def base64Digit? (b : UInt8) : Option Nat :=
  let c := Char.ofNat b.toNat
  if c.isUpper then some (b.toNat - 0x41)
  else if c.isLower then some (b.toNat - 0x61 + 26)
  else if c.isDigit then some (b.toNat - 0x30 + 52)
  else if c = '+' then some 62
  else if c = '/' then some 63
  else none

/-- A part in base 64, as far as it was read. -/
structure Base64Part where
  /-- How many bytes were read before it. -/
  start : Nat
  /-- How many bits were read that are no unit yet, and what they are. -/
  bits : Nat := 0
  value : Nat := 0
  /-- The first half of a pair, if the last unit was one. -/
  half : Option Nat := none
deriving DecidableEq, Repr

namespace Base64Part

/-- The characters of a unit after a first half that may be left over. A half
    without the other is replaced. -/
def unit (p : Base64Part) (unit : Nat) : List Char × Option Nat :=
  match p.half with
  | some first =>
    if isSecondHalf unit then ([Char.ofNat (codePointOfPair first unit)], none)
    else if isFirstHalf unit then (['\ufffd'], some unit)
    else (['\ufffd', Char.ofNat unit], none)
  | none => if isFirstHalf unit then ([], some unit) else ([Char.ofNat unit], none)

/-- The part after one more digit, and the characters that this completes. -/
def digit (p : Base64Part) (d : Nat) : List Char × Base64Part :=
  let value := p.value * 0x40 + d
  let bits := p.bits + 6
  if bits < 16 then ([], { p with bits, value })
  else
    let (s, half) := p.unit (value >>> (bits - 16))
    (s, { p with bits := bits - 16, value := value % (1 <<< (bits - 16)), half })

/-- What is wrong with a part that ends here, if anything. -/
def fault? (p : Base64Part) : Option DecodeReason :=
  if 6 ≤ p.bits then some .partialUnit
  else if 0 < p.bits ∧ p.value ≠ 0 then some .leftoverBits
  else none

end Base64Part

/-- The characters that the bytes encode, inside a part in base 64 or outside;
    `pos` is how many bytes were read before them. -/
def decodeUtf7From (pos : Nat) : Option Base64Part → List UInt8 → Except DecodeFault (List Char)
  | none, [] => .ok []
  | some p, [] =>
    if p.half.isSome ∨ p.fault?.isSome then
      .error ⟨"utf7", p.start, 0x2B, pos - p.start, .unterminated⟩
    else .ok []
  | some p, a :: rest =>
    match base64Digit? a with
    | some d =>
      let (s, p) := p.digit d
      (decodeUtf7From (pos + 1) (some p) rest).map (s ++ ·)
    | none =>
      match p.fault? with
      | some reason => .error ⟨"utf7", p.start, 0x2B, pos + 1 - p.start, reason⟩
      | none =>
        -- The part is over, and the byte is read as one outside of it.
        let left := if p.half.isSome then ['\ufffd'] else []
        if a == 0x2D then (decodeUtf7From (pos + 1) none rest).map (left ++ ·)
        else if a < 0x80 then
          (decodeUtf7From (pos + 1) none rest).map (left ++ Char.ofNat a.toNat :: ·)
        else .error ⟨"utf7", pos, a, 1, .specialByte⟩
  | none, a :: rest =>
    if a == 0x2B then
      match rest with
      | [] => .ok []
      | b :: rest =>
        if b == 0x2D then (decodeUtf7From (pos + 2) none rest).map ('+' :: ·)
        else if (base64Digit? b).isNone then .error ⟨"utf7", pos, a, 2, .illFormed⟩
        else decodeUtf7From (pos + 1) (some { start := pos }) (b :: rest)
    else if a < 0x80 then (decodeUtf7From (pos + 1) none rest).map (Char.ofNat a.toNat :: ·)
    else .error ⟨"utf7", pos, a, 1, .specialByte⟩

/-- The characters that the bytes encode. -/
def decodeUtf7 (bytes : List UInt8) : Except DecodeFault (List Char) :=
  decodeUtf7From 0 none bytes

end Stencil.Text
