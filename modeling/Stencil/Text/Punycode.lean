import Stencil.Text.Ascii
import Stencil.Text.CodePoints

/-!
# Punycode

Text in letters, digits and hyphens of ASCII. What stands before the last hyphen
are the ASCII characters of the text. What stands after it says where the other
characters belong, in the order of their code points: each is given by how far it
is on from the one before, in code points and in places, all possible places of a
code point being counted.

The distances are numbers of variable length, whose digits stand with the lowest
first. A digit below a threshold ends a number, and the thresholds adapt to the
numbers read so far.

## Main definitions

* `Punycode.decode`: The text of what stands before and after the last hyphen.
* `Punycode.decodeBytes`: The text that bytes encode.
-/

namespace Stencil.Text.Punycode

/-- The value of a digit: a letter in either case, or a decimal digit. -/
def digit? (c : Char) : Option Nat :=
  if c.isUpper then some (c.toNat - 0x41)
  else if c.isLower then some (c.toNat - 0x61)
  else if c.isDigit then some (c.toNat - 0x30 + 26)
  else none

/-- The threshold of the digit at a place, given the bias. -/
def threshold (place bias : Nat) : Nat :=
  max 1 (min 26 (36 * (place + 1) - bias))

/-- Divides by 35 until the number is small; the number, and how often. -/
def reduce (n : Nat) : Nat × Nat :=
  if 455 < n then
    let (m, count) := reduce (n / 35)
    (m, count + 1)
  else (n, 0)
termination_by n
decreasing_by omega

/-- The bias after a distance, when that many characters are there. The first
    distance is damped more. -/
def adapt (distance : Nat) (isFirst : Bool) (count : Nat) : Nat :=
  let n := if isFirst then distance / 700 else distance / 2
  let (m, times) := reduce (n + n / count)
  36 * times + 36 * m / (m + 38)

/-- The number at the front, and what stands after it. A digit counts as often as
    the weight says. -/
def number? (bias : Nat) : (place weight : Nat) → List Char → Option (Nat × List Char)
  | _, _, [] => none
  | place, weight, c :: rest => do
    let d ← digit? c
    let t := threshold place bias
    if d < t then return (d * weight, rest)
    else
      let (n, rest) ← number? bias (place + 1) (weight * (36 - t)) rest
      return (n + d * weight, rest)

/-- Reading a number takes at least a digit. -/
theorem length_lt_of_number? {bias place weight n : Nat} {s rest : List Char}
    (h : number? bias place weight s = some (n, rest)) : rest.length < s.length := by
  induction s generalizing place weight n with
  | nil => simp [number?] at h
  | cons c s ih =>
      simp only [number?, bind, Option.bind_eq_some_iff] at h
      obtain ⟨d, -, h⟩ := h
      split at h
      · simp only [pure, Option.some.injEq, Prod.mk.injEq] at h
        simp [← h.2]
      · simp only [pure, Option.bind_eq_some_iff, Option.some.injEq, Prod.mk.injEq] at h
        obtain ⟨⟨m, left⟩, hm, -, rfl⟩ := h
        exact Nat.lt_succ_of_lt (ih hm)

/-- Puts in the characters that the distances give. The last one was at the place
    before `place`, and had the code point `point`. -/
def insertAll (point place bias : Nat) (isFirst : Bool) (text : List Nat) (s : List Char) :
    Option (List Nat) :=
  if s.isEmpty then some text
  else match h : number? bias 0 1 s with
    | none => none
    | some (distance, rest) =>
      let count := text.length + 1
      let point' := point + (place + distance) / count
      let place' := (place + distance) % count
      if 0x10FFFF < point' then none
      else insertAll point' (place' + 1) (adapt distance isFirst count) false
        (text.insertIdx place' point') rest
termination_by s.length
decreasing_by exact length_lt_of_number? h

/-- The code points of a text, given its ASCII characters and where the others
    belong. -/
def decode (basic extended : List Char) : Option (List Nat) :=
  insertAll 0x80 0 72 true (basic.map Char.toNat) extended

/-- What stands before and after the last hyphen. Without one, all stands after. -/
def splitLast (bytes : List UInt8) : List UInt8 × List UInt8 :=
  match bytes.reverse.span (· != 0x2D) with
  | (_, []) => ([], bytes)
  | (after, _ :: before) => (before.reverse, after.reverse)

/-- The code points that the bytes encode. -/
def decodePoints (bytes : List UInt8) : Except ReadFault (List Nat) := do
  let (before, after) := splitLast bytes
  let basic ← (decodeAscii 0 before).mapError .bytes
  let extended ← (decodeAscii 0 after).mapError .bytes
  match decode basic extended with
  | none => .error .misplaced
  | some points => .ok points

/-- The characters that the bytes encode. -/
def decodeBytes (bytes : List UInt8) : Except ReadFault (List Char) :=
  (decodePoints bytes).map joinHalves

end Stencil.Text.Punycode
