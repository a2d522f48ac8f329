import Stencil.Text.CharacterNames
import Stencil.Text.CodePoints

/-!
# Reading Escapes

Text in which each byte is the character of its number, but for a backslash,
which begins an escape. An escape gives a character by a letter, by its number in
octal or hexadecimal digits, or by its name. A backslash before the end of a line
joins the next line to it, and one before a character that it means nothing with
stands for itself.

In a second sort only two kinds of escapes by number are read.

The two halves of a pair, given by an escape each, are one character.

## Main definitions

* `decodeEscapes`: The characters that bytes encode.
* `decodeRawEscapes`: The same for the second sort.
-/

namespace Stencil.Text

/-- The value of a hexadecimal digit. -/
def hexValue? (b : UInt8) : Option Nat :=
  let c := Char.ofNat b.toNat
  if c.isDigit then some (b.toNat - 0x30)
  else if 'a' ≤ c ∧ c ≤ 'f' then some (b.toNat - 0x61 + 10)
  else if 'A' ≤ c ∧ c ≤ 'F' then some (b.toNat - 0x41 + 10)
  else none

/-- The number of the leading hexadecimal digits, of which at most `count` are
    read, and how many there are. -/
def hexNumber : Nat → List UInt8 → Nat × Nat
  | count + 1, b :: rest =>
    match hexValue? b with
    | some d =>
      let (n, length) := hexNumber count rest
      (d * 0x10 ^ length + n, length + 1)
    | none => (0, 0)
  | _, _ => (0, 0)

/-- What a backslash and the bytes after it are. Those that belong to it are
    counted without the backslash. -/
inductive Escape where
  /-- An escape, and the code points it gives. -/
  | points (ps : List Nat) (more : Nat)
  /-- No escape. -/
  | faulty (more : Nat) (reason : DecodeReason)
deriving DecidableEq, Repr

namespace Escape

/-- An escape by number. Its kind says how many digits it has. -/
def numbered (kind : Char) (beyond : DecodeReason) (rest : List UInt8) : Escape :=
  let count := escapeDigits kind
  let (n, length) := hexNumber count rest
  if length < count then .faulty (length + 1) (.truncatedEscape kind)
  else if 0x10FFFF < n then .faulty (length + 1) beyond
  else .points [n] (length + 1)

/-- An escape by name, which stands in braces. -/
def named : List UInt8 → Escape
  | 0x7B :: rest =>
    let name := rest.takeWhile (· != 0x7D)
    if name.length = rest.length then .faulty (rest.length + 2) .malformedName
    else if name.isEmpty then .faulty 2 .malformedName
    else match codePointNamed? (name.map fun b => Char.ofNat b.toNat) with
      | some n => .points [n] (name.length + 3)
      | none => .faulty (name.length + 3) .unknownName
  | _ => .faulty 1 .malformedName

/-- An escape by up to three octal digits, the first of which is given. -/
def octal (b : UInt8) (rest : List UInt8) : Escape :=
  let digits := b :: (rest.take 2).takeWhile fun d => 0x30 ≤ d && d ≤ 0x37
  .points [digits.foldl (fun n d => n * 8 + (d.toNat - 0x30)) 0] digits.length

/-- The control character that a letter stands for. -/
def control? : Char → Option Nat
  | 'a' => some 0x07
  | 'b' => some 0x08
  | 't' => some 0x09
  | 'n' => some 0x0A
  | 'v' => some 0x0B
  | 'f' => some 0x0C
  | 'r' => some 0x0D
  | _ => none

/-- What a backslash before bytes is. -/
def ofBytes : List UInt8 → Escape
  | [] => .faulty 0 .loneBackslash
  | b :: rest =>
    let c := Char.ofNat b.toNat
    if c = '\n' then .points [] 1
    else if c ∈ ['\\', '\'', '"'] then .points [b.toNat] 1
    else if c ∈ ['x', 'u', 'U'] then numbered c .noCodePoint rest
    else if c = 'N' then named rest
    else if '0' ≤ c ∧ c ≤ '7' then octal b rest
    else match control? c with
      | some n => .points [n] 1
      | none => .points [0x5C, b.toNat] 1

/-- The same where escapes are by number only, in four digits or eight. A
    backslash at the end stands for itself. -/
def ofBytesRaw : List UInt8 → Escape
  | [] => .points [0x5C] 0
  | b :: rest =>
    let c := Char.ofNat b.toNat
    if c ∈ ['u', 'U'] then numbered c .rawBeyondLast rest
    else .points [0x5C, b.toNat] 1

end Escape

/-- The code points that the bytes encode; `start` is how many bytes were read
    before them, and the sort of escapes is reported under the name `label`. -/
def escapedPoints (label : String) (escape : List UInt8 → Escape) (start : Nat) :
    List UInt8 → Except DecodeFault (List Nat)
  | [] => .ok []
  | b :: rest =>
    if b == 0x5C then
      match escape rest with
      | .points ps more =>
        (escapedPoints label escape (start + more + 1) (rest.drop more)).map (ps ++ ·)
      | .faulty more reason => .error ⟨label, start, b, more + 1, reason⟩
    else (escapedPoints label escape (start + 1) rest).map (b.toNat :: ·)
termination_by bytes => bytes.length
decreasing_by
  all_goals
    simp only [List.length_drop, List.length_cons]
    omega

/-- The characters that the bytes encode. -/
def decodeEscapes (bytes : List UInt8) : Except DecodeFault (List Char) :=
  (escapedPoints "unicodeescape" Escape.ofBytes 0 bytes).map joinHalves

/-- The characters that the bytes encode, where escapes are by number only. -/
def decodeRawEscapes (bytes : List UInt8) : Except DecodeFault (List Char) :=
  (escapedPoints "rawunicodeescape" Escape.ofBytesRaw 0 bytes).map joinHalves

end Stencil.Text
