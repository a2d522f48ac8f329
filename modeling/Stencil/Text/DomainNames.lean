import Stencil.Text.DomainNames.NormalForm
import Stencil.Text.Punycode

/-!
# Names of the Domain Name System

Text of labels with full stops between them, in ASCII. A label with a mark in
front is in Punycode behind it. It is read only if it is what the text that it
stands for would be written as.

A text is written in a prepared form: small letters, each character in the form
that stands for all of its kind, and marks put in order and joined with their
letters as far as can be. In a text that is written from right to left there are
no letters of the other direction, and both its ends are of that direction.

## Main definitions

* `DomainNames.isPrepared`: The texts in the prepared form.
* `DomainNames.decodeLabel`: The characters of a label.
* `decodeDomainNames`: The characters that bytes encode.
-/

namespace Stencil.Text

namespace DomainNames

/-- Whether the directions of the characters go together. -/
def isDirected (s : List Char) : Bool :=
  let isRight := inRanges rightToLeft
  !s.any isRight ||
    (!s.any (inRanges leftToRight) && s.head?.any isRight && s.getLast?.any isRight)

/-- The texts in the prepared form. -/
def isPrepared (s : List Char) : Bool :=
  s.all (!inRanges unprepared ·) && normalForm s == s && isDirected s

/-- The mark of a label in Punycode. -/
def mark : List UInt8 := "xn--".toUTF8.toList

/-- The length that a label stays below. -/
def maxLabelLength : Nat := 64

/-- A letter of ASCII in lower case; other characters are themselves. -/
def lowered (points : List Nat) : List Char :=
  joinHalves points |>.map Char.toLower

/-- Whether a label is what its text would be written as. A label without
    characters beyond ASCII would not be marked, and one without others would not
    have a hyphen before them. -/
def isFaithful (label : List UInt8) (points : List Nat) : Bool :=
  let s := lowered points
  label.length + mark.length < maxLabelLength &&
    points.any (0x80 ≤ ·) && !points.any (fun n => isFirstHalf n || isSecondHalf n) &&
    !(s.all (0x80 ≤ ·.toNat) && label.contains 0x2D) &&
    !("xn--".toList.isPrefixOf s) && isPrepared s

/-- The characters of a label, all of whose bytes are of ASCII. -/
def decodeLabel (label : List UInt8) : Except ReadFault (List Char) :=
  if mark.isPrefixOf label then do
    let label := label.drop mark.length
    let points ← Punycode.decodePoints label
    if isFaithful label points then return joinHalves points else throw .unfaithfulName
  else .ok (label.map fun b => Char.ofNat b.toNat)

/-- The labels of bytes, between full stops. -/
def labels : List UInt8 → List (List UInt8)
  | [] => [[]]
  | b :: rest =>
    match b == 0x2E, labels rest with
    | false, label :: others => (b :: label) :: others
    | _, others => [] :: others

end DomainNames

/-- The characters that the bytes encode. -/
def decodeDomainNames (bytes : List UInt8) : Except ReadFault (List Char) := do
  let _ ← (decodeAscii 0 bytes).mapError .bytes
  let texts ← (DomainNames.labels bytes).mapM DomainNames.decodeLabel
  return ['.'].intercalate texts

end Stencil.Text
