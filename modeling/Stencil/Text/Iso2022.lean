import Stencil.Text.Chinese.Gb2312
import Stencil.Text.Japanese.Jis0201
import Stencil.Text.Japanese.Jis0212
import Stencil.Text.Japanese.Planes
import Stencil.Text.Korean.Ks1001
import Stencil.Text.Sequence

/-!
# Shifting Between Character Sets

Text in bytes of ASCII alone, after the rules of ISO 2022. An escape sequence
designates a character set to one of three places. Bytes are read by the set in
the first place, or by that in the second while they are shifted there. A single
character can be called up from the third.

The encodings of this kind differ in the sets that may be designated, and in
whether there are shifts and a third place. An escape character that begins no
sequence of this kind is let through with all that follows up to a letter that
could end one.

## Main definitions

* `Charset`: The character sets.
* `Iso2022`: The encodings.
* `Iso2022.sequence`: What bytes begin with.
-/

namespace Stencil.Text

/-- The sets that an escape sequence can designate. -/
inductive Charset where
  | ascii
  | roman
  | katakana
  | latin1
  | greek
  /-- JIS X 0208, or an older edition of it that is read alike. -/
  | jis0208 (old : Bool)
  | jis0212
  | jis0213First (e : Jis0213Edition)
  | jis0213Second
  | gb2312
  | ks1001
deriving DecidableEq, Repr

namespace Charset

/-- Whether a character takes two bytes. -/
def isWide : Charset → Bool
  | ascii | roman | katakana | latin1 | greek => false
  | _ => true

/-- The letter that ends a sequence that designates the set. -/
def letter : Charset → Char
  | ascii => 'B'
  | roman => 'J'
  | katakana => 'I'
  | latin1 => 'A'
  | greek => 'F'
  | jis0208 true => '@'
  | jis0208 false => 'B'
  | jis0212 => 'D'
  | jis0213First .of2000 => 'O'
  | jis0213First .of2004 => 'Q'
  | jis0213Second => 'P'
  | gb2312 => 'A'
  | ks1001 => 'C'

/-- What two bytes stand for in a set in which they stand for a character. The
    tilde of JIS X 0213 is that of ASCII. -/
def two? (s : Charset) (a b : UInt8) : Option (List Char) :=
  match s with
  | jis0208 _ => (Grid.jis0208.byBytes? 0x21 a b).map ([·])
  | jis0212 => (Grid.jis0212.byBytes? 0x21 a b).map ([·])
  | gb2312 => (Grid.gb2312.byBytes? 0x21 a b).map ([·])
  | ks1001 => (Grid.ks1001.byBytes? 0x21 a b).map ([·])
  | jis0213First e =>
    if a < 0x21 || b < 0x21 then none
    else if a == 0x22 && b == 0x32 then some ['~']
    else e.first? (a - 0x21).toNat (b - 0x21).toNat
  | jis0213Second => (Grid.jis0213Second.byBytes? 0x21 a b).map ([·])
  | _ => none

/-- The character of one byte, in a set in which it is one. The Latin and Greek
    letters can be called up only. -/
def one? (s : Charset) (a : UInt8) : Option Char :=
  match s with
  | roman => some (romanChar a)
  | katakana => kana? (a + 0x80)
  | _ => none

/-- The Greek letters, and the signs before them, from the place of the space. -/
def greekLetters : String :=
  "\u00a0‘’£��¦§¨©�«¬\u00ad�―°±²³΄΅Ά·ΈΉΊ»Ό½ΎΏΐΑΒΓΔΕΖΗΘΙΚΛΜΝΞΟΠΡ�ΣΤΥΦΧΨΩΪΫάέήίΰαβγδεζηθικλμνξοπρςστυ" ++
  "φχψωϊϋόύώ"

/-- The character of a byte that is called up from a set, if the set has such
    characters at all. -/
def calledUp? (s : Charset) (b : UInt8) : Option (Option Char) :=
  match s with
  | ascii => some (if b < 0x80 then some (Char.ofNat b.toNat) else none)
  | latin1 => some (if b < 0x80 then some (Char.ofNat (b.toNat + 0x80)) else none)
  | greek => some <|
    if 0x80 ≤ b then some (Char.ofNat (b.toNat - 0x80))
    else if b < 0x20 then some (Char.ofNat (b.toNat + 0x80))
    else cell? greekLetters (b.toNat - 0x20)
  | _ => none

end Charset

/-- The encodings that shift between sets. -/
inductive Iso2022 where
  | korean
  | japanese
  | japanese1
  | japanese2
  | japanese3
  | japanese2004
  | japaneseExtended
deriving DecidableEq, Repr

namespace Iso2022

open Charset in
/-- The sets that can be designated. -/
def charsets : Iso2022 → List Charset
  | korean => [ascii, ks1001]
  | japanese => [ascii, jis0208 false, jis0208 true, roman]
  | japanese1 => [ascii, jis0208 false, jis0208 true, roman, jis0212]
  | japanese2 =>
    [ascii, jis0208 false, jis0208 true, roman, jis0212, gb2312, ks1001, latin1, greek]
  | japanese3 => [ascii, jis0208 false, jis0213First .of2000, jis0213Second]
  | japanese2004 => [ascii, jis0208 false, jis0213First .of2004, jis0213Second]
  | japaneseExtended => [ascii, jis0208 false, jis0208 true, roman, jis0212, katakana]

/-- Whether bytes can be shifted to the set in the second place. -/
def hasShifts (v : Iso2022) : Bool :=
  v == korean

/-- Whether characters can be called up from a third place. -/
def hasThird (v : Iso2022) : Bool :=
  v == japanese2

/-- Whether a sequence may say beforehand that a set is of a later edition. -/
def hasRevisions (v : Iso2022) : Bool :=
  v != korean

/-- How bytes are to be read. -/
structure Mode where
  first : Charset := .ascii
  second : Charset := .ascii
  third : Charset := .ascii
  /-- Bytes are read by the set in the second place. -/
  isShifted : Bool := false
  /-- Bytes are let through up to a letter. -/
  isThrough : Bool := false
deriving DecidableEq, Repr

/-- The sets in the three places, by number. -/
def Mode.designate (m : Mode) (place : Nat) (s : Charset) : Mode :=
  match place with
  | 0 => { m with first := s }
  | 1 => { m with second := s }
  | _ => { m with third := s }

/-- A letter that ends an escape sequence. -/
def isFinal (b : UInt8) : Bool :=
  0x40 ≤ b && b ≤ 0x5A

/-- The length of the longest escape sequence that is looked for. -/
def maxEscapeLength : Nat := 16

/-- How many of the bytes after an escape character belong to its sequence, the
    last being a letter; `count` of them were looked at before. The bytes may end
    before there is a letter, and no bytes belong to it if there is none in time.
    What a sequence of revision says goes together with the sequence after it. -/
def escapeLength (v : Iso2022) (count : Nat) (bytes : List UInt8) : Option Nat :=
  if maxEscapeLength ≤ count + 1 then some 0
  else match bytes with
    | [] => none
    | b :: rest =>
      if isFinal b then some (count + 1)
      else if v.hasRevisions && b == 0x26 && rest.head? == some 0x40 then
        escapeLength v (count + 3) (rest.drop 2)
      else escapeLength v (count + 1) rest
termination_by bytes.length
decreasing_by
  all_goals
    simp only [List.length_drop, List.length_cons]
    omega

/-- The place, the width and the letter that a whole escape sequence names, the
    escape character left out. What stands before the second escape character of
    a sequence with a revision is not looked at. -/
def designation? (v : Iso2022) (escape : List Char) : Option (Nat × Bool × Char) :=
  match escape with
  | ['$', c] => some (0, true, c)
  | ['(', c] => some (0, false, c)
  | [')', c] => some (1, false, c)
  | ['.', c] => if v.hasThird then some (2, false, c) else none
  | ['$', '(', c] => some (0, true, c)
  | ['$', ')', c] => some (1, true, c)
  | [_, _, '\x1b', '$', 'B'] => if v.hasRevisions then some (0, true, 'B') else none
  | _ => none

/-- What an escape character and the bytes after it begin with, these being the
    start of a designation. -/
def escape (v : Iso2022) (m : Mode) (rest : List UInt8) : Sequence Mode :=
  match v.escapeLength 0 rest with
  | none => .cutOff
  | some length =>
    match v.designation? ((rest.take length).map fun b => Char.ofNat b.toNat) with
    | none => .illegal length
    | some (place, isWide, c) =>
      match v.charsets.find? fun s => s.isWide == isWide && s.letter == c with
      | none => .illegal length
      | some s => .chars [] length (m.designate place s)

/-- What bytes that belong to a set begin with. -/
def inCharset (m : Mode) (s : Charset) (a : UInt8) (rest : List UInt8) : Sequence Mode :=
  if s = .ascii then .plain a m
  else if !s.isWide then .ofFound ((s.one? a).map ([·])) 0 m
  else match rest with
    | [] => .cutOff
    | b :: _ => match s.two? a b with
      | some found => .chars found 1 m
      | none => .illegal 1

/-- What bytes begin with. -/
def sequence (v : Iso2022) (m : Mode) (a : UInt8) (rest : List UInt8) : Sequence Mode :=
  if m.isThrough then .plain a { m with isThrough := !isFinal a }
  else match Char.ofNat a.toNat, rest with
    | '\x1b', [] => .cutOff
    | '\x1b', b :: after =>
      let c := Char.ofNat b.toNat
      if c ∈ ['(', ')', '$', '.', '&'] then v.escape m rest
      else if v.hasThird && c == 'N' then
        match after with
        | [] => .cutOff
        | d :: _ => match m.third.calledUp? d with
          | none => .undesignated
          | some none => .illegal 2
          | some (some called) => .chars [called] 2 m
      else .one '\x1b' { m with isThrough := true }
    | '\n', _ => .one '\n' { m with isShifted := false }
    | c, _ =>
      if v.hasShifts && c == '\x0f' then .chars [] 0 { m with isShifted := false }
      else if v.hasShifts && c == '\x0e' then .chars [] 0 { m with isShifted := true }
      else if a < 0x20 then .plain a m
      else if 0x80 ≤ a then .illegal 0
      else inCharset m (if m.isShifted then m.second else m.first) a rest

end Iso2022

end Stencil.Text
