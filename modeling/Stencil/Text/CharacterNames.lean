import Stencil.Text.CharacterNames.Ancient
import Stencil.Text.CharacterNames.EastAsian
import Stencil.Text.CharacterNames.European
import Stencil.Text.CharacterNames.Further
import Stencil.Text.CharacterNames.General
import Stencil.Text.CharacterNames.Mathematical
import Stencil.Text.CharacterNames.Pictographs
import Stencil.Text.CharacterNames.Pictorial
import Stencil.Text.CharacterNames.Presented
import Stencil.Text.CharacterNames.SouthAsian
import Stencil.Text.CharacterNames.Syllabic
import Stencil.Text.CharacterNames.Symbols
import Stencil.Text.Korean.Hangul
import Stencil.Text.Ranges

/-!
# Names of Characters

The characters that names stand for. A name may be in large letters or in small
ones. Only those of the ideographs and of the syllables of Korean are in large
letters; the number in the name of an ideograph may begin with a zero, if it has
no more than five digits.

## Main definitions

* `CharacterNames.runs`: The names that are listed.
* `CharacterNames.numberedRuns`: The names that end in the code point.
* `codePointNamed?`: The code point with a name.
-/

namespace Stencil.Text

namespace CharacterNames

/-- The names that are listed. -/
def runs : List NameRun :=
  european ++ southAsian ++ syllabic ++ general ++ symbols ++ eastAsian ++ presented ++ ancient ++
    pictorial ++ mathematical ++ pictographs ++ further

/-- Names that end in the code point of their character, by what stands before it. -/
def numberedRuns : List (String × CodeRange) := [
    ("CJK COMPATIBILITY IDEOGRAPH-", 0xF900, 0xFA6D),
    ("CJK COMPATIBILITY IDEOGRAPH-", 0xFA70, 0xFAD9),
    ("KHITAN SMALL SCRIPT CHARACTER-", 0x18B00, 0x18CD5),
    ("NUSHU CHARACTER-", 0x1B170, 0x1B2FB),
    ("CJK COMPATIBILITY IDEOGRAPH-", 0x2F800, 0x2FA1D)]

/-- The ideographs. -/
def ideographs : List CodeRange := [
    (0x3400, 0x4DBF), (0x4E00, 0x9FFF), (0x20000, 0x2A6DF), (0x2A700, 0x2B738),
    (0x2B740, 0x2B81D), (0x2B820, 0x2CEA1), (0x2CEB0, 0x2EBE0), (0x30000, 0x3134A)]

/-- The digits of a code point, in large letters. -/
def digits (n : Nat) : List Char :=
  (Nat.toDigits 0x10 n).map Char.toUpper

/-- The code point of a range with these digits. -/
def inRange? (s : List Char) (range : CodeRange) : Option Nat :=
  let value (c : Char) := if c.isDigit then c.toNat - '0'.toNat else c.toNat - 'A'.toNat + 10
  let n := s.foldl (fun n c => n * 0x10 + value c) 0
  if range.1 ≤ n ∧ n ≤ range.2 ∧ digits n = s then some n else none

/-- The code point with a name that is listed, or numbered. -/
def listed? (name : List Char) : Option Nat :=
  (numberedRuns.findSome? fun (heading, range) => do inRange? (← behind? heading name) range) <|>
    runs.findSome? (·.find? name)

end CharacterNames

open CharacterNames in
/-- The code point of the character with a name. -/
def codePointNamed? (name : List Char) : Option Nat :=
  match behind? "HANGUL SYLLABLE " name, behind? "CJK UNIFIED IDEOGRAPH-" name with
  | some s, _ => (Hangul.named? s).map Char.toNat
  | none, some s =>
    if s.length ≤ 5 then ideographs.findSome? (inRange? (s.dropWhile (· == '0'))) else none
  | none, none => listed? (name.map Char.toUpper)

end Stencil.Text
