/-!
# Hangul

The syllables of Korean, put together from their letters. A syllable begins with
one of 19 letters, goes on with one of 21 vowels, and may end with one of 27
letters. Code points are given to syllables in that order.

The name of a syllable is made of those of its letters. Each is as long as it can
be, so that it is clear where the next begins.

## Main definitions

* `initials`, `medials`, `finals`: The letters.
* `syllable`: The syllable of three letters.
* `named?`: The syllable with a name.
-/

namespace Stencil.Text.Hangul

/-- The letters that a syllable may begin with. -/
def initials : List Char :=
  "ㄱㄲㄴㄷㄸㄹㅁㅂㅃㅅㅆㅇㅈㅉㅊㅋㅌㅍㅎ".toList

/-- The vowels. -/
def medials : List Char :=
  "ㅏㅐㅑㅒㅓㅔㅕㅖㅗㅘㅙㅚㅛㅜㅝㅞㅟㅠㅡㅢㅣ".toList

/-- The letters that a syllable may end with. -/
def finals : List Char :=
  "ㄱㄲㄳㄴㄵㄶㄷㄹㄺㄻㄼㄽㄾㄿㅀㅁㅂㅄㅅㅆㅇㅈㅊㅋㅌㅍㅎ".toList

/-- The syllable of an initial, a medial and a final, by their places; the place
    of the final is counted from one, zero being none. -/
def syllable (initial medial final : Nat) : Char :=
  Char.ofNat (0xAC00 + (initial * 21 + medial) * 28 + final)

/-- The names of the letters that a syllable may begin with. One is silent. -/
def initialNames : List String :=
  ["G", "GG", "N", "D", "DD", "R", "M", "B", "BB", "S", "SS", "", "J", "JJ", "C", "K", "T", "P",
    "H"]

/-- The names of the vowels. -/
def medialNames : List String :=
  ["A", "AE", "YA", "YAE", "EO", "E", "YEO", "YE", "O", "WA", "WAE", "OE", "YO", "U", "WEO", "WE",
    "WI", "YU", "EU", "YI", "I"]

/-- The names of the letters that a syllable may end with, after that of none. -/
def finalNames : List String :=
  ["", "G", "GG", "GS", "N", "NJ", "NH", "D", "L", "LG", "LM", "LB", "LS", "LT", "LP", "LH", "M",
    "B", "BS", "S", "SS", "NG", "J", "C", "K", "T", "P", "H"]

/-- The place of the longest name that a text begins with, and the rest of it. -/
def longest? (names : List String) (s : List Char) : Option (Nat × List Char) := do
  let fitting := names.filter fun name => name.toList.isPrefixOf s
  let name ← fitting.find? fun name => fitting.all (·.length ≤ name.length)
  return (← names.idxOf? name, s.drop name.length)

/-- The syllable with a name. -/
def named? (name : List Char) : Option Char := do
  let (initial, rest) ← longest? initialNames name
  let (medial, rest) ← longest? medialNames rest
  let (final, rest) ← longest? finalNames rest
  if rest.isEmpty then some (syllable initial medial final) else none

end Stencil.Text.Hangul
