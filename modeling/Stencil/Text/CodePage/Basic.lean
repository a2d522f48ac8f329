import Stencil.Text.Fault

/-!
# Code Pages

Encodings in which each byte is a character of its own, or none.

A page lists the characters of its last bytes. The bytes before them are the
characters whose code points they are, which in most pages are those of ASCII.

## Main definitions

* `CodePage`: A page, and the names it goes by.
* `CodePage.char?`: The character of a byte.
* `CodePage.decode`: The characters that bytes encode.
-/

namespace Stencil.Text

/-- An encoding with a character for each byte. -/
structure CodePage where
  /-- Its own name. -/
  name : String
  furtherNames : List String
  /-- The characters of the last bytes. The replacement character stands where
      there is none. -/
  characters : String
deriving DecidableEq, Repr

namespace CodePage

/-- How many bytes are characters by their code points. -/
def plainCount (p : CodePage) : Nat :=
  0x100 - p.characters.length

/-- The character of a byte, if it has one. -/
def char? (p : CodePage) (b : UInt8) : Option Char :=
  if b.toNat < p.plainCount then some (Char.ofNat b.toNat)
  else p.characters.toList[b.toNat - p.plainCount]?.filter (· != '\ufffd')

/-- The characters that the bytes encode; `start` is how many bytes were read
    before them. -/
def decode (p : CodePage) (start : Nat) : List UInt8 → Except DecodeFault (List Char)
  | [] => .ok []
  | b :: rest =>
    match p.char? b with
    | none => .error ⟨"charmap", start, b, 1, .noCharacter⟩
    | some c => do
      return c :: (← p.decode (start + 1) rest)

end CodePage

end Stencil.Text
