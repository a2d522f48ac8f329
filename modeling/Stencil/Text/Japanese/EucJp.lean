import Stencil.Text.Japanese.Jis0201
import Stencil.Text.Japanese.Jis0212
import Stencil.Text.Japanese.Planes
import Stencil.Text.Sequence

/-!
# Extended Unix Code for Japanese

Japanese text in two bytes for a character of the main set, both of them beyond
ASCII. One byte of two others goes before the byte of a katakana and the two
bytes of a rarer character.

There are three sorts of it: for JIS X 0208 with JIS X 0212, and for the planes
of each edition of JIS X 0213, where JIS X 0212 keeps those rows of the second
plane that are free.

## Main definitions

* `EucJp.standard`, `EucJp.jis0213`: What bytes begin with, for each sort.
-/

namespace Stencil.Text.EucJp

/-- What bytes begin with, given the sequences of two bytes and what three bytes
    stand for. -/
def sequence (two : UInt8 → UInt8 → Sequence Unit) (three? : UInt8 → UInt8 → Option Char)
    (_ : Unit) (a : UInt8) (rest : List UInt8) : Sequence Unit :=
  if a < 0x80 then .plain a ()
  else if a == 0x8E then .ofTwo () kana? rest
  else match a == 0x8F, rest with
    | true, b :: c :: _ => .ofFound ((three? b c).map ([·])) 2 ()
    | false, b :: _ => two a b
    | _, _ => .cutOff

/-- What bytes in the usual sort begin with. -/
def standard : Unit → UInt8 → List UInt8 → Sequence Unit :=
  sequence (fun a b => .ofFound ((Grid.jis0208.byBytes? 0xA1 a b).map ([·])) 1 ())
    (Grid.jis0212.byBytes? 0xA1)

/-- The row and the cell that two bytes name. -/
def place? (a b : UInt8) : Option (Nat × Nat) :=
  if 0xA1 ≤ a && 0xA1 ≤ b then some ((a - 0xA1).toNat, (b - 0xA1).toNat) else none

/-- The sequence of two bytes in the sort for JIS X 0213. Where only the later
    edition has a character, both bytes are at fault. -/
def jis0213Two (e : Jis0213Edition) (a b : UInt8) : Sequence Unit :=
  match place? a b with
  | none => .illegal 0
  | some (row, cell) => .ofFound (e.first? row cell) 1 () (if e.lacks row cell then 1 else 0)

/-- What bytes in the sort for JIS X 0213 begin with. -/
def jis0213 (e : Jis0213Edition) : Unit → UInt8 → List UInt8 → Sequence Unit :=
  sequence (jis0213Two e) fun a b =>
    ((place? a b).bind fun (row, cell) => e.second? row cell) <|> Grid.jis0212.byBytes? 0xA1 a b

end Stencil.Text.EucJp
