/-!
# Byte Orders

A unit of several bytes is a number, whose bytes stand in one of two orders.

## Main definitions

* `ByteOrder`: Whether the lowest or the highest byte comes first.
* `ByteOrder.number`: The number that bytes are.
-/

namespace Stencil.Text

/-- Which byte of a unit comes first. -/
inductive ByteOrder where
  /-- The lowest. -/
  | little
  /-- The highest. -/
  | big
deriving DecidableEq, Repr

namespace ByteOrder

/-- The number that bytes in an order are. -/
def number : ByteOrder → List UInt8 → Nat
  | little, bytes => bytes.foldr (fun b n => n * 0x100 + b.toNat) 0
  | big, bytes => bytes.foldl (fun n b => n * 0x100 + b.toNat) 0

/-- The end of the names of encodings in an order, as they are reported. -/
def label : ByteOrder → String
  | little => "le"
  | big => "be"

end ByteOrder

end Stencil.Text
