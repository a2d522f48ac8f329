/-!
# JIS X 0201

The Japanese characters of one byte: letters as in ASCII, but for two signs,
and katakana of half the usual width beyond them.

## Main definitions

* `romanChar`: The letter or sign of a byte of ASCII.
* `kana?`: The katakana of a byte beyond ASCII.
-/

namespace Stencil.Text

/-- The character of a byte of ASCII. The sign of the yen stands for the
    backslash, and an overline for the tilde. -/
def romanChar (b : UInt8) : Char :=
  if b == 0x5C then '¥' else if b == 0x7E then '‾' else Char.ofNat b.toNat

/-- The katakana, or the mark among them, of a byte beyond ASCII. -/
def kana? (b : UInt8) : Option Char :=
  if 0xA1 ≤ b && b ≤ 0xDF then some (Char.ofNat (0xFF61 + (b.toNat - 0xA1))) else none

end Stencil.Text
