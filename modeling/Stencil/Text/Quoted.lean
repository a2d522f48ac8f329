import Stencil.Text.Printable

/-!
# Quoted Text

A text written between quotes, for messages that show a text whose ends and
odd characters matter.

The quotes are single, unless the text has a single quote and no double one.
A backslash and the chosen quote are written after a backslash; tab, line
feed and carriage return have short escapes; every other character that is
not printable is written by its code point in two, four or eight hexadecimal
digits, the fewest that hold it.

## Main definitions

* `hexDigits`: A number in a fixed count of hexadecimal digits.
* `quoteMark`: The quote that a text is written between.
* `quoteChar`: One character as it stands between quotes.
* `quoted`: The text between quotes.
-/

namespace Stencil.Text

/-- The lowest `count` hexadecimal digits of a number, most significant first. -/
def hexDigits : (count : Nat) → Nat → List Char
  | 0, _ => []
  | count + 1, n => hexDigits count (n / 16) ++ [Nat.digitChar (n % 16)]

/-- The single quote, unless only it occurs in the text. -/
def quoteMark (s : List Char) : Char :=
  if s.contains '\'' && !s.contains '"' then '"' else '\''

/-- One character as it stands between the given quotes. -/
def quoteChar (mark c : Char) : List Char :=
  if c == mark || c == '\\' then ['\\', c]
  else if c == '\t' then ['\\', 't']
  else if c == '\n' then ['\\', 'n']
  else if c == '\r' then ['\\', 'r']
  else if isPrintable c then [c]
  else if c.toNat ≤ 0xFF then '\\' :: 'x' :: hexDigits 2 c.toNat
  else if c.toNat ≤ 0xFFFF then '\\' :: 'u' :: hexDigits 4 c.toNat
  else '\\' :: 'U' :: hexDigits 8 c.toNat

/-- The text between quotes, its odd characters escaped. -/
def quoted (s : String) : String :=
  let mark := quoteMark s.toList
  .ofList (mark :: s.toList.flatMap (quoteChar mark) ++ [mark])

end Stencil.Text
