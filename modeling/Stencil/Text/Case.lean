/-!
# Lower Case

Names that are compared without regard to case are put in lower case first.

All names that are looked up this way are ASCII, so only letters whose lower
case is an ASCII letter can make a difference: the capitals of ASCII, and the
sign for degrees Kelvin.

## Main definitions

* `lowerCase`: A name in lower case.
-/

namespace Stencil.Text

/-- A letter in lower case, if that is an ASCII letter. -/
def lowerChar (c : Char) : Char :=
  if c = '\u212a' then 'k' else c.toLower

/-- A name in lower case. -/
def lowerCase (name : String) : String :=
  name.map lowerChar

end Stencil.Text
