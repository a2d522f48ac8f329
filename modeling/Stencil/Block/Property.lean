import Stencil.Text.Lines

/-!
# Properties

The entries of a codeblock: a key and a value of one or more lines.

While a codeblock is read, the property that is still growing is a `Draft`;
finishing it joins its lines. A list of properties is written back as a
codeblock by `serialize`, each property starting a line with its key.

## Main definitions

* `Property`: A key and its value.
* `Property.titled`: The value under a line with its key.
* `Draft`: A property that is still growing.
* `Draft.finish`: The property that a draft has become.
* `serialize`: The codeblock that declares the given properties.
-/

namespace Stencil.Block

/-- A key and its value; the lines of the value are separated by line feeds. -/
structure Property where
  key : String
  value : String
deriving DecidableEq, Repr

/-- The value under a line with its key. -/
def Property.titled (p : Property) : String :=
  p.key ++ ":\n" ++ p.value

/-- The line that declares a property, and the further lines of its value. -/
def Property.declaration (p : Property) : String :=
  p.key ++ ": " ++ p.value

/-- A property that is still growing. -/
structure Draft where
  key : String
  /-- The lines of the value so far. -/
  lines : List String := []
  /-- The number of the line that declares the property. -/
  number : Int := 0
deriving DecidableEq, Repr

/-- The draft with one more line. -/
def Draft.append (d : Draft) (line : String) : Draft :=
  { d with lines := d.lines ++ [line] }

/-- The property that the draft has become. -/
def Draft.finish (d : Draft) : Property :=
  ⟨d.key, Text.unlines d.lines⟩

/-- The codeblock that declares the given properties in order. -/
def serialize (properties : List Property) : String :=
  Text.unlines (properties.map Property.declaration)

end Stencil.Block
