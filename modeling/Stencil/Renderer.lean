import Stencil.Block.Property
import Stencil.Text.Markup

/-!
# Renderers

What becomes of a property's value before it is put into a template.

A renderer belongs to the host and may be any function on texts: it gives a text
for every value, and what a host does about a renderer of its own that fails is
not considered. Two are given here: one that leaves values alone, and one that
wraps a value into an element of a style class, with all special characters
replaced, so that the host can find the value in the output and typeset it.

## Main definitions

* `Renderer`: A function on values.
* `Renderer.plain`, `Renderer.wrap`: The two renderers.
* `Renderer.properties`: Properties with rendered values.

## Theorems

* `Renderer.wrap_render`: What a wrapped value looks like.
-/

namespace Stencil

/-- A function on values. -/
structure Renderer where
  render : String → String

namespace Renderer

/-- Leaves values alone. -/
def plain : Renderer :=
  ⟨id⟩

/-- Wraps values into an element of a style class. -/
def wrap (styleClass : String) : Renderer :=
  ⟨fun value => (Text.Tag.div (Text.escapeText styleClass)).around (Text.escapeText value)⟩

/-- The properties with rendered values; keys and order stay. -/
def properties (r : Renderer) (ps : List Block.Property) : List Block.Property :=
  ps.map fun p => ⟨p.key, r.render p.value⟩

/-- A wrapped value stands, with its special characters replaced, between an
    opening tag that names the class and a closing tag. -/
theorem wrap_render (styleClass value : String) :
    (wrap styleClass).render value =
      "<div class=\"" ++ Text.escapeText styleClass ++ "\">" ++ Text.escapeText value ++ "</div>" := by
  apply String.toList_inj.1
  simp [wrap, Text.Tag.around, Text.Tag.div, Text.Tag.opening, Text.Tag.written, Text.Tag.closing]

/-- Rendering keeps the keys. -/
@[simp] theorem map_key_properties (r : Renderer) (ps : List Block.Property) :
    (r.properties ps).map Block.Property.key = ps.map Block.Property.key := by
  simp [properties, Function.comp_def]

end Renderer

end Stencil
