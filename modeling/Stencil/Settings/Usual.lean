import Stencil.Settings.Manner
import Stencil.Settings.Read

/-!
# The Usual Library for Settings

What values of settings mean where nobody brings another library.

A setting is what the caller gives for it, or else what the environment holds. Names are
compared without regard to case; of several variables for one setting the last counts,
and of several arguments the first. A variable that belongs to no setting is nothing to
complain about; an argument is, unless it is an option that says how to read the
environment.

Nothing that is proved of settings rests on what is chosen here.

## Main definitions

* `Library.usual`: The library.
-/

namespace Stencil.Settings

namespace Sources

/-- What is given under a name. -/
def value? (s : Sources Value) (beginning name : String) : Option Value :=
  (s.arguments.find? fun a => Text.lowerCase a.1 = name).map Prod.snd <|>
  (Manner.ofOptions beginning s.arguments).value? s.environment name

/-- The arguments that have none of the names and are no options. -/
def unknown (s : Sources Value) (names : List String) : List String :=
  (s.arguments.map Prod.fst).filter fun name =>
    !isOption name && !names.contains (Text.lowerCase name)

end Sources

/-- The library, which takes values for what they plainly mean. -/
def Library.usual : Library Value Fault where
  toFlag := Value.toFlag
  toWhole := Value.toWhole
  toText := Value.toText
  value? := Sources.value?
  strays s names := (s.unknown names).map (·, Fault.unknown)

end Stencil.Settings
