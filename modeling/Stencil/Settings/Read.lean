import Stencil.Except
import Stencil.Settings.Basic

/-!
# Reading Settings

Settings from what a caller gives and what the environment holds.

Which settings there are, what they are if nothing is set, and what the names of their
variables begin with is decided here. What a value means is not: a library has to be
lent for that. It knows what is given for a name, by the caller or else by the environment,
takes values for what they mean, and complains about arguments that mean nothing to it.
All values are looked at, and all that are wrong are faults, each under the name that
it belongs to.

## Main definitions

* `Field`: The settings by name.
* `Sources`: What the caller gives and what the environment holds.
* `Library`: What has to be lent.
* `Settings.read`: The settings, or all faults.

## Theorems

* `read_of_nothing`: Where nothing is given, settings are what they are if nothing is set.
* `name_of_read_error`: A fault belongs to a setting or is about the sources as a whole.
-/

namespace Stencil.Settings

/-- The settings by name. -/
inductive Field where
  | templateDir | templateSuffix | templateKey | markdownClass | strict | verbosity | style
  | showsSource
deriving DecidableEq, Repr

namespace Field

/-- All settings. -/
def all : List Field :=
  [templateDir, templateSuffix, templateKey, markdownClass, strict, verbosity, style, showsSource]

/-- The name of a setting, as an argument. -/
def name : Field → String
  | templateDir => "template_dir"
  | templateSuffix => "template_suffix"
  | templateKey => "template_key"
  | markdownClass => "markdown_class"
  | strict => "strict_mode"
  | verbosity => "verbosity"
  | style => "pygments_style"
  | showsSource => "error_source_highlight"

end Field

/-- What the names of variables in the environment begin with. -/
def beginning : String := "CALLOUTFORGE_"

/-- What the caller gives and what the environment holds, in order. -/
structure Sources (Value : Type) where
  arguments : List (String × Value) := []
  environment : List (String × String) := []

/-- What has to be lent for settings to be read. -/
structure Library (Value Fault : Type) where
  /-- The switch that a value means. -/
  toFlag : Value → Except Fault Bool
  /-- The whole number that a value means. -/
  toWhole : Value → Except Fault Int
  /-- The text that a value means. -/
  toText : Value → Except Fault String
  /-- What is given under a name; the names of variables have a beginning before it. -/
  value? : Sources Value → (beginning name : String) → Option Value
  /-- What is wrong with sources in which only the given names mean something. -/
  strays : Sources Value → (names : List String) → List (String × Fault)

variable {Value Fault : Type}

/-- What is made of what is given for a setting, which is `default` if nothing is. -/
def Library.field {α : Type} (l : Library Value Fault) (s : Sources Value) (f : Field)
    (take : Value → Except Fault α) (default : α) : Except (String × Fault) α :=
  match l.value? s beginning f.name with
  | none => .ok default
  | some v => (take v).mapError fun fault => (f.name, fault)

/-- The fault of a reading, if it has one. -/
def faultOf {α : Type} : Except (String × Fault) α → List (String × Fault)
  | .ok _ => []
  | .error fault => [fault]

/-- The settings that sources give, or all faults of the sources with the names
    they belong to. -/
def read (l : Library Value Fault) (s : Sources Value) :
    Except (List (String × Fault)) Settings :=
  let base : Settings := {}
  let templateDir := l.field s .templateDir l.toText base.templateDir
  let templateSuffix := l.field s .templateSuffix l.toText base.templateSuffix
  let templateKey := l.field s .templateKey l.toText base.templateKey
  let markdownClass := l.field s .markdownClass l.toText base.markdownClass
  let strict := l.field s .strict l.toFlag base.strict
  let verbosity := l.field s .verbosity l.toWhole base.verbosity
  let style := l.field s .style l.toText base.style
  let showsSource := l.field s .showsSource l.toFlag base.showsSource
  let faults := l.strays s (Field.all.map Field.name) ++ faultOf templateDir ++
    faultOf templateSuffix ++ faultOf templateKey ++ faultOf markdownClass ++ faultOf strict ++
    faultOf verbosity ++ faultOf style ++ faultOf showsSource
  if faults = [] then
    Except.mapError (fun fault => [fault]) do
      return { templateDir := ← templateDir, templateSuffix := ← templateSuffix,
               templateKey := ← templateKey, markdownClass := ← markdownClass, strict := ← strict,
               verbosity := ← verbosity, style := ← style, showsSource := ← showsSource }
  else .error faults

variable {l : Library Value Fault} {s : Sources Value}

/-- Where nothing is given and nothing is complained about, settings are what they are if
    nothing is set. -/
theorem read_of_nothing (hnone : ∀ f : Field, l.value? s beginning f.name = none)
    (hstrays : l.strays s (Field.all.map Field.name) = []) : read l s = .ok {} := by
  simp only [read, Library.field, hnone, hstrays, faultOf, List.append_nil, if_true]
  rfl

/-- The fault of a setting is under the name of the setting. -/
theorem name_of_mem_faultOf {α : Type} {f : Field} {take : Value → Except Fault α} {default : α}
    {fault : String × Fault} (h : fault ∈ faultOf (l.field s f take default)) :
    fault.1 = f.name := by
  unfold Library.field at h
  cases hgiven : l.value? s beginning f.name with
  | none =>
      rw [hgiven] at h
      cases h
  | some v =>
      cases htaken : take v with
      | ok a =>
          simp only [hgiven, htaken, mapError_ok, faultOf, List.not_mem_nil] at h
      | error reason =>
          simp only [hgiven, htaken, mapError_error, faultOf, List.mem_singleton] at h
          rw [h]

/-- A reading without a fault is one that has read something. -/
theorem faultOf_eq_nil_iff {α : Type} {x : Except (String × Fault) α} :
    faultOf x = [] ↔ ∃ a, x = .ok a := by
  cases x <;> simp [faultOf]

/-- Settings that are not read have a fault, and each fault is under the name of a
    setting or is a complaint about the sources as a whole. -/
theorem name_of_read_error {faults : List (String × Fault)} (h : read l s = .error faults) :
    faults ≠ [] ∧ ∀ fault ∈ faults,
      fault ∈ l.strays s (Field.all.map Field.name) ∨ ∃ f : Field, fault.1 = f.name := by
  unfold read at h
  dsimp only at h
  split at h
  · -- Without faults everything was read, and so were the settings.
    rename_i hnone
    simp only [List.append_eq_nil_iff, faultOf_eq_nil_iff] at hnone
    obtain ⟨⟨⟨⟨⟨⟨⟨⟨-, _, h1⟩, _, h2⟩, _, h3⟩, _, h4⟩, _, h5⟩, _, h6⟩, _, h7⟩, _, h8⟩ := hnone
    rw [h1, h2, h3, h4, h5, h6, h7, h8] at h
    cases h
  · rename_i hsome
    obtain rfl := Except.error.inj h
    refine ⟨hsome, fun fault hfault => ?_⟩
    simp only [List.mem_append] at hfault
    rcases hfault with ((((((((hstray | hfault) | hfault) | hfault) | hfault) | hfault) |
      hfault) | hfault) | hfault)
    · exact .inl hstray
    all_goals exact .inr ⟨_, name_of_mem_faultOf hfault⟩

end Stencil.Settings
