import Stencil.Except
import Stencil.Pattern.Source
import Stencil.Template.Error
import Stencil.Text.Identifier

/-!
# Forms of Placeholders

How placeholders are written, and which ways of writing them go together.

A form has a name, a pattern and a rule for building a placeholder from what
the pattern captures. A registry is a list of forms in order of preference,
each with its pattern read: names are identifiers, no two forms share a name
or a pattern, and every pattern can be read. Forms are checked from the first
to the last, each for these four things in this order, so that the first fault
of the first faulty form is the one that is told.

Then the patterns are put side by side, each as a group with the name of its
form. In nearly all of them nothing depends on where they stand. But names of
groups must not clash with those of forms, options for a whole pattern cannot be
set in a part of it, a group that is referred to by its number is now another, and
parts that are nested as deep as can be are now one deeper. Such patterns are read again
in their places.

## Main definitions

* `Form`: A way of writing placeholders.
* `Form.required`, `Form.optional`, `Form.fallback`: The forms with two braces.
* `Entry`: A form with its pattern, on its own and in its place.
* `Registry`: Forms that go together.
* `Registry.ofForms`, `Registry.extend`: The registry of some forms.
* `Registry.standard`: The registry of the three forms with two braces.

## Theorems

* `Registry.ofForms_standard`: The three forms go together.
* `Registry.forms_ofForms`: A registry holds the forms it is made of, in order.
-/

namespace Stencil.Template

/-- How a placeholder is built from what a pattern captures: the first capture
    is its name, and a fallback is the second; outer blanks do not count. -/
inductive Build where
  | required | optional | fallback
deriving DecidableEq, Repr

/-- The part of a placeholder that a group captures. -/
def part (form : String) (captures : List (Option (List Char))) (i : Nat) :
    Except Error String :=
  match captures[i]? with
  | none => .error (.noCapture form)
  | some none => .error (.emptyCapture form)
  | some (some s) => .ok (.ofList (Text.trim s))

/-- A way of writing placeholders. -/
structure Form where
  name : String
  /-- The pattern as it is written. -/
  source : String
  build : Build
deriving DecidableEq, Repr

/-- The placeholder that a form builds from captures. -/
def Form.placeholder (form : Form) (captures : List (Option (List Char))) :
    Except Error Placeholder := do
  let name ← part form.name captures 0
  match form.build with
  | .required => return ⟨name, .required⟩
  | .optional => return ⟨name, .optional⟩
  | .fallback => return ⟨name, .fallback (← part form.name captures 1)⟩

namespace Form

/-- A name in double braces. -/
def required : Form :=
  ⟨"required", "\\\x7b\\\x7b\\s*([a-zA-Z\\-]+)\\s*\\\x7d\\\x7d", .required⟩

/-- A name and a question mark in double braces. -/
def optional : Form :=
  ⟨"optional", "\\\x7b\\\x7b\\s*([a-zA-Z\\-]+)\\s*\\?\\s*\\\x7d\\\x7d", .optional⟩

/-- A name, a bar and a text without closing braces in double braces. -/
def fallback : Form :=
  ⟨"fallback", "\\\x7b\\\x7b\\s*([a-zA-Z\\-]+)\\s*\\|\\s*([^\\\x7d]+)\\s*\\\x7d\\\x7d", .fallback⟩

end Form

/-- A form and its pattern. -/
structure Entry where
  form : Form
  /-- The pattern on its own. -/
  pattern : Pattern
  /-- The pattern in its place beside the others. -/
  placed : Pattern
  /-- The names of groups in that, with their numbers there. -/
  groupNames : List (String × Nat)
deriving DecidableEq, Repr

/-- Forms that go together, in order of preference. -/
structure Registry where
  entries : List Entry
deriving DecidableEq, Repr

namespace Registry

/-- The registry without forms. -/
def empty : Registry :=
  ⟨[]⟩

/-- The forms of a registry. -/
def forms (r : Registry) : List Form :=
  r.entries.map Entry.form

/-- The names of its forms. -/
def names (r : Registry) : List String :=
  r.forms.map Form.name

/-- The number of its forms. -/
def size (r : Registry) : Nat :=
  r.entries.length

/-- Check a form against those before it, and read its pattern. -/
def check (seen : List (Form × Pattern.Reading)) (form : Form) :
    Except Error Pattern.Reading := do
  if !Text.isIdentifier form.name then throw (.badName form.name)
  if seen.any (·.1.name = form.name) then throw (.takenName form.name)
  if let some (first, _) := seen.find? (·.1.source = form.source) then
    throw (.takenPattern form.source first.name)
  match Pattern.read .none true form.source with
  | .error reason => throw (.badPattern form.name form.source reason)
  | .ok reading => return reading

/-- Check forms one after the other, after those already seen. -/
def checkAll (seen : List (Form × Pattern.Reading)) :
    List Form → Except Error (List (Form × Pattern.Reading))
  | [] => .ok seen
  | form :: forms => do
    let reading ← check seen form
    checkAll (seen ++ [(form, reading)]) forms

/-- The pattern of a form as it reads after the given groups, the last of which is
    that of the form. -/
def readInPlace (groups : Pattern.Groups) (form : Form) (reading : Pattern.Reading) :
    Except Error Pattern.Reading :=
  if reading.isLocal then .ok { reading with groups := groups.append reading.groups }
  else (Pattern.read groups false form.source).mapError fun _ => .apart

/-- Put a pattern after the given groups: its entry, and all groups then. The pattern is
    in a group itself. -/
def place (groups : Pattern.Groups) (form : Form) (reading : Pattern.Reading) :
    Except Error (Entry × Pattern.Groups) := do
  if (groups.number? form.name).isSome then throw .apart
  let opened := groups.capture (some form.name)
  let placed ← readInPlace opened form reading
  return (⟨form, reading.pattern, placed.pattern, placed.groups.names.drop opened.names.length⟩,
    placed.groups.close groups.count (placed.pattern.width placed.groups.width))

/-- Put patterns side by side, after the given groups. -/
def placeAll (groups : Pattern.Groups) :
    List (Form × Pattern.Reading) → Except Error (List Entry)
  | [] => .ok []
  | (form, reading) :: rest => do
    let (entry, groups) ← place groups form reading
    return entry :: (← placeAll groups rest)

/-- The registry of the given forms. -/
def ofForms (forms : List Form) : Except Error Registry := do
  return ⟨← placeAll .none (← checkAll [] forms)⟩

/-- The registry with one more form, which is preferred least. -/
def extend (r : Registry) (form : Form) : Except Error Registry :=
  ofForms (r.forms ++ [form])

/-- All patterns of a registry in one line, each with the name of its form; what
    fits nowhere if there is none. -/
def combinedSource (r : Registry) : String :=
  if r.entries.isEmpty then "(?!)"
  else "|".intercalate (r.forms.map fun f => "(?P<" ++ f.name ++ ">" ++ f.source ++ ")")

/-- A line that shows the forms of a registry. -/
def describe (r : Registry) : String :=
  "SyntaxRegistry(" ++ ", ".intercalate r.names ++ ")"

/-- The characters of a placeholder's name, at least one. -/
def namePattern : Pattern :=
  .run (.of [.range 'a' 'z', .range 'A' 'Z', .char '-']) 1 none

/-- The characters of a fallback, at least one. -/
def fallbackPattern : Pattern :=
  .run (.allBut [.char '\x7d']) 1 none

/-- The given pieces between double braces, after a name with blanks around it. -/
def bracedPattern (pieces : List Pattern) : Pattern :=
  .inOrder ([.char '\x7b', .char '\x7b', .blanks, .group 1 namePattern, .blanks] ++ pieces ++
    [.char '\x7d', .char '\x7d'])

/-- A form whose pattern reads the same wherever it stands. -/
def localEntry (form : Form) (pattern : Pattern) : Entry :=
  ⟨form, pattern, pattern, []⟩

/-- The registry of the three forms with two braces. -/
def standard : Registry :=
  ⟨[localEntry .required (bracedPattern []),
    localEntry .optional (bracedPattern [.char '?', .blanks]),
    localEntry .fallback (bracedPattern [.char '|', .blanks, .group 2 fallbackPattern, .blanks])]⟩

/-- The three forms go together. -/
theorem ofForms_standard : ofForms [.required, .optional, .fallback] = .ok standard :=
  rfl

/-- What is checked comes after what was seen, in order. -/
theorem forms_checkAll {seen checked : List (Form × Pattern.Reading)} {forms : List Form}
    (h : checkAll seen forms = .ok checked) :
    checked.map Prod.fst = seen.map Prod.fst ++ forms := by
  induction forms generalizing seen with
  | nil => simp_all [checkAll]
  | cons form forms ih =>
      obtain ⟨reading, _, h⟩ := bind_eq_ok.1 h
      simpa using ih h

/-- A pattern that is put in its place stays with its form. -/
theorem form_of_place {groups groups' : Pattern.Groups} {form : Form}
    {reading : Pattern.Reading} {entry : Entry}
    (h : place groups form reading = .ok (entry, groups')) : entry.form = form := by
  unfold place at h
  split at h
  · cases h
  · obtain ⟨placed, _, h⟩ := bind_eq_ok.1 h
    cases h
    rfl

/-- What is put in place is of the same forms, in order. -/
theorem forms_placeAll {groups : Pattern.Groups} {checked : List (Form × Pattern.Reading)}
    {entries : List Entry} (h : placeAll groups checked = .ok entries) :
    entries.map Entry.form = checked.map Prod.fst := by
  induction checked generalizing groups entries with
  | nil =>
      cases h
      rfl
  | cons checked rest ih =>
      obtain ⟨⟨entry, groups'⟩, hplace, h⟩ := bind_eq_ok.1 h
      obtain ⟨entries', hrest, h⟩ := bind_eq_ok.1 h
      cases h
      simp [form_of_place hplace, ih hrest]

/-- A registry holds the forms that it is made of, in order. -/
theorem forms_ofForms {forms : List Form} {r : Registry} (h : ofForms forms = .ok r) :
    r.forms = forms := by
  obtain ⟨checked, hchecked, h⟩ := bind_eq_ok.1 h
  obtain ⟨entries, hentries, h⟩ := bind_eq_ok.1 h
  cases h
  simpa [Registry.forms, forms_placeAll hentries] using forms_checkAll hchecked

end Registry

end Stencil.Template
