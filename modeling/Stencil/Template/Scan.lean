import Stencil.Log.Message
import Stencil.Template.Form

/-!
# Finding Placeholders

The tokens of a template's text.

At each place of the text the forms of a registry are tried in order, and the
first whose pattern fits there is the one that is found; the search goes on
after what it covers. If it covers nothing, the next find at the same place has to
cover something. What lies between two finds is text, and empty text is left out,
so no two texts follow each other. A placeholder is built by matching its form
once more, against the whole of what was found.

A find knows the names of the forms and groups that it was found among, and which
of them took part, so that another registry can be asked what it makes of it.

## Main definitions

* `Find`: What was found at a place.
* `Registry.findAt?`, `Registry.searchFrom?`: What stands at a place of a text, and
  what comes first from there on.
* `Registry.search?`: What comes first in a text.
* `Registry.identify`, `Registry.build`: The form of a find, and its placeholder.
* `Registry.scan`: The tokens of a text.
* `Registry.tokenize`: The tokens of a template, and what is said about them.

## Theorems

* `Registry.searchFrom?_append`: A search takes the text apart and loses nothing.
* `Registry.text_ne_nil`: A find that has to cover something does.
-/

namespace Stencil.Template

open Pattern (Cursor)

/-- What was found at a place. -/
structure Find where
  /-- The names of the forms and groups that it can be asked about. -/
  names : List String
  /-- The names of those that took part. -/
  taken : List String
  /-- The characters that it covers. -/
  text : List Char
deriving DecidableEq, Repr

/-- The names of a form and of the groups in it that took part in a fit. -/
def Entry.taken (entry : Entry) (c : Cursor) : List String :=
  entry.form.name ::
    (entry.groupNames.filter fun (_, number) => (c.span? number).isSome).map Prod.fst

namespace Registry

/-- The names of the forms and of the groups in them. -/
def groupNames (r : Registry) : List String :=
  r.names ++ r.entries.flatMap fun entry => entry.groupNames.map Prod.fst

/-- What stands at a place, by the first form that fits and covers something if it
    has to, and the text after it. -/
def findAt? (r : Registry) (mustCover : Bool) (past s : List Char) :
    Option (Find × List Char) :=
  r.entries.findSome? fun entry =>
    (entry.placed.fit? mustCover ⟨past, s, []⟩).map fun c =>
      (⟨r.groupNames, entry.taken c, Pattern.before s c.rest⟩, c.rest)

/-- The first find from a place on, the text before it and the text after it. At
    the place itself, the find may have to cover something. -/
def searchFrom? (r : Registry) :
    (mustCover : Bool) → (past s : List Char) → Option (List Char × Find × List Char)
  | mustCover, past, [] => (r.findAt? mustCover past []).map fun (find, rest) => ([], find, rest)
  | mustCover, past, c :: s =>
    match r.findAt? mustCover past (c :: s) with
    | some (find, rest) => some ([], find, rest)
    | none =>
      (r.searchFrom? false (c :: past) s).map fun (before, find, rest) => (c :: before, find, rest)

/-- The first find in a text, the text before it and the text after it. -/
def search? (r : Registry) (s : List Char) : Option (List Char × Find × List Char) :=
  r.searchFrom? false [] s

/-- The form of a find, by the first form of the registry that took part in it. A
    form that was not looked for cannot be asked about. -/
def identify (find : Find) : List Entry → Except Error Entry
  | [] => .error .noForm
  | entry :: entries =>
    if !find.names.contains entry.form.name then .error (.unknownForm entry.form.name)
    else if find.taken.contains entry.form.name then .ok entry
    else identify find entries

/-- The placeholder that a find is. -/
def build (r : Registry) (find : Find) : Except Error Placeholder := do
  let entry ← identify find r.entries
  match entry.pattern.whole? find.text with
  | none => throw (.selfMismatch entry.form.name (.ofList find.text))
  | some captures => entry.form.placeholder captures

/-- A text as a token, unless it is empty. -/
def textTokens (s : List Char) : List Token :=
  if s.isEmpty then [] else [.text (.ofList s)]

theorem findAt?_append {r : Registry} {mustCover : Bool} {past s rest : List Char} {find : Find}
    (h : r.findAt? mustCover past s = some (find, rest)) : find.text ++ rest = s := by
  obtain ⟨entry, _, hentry⟩ := List.exists_of_findSome?_eq_some h
  obtain ⟨c, hc, heq⟩ := Option.map_eq_some_iff.1 hentry
  cases heq
  exact (Pattern.reaches_of_mem_results (Pattern.mem_results_of_fit? hc).1).before_append

theorem length_lt_of_findAt? {r : Registry} {past s rest : List Char} {find : Find}
    (h : r.findAt? true past s = some (find, rest)) : rest.length < s.length := by
  obtain ⟨entry, _, hentry⟩ := List.exists_of_findSome?_eq_some h
  obtain ⟨c, hc, heq⟩ := Option.map_eq_some_iff.1 hentry
  cases heq
  exact (Pattern.mem_results_of_fit? hc).2 rfl

/-- A search takes the text apart and loses nothing. -/
theorem searchFrom?_append {r : Registry} {mustCover : Bool} {past s before rest : List Char}
    {find : Find} (h : r.searchFrom? mustCover past s = some (before, find, rest)) :
    before ++ find.text ++ rest = s := by
  induction s generalizing mustCover past before with
  | nil =>
      obtain ⟨found, hfound, heq⟩ := Option.map_eq_some_iff.1 h
      cases heq
      exact findAt?_append hfound
  | cons c s ih =>
      unfold searchFrom? at h
      split at h
      · rename_i hfound
        cases h
        simpa using findAt?_append hfound
      · obtain ⟨⟨b, f, t⟩, ht, heq⟩ := Option.map_eq_some_iff.1 h
        cases heq
        simpa using ih ht

/-- A find at the place itself covers something if it has to. -/
theorem text_ne_nil {r : Registry} {past s rest : List Char} {find : Find}
    (h : r.searchFrom? true past s = some ([], find, rest)) : find.text ≠ [] := by
  intro hnil
  have happend := searchFrom?_append h
  cases s with
  | nil =>
      obtain ⟨found, hfound, heq⟩ := Option.map_eq_some_iff.1 h
      cases heq
      simpa using length_lt_of_findAt? hfound
  | cons c s =>
      unfold searchFrom? at h
      split at h
      · rename_i hfound
        cases h
        have hlt := length_lt_of_findAt? hfound
        simp_all
      · obtain ⟨found, _, heq⟩ := Option.map_eq_some_iff.1 h
        cases heq

/-- Each search starts further on than the one before, or at the same place and has
    to cover something that the one before did not. -/
theorem searchFrom?_decreasing {r : Registry} {mustCover : Bool} {past s before rest : List Char}
    {find : Find} (h : r.searchFrom? mustCover past s = some (before, find, rest)) :
    2 * rest.length + (!find.text.isEmpty).toNat < 2 * s.length + (!mustCover).toNat := by
  have hlen := congrArg List.length (searchFrom?_append h)
  simp only [List.length_append] at hlen
  cases htext : find.text with
  | cons c t =>
      rw [htext] at hlen
      simp only [List.length_cons] at hlen
      simp only [List.isEmpty_cons, Bool.not_false, Bool.toNat_true]
      omega
  | nil =>
      cases mustCover with
      | false =>
          simp only [List.isEmpty_nil, Bool.not_true, Bool.toNat_false, Bool.not_false,
            Bool.toNat_true]
          omega
      | true =>
          cases before with
          | nil => exact absurd htext (text_ne_nil h)
          | cons c b =>
              simp only [List.length_cons] at hlen
              simp only [List.isEmpty_nil, Bool.not_true, Bool.toNat_false]
              omega

/-- The tokens of a text from a place on, up to the first that cannot be built. -/
def scanFrom (r : Registry) (mustCover : Bool) (past s : List Char) :
    Except Error (List Token) :=
  match _h : r.searchFrom? mustCover past s with
  | none => .ok (textTokens s)
  | some (before, find, rest) => do
    let placeholder ← r.build find
    let past := find.text.reverse ++ (before.reverse ++ past)
    let tokens ← r.scanFrom find.text.isEmpty past rest
    return textTokens before ++ .hole placeholder :: tokens
termination_by 2 * s.length + (!mustCover).toNat
decreasing_by exact searchFrom?_decreasing _h

/-- The tokens of a text, up to the first that cannot be built. -/
def scan (r : Registry) (s : List Char) : Except Error (List Token) :=
  r.scanFrom false [] s

/-- The tokens of a template, whose outer blanks do not count. -/
def tokenize (r : Registry) (text : String) : Trace Error (List Token) := do
  let tokens ← Trace.ofExcept (r.scan (Text.trim text.toList))
  Logged.say 2 ("Tokenized template into " ++ toString tokens.length ++ " tokens")
  return tokens

/-- The tokens of a template are those of its text without outer blanks. -/
theorem outcome_tokenize (r : Registry) (text : String) :
    (r.tokenize text).outcome = r.scan (Text.trim text.toList) := by
  simp only [tokenize, Trace.outcome_bind, Trace.outcome_ofExcept, Trace.outcome_say,
    Trace.outcome_pure]
  cases r.scan (Text.trim text.toList) <;> rfl

end Registry

end Stencil.Template
