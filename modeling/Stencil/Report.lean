/-!
# Reports

What a host is told when a codeblock cannot be turned into output.

Each part of the library has failures of its own, with the data that led to
them. A report is the form in which such a failure leaves the library: a kind,
a text for the reader, and those data that a host may want to use. The kinds
form a hierarchy under `Kind.any`, so that a host can handle all reports, or
all that concern templates, alike. Two of them also tell who is at fault, in
terms that are not special to this library.

## Main definitions

* `Report`: What a host is told.
* `Report.Kind`, `Report.Kind.parent?`: The kinds of reports and their hierarchy.
* `Report.kind`, `Report.text`: The kind and the text of a report.
* `Report.Blame`: Who is at fault.
-/

namespace Stencil

/-- What a host is told. -/
inductive Report where
  /-- A failure that is none of the others. -/
  | general (text : String)
  /-- There is no source to work on. -/
  | emptySource (text : String)
  /-- A codeblock is not written as it should be, on a line if one is known. -/
  | badSource (text : String) (line : Option Int)
  /-- A line of some kind came in a phase of parsing that has no use for it. -/
  | noTransition (line : Int) (category state : String)
  /-- Keys were declared more than once. -/
  | duplicateKeys (keys : List String)
  /-- A template cannot be read, or holds nothing of the name asked for. -/
  | badTemplate (text : String)
  /-- Forms of placeholders do not go together. -/
  | badForms (text : String)
  /-- A template uses a placeholder's name in two ways. -/
  | conflict (name reason : String)
  /-- A template cannot be filled. -/
  | notFilled (text : String)
  /-- Placeholders that need a value have none. -/
  | missingValues (names : List String)
  /-- A template cannot be found. -/
  | notFound (text : String)
deriving DecidableEq, Repr

namespace Report

/-- The kinds of reports. -/
inductive Kind where
  | any | emptySource | badSource | noTransition | duplicateKeys | badTemplate | badForms
  | conflict | notFilled | missingValues | notFound
deriving DecidableEq, Repr

/-- The kind that a kind belongs to; only `any` belongs to none. -/
def Kind.parent? : Kind → Option Kind
  | any => none
  | badForms | conflict => some badTemplate
  | missingValues => some notFilled
  | emptySource | badSource | noTransition | duplicateKeys | badTemplate | notFilled
  | notFound => some any

/-- A kind and the kinds that it belongs to; the hierarchy has three levels. -/
def Kind.ancestors (k : Kind) : List Kind :=
  k :: match k.parent? with
    | none => []
    | some p => p :: p.parent?.toList

/-- Who is at fault, in terms that are not special to this library. -/
inductive Blame where
  /-- Whoever wrote the source. -/
  | source
  /-- The program. -/
  | program
deriving DecidableEq, Repr

/-- Two kinds tell who is at fault. -/
def Kind.blame? : Kind → Option Blame
  | badSource => some .source
  | noTransition => some .program
  | _ => none

/-- The kind of a report. -/
def kind : Report → Kind
  | general _ => .any
  | emptySource _ => .emptySource
  | badSource _ _ => .badSource
  | noTransition _ _ _ => .noTransition
  | duplicateKeys _ => .duplicateKeys
  | badTemplate _ => .badTemplate
  | badForms _ => .badForms
  | conflict _ _ => .conflict
  | notFilled _ => .notFilled
  | missingValues _ => .missingValues
  | notFound _ => .notFound

/-- A text about a line. -/
def onLine (line : Int) (text : String) : String :=
  "Line " ++ toString line ++ ": " ++ text

/-- What the reader is told. -/
def text : Report → String
  | general t | emptySource t | badTemplate t | badForms t | notFilled t | notFound t => t
  | badSource t line => line.elim t (onLine · t)
  | noTransition line category state =>
    onLine line ("no transition for " ++ category ++ " from state " ++ state)
  | duplicateKeys keys => "Duplicate keys found: " ++ ", ".intercalate keys
  | conflict name reason => "Token conflict: placeholder '" ++ name ++ "' " ++ reason
  | missingValues names =>
    "Missing value for required placeholder(s): " ++ ", ".intercalate names

end Report

end Stencil
