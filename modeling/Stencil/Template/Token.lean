/-!
# Tokens of a Template

A template is text with placeholders in it.

Each placeholder has a name and a rule for the case that no property has that
name: a required one makes filling fail, an optional one is filled with
nothing, and one with a fallback is filled with that. The same name may stand
in a template more than once, but only with the same rule; two placeholders
that differ in their rules clash.

## Main definitions

* `Rule`: What fills a placeholder that has no value.
* `Placeholder`, `Token`: Placeholders, and text or placeholders.
* `Token.source`: A token as it is written in a template.
* `Token.clash?`: How two uses of a name differ.

## Theorems

* `Placeholder.clash?_eq_none_iff`: Placeholders of one name differ just in
  their rules.
-/

namespace Stencil.Template

/-- What fills a placeholder that has no value. -/
inductive Rule where
  /-- Nothing can: a value is needed. -/
  | required
  /-- The empty text. -/
  | optional
  /-- The given text. -/
  | fallback (text : String)
deriving DecidableEq, Repr

/-- The text that fills a placeholder that has no value, if there is one. -/
def Rule.text? : Rule → Option String
  | required => none
  | optional => some ""
  | fallback text => some text

/-- A place in a template that a value goes to. -/
structure Placeholder where
  name : String
  rule : Rule
deriving DecidableEq, Repr

/-- A part of a template. -/
inductive Token where
  /-- Text that is copied. -/
  | text (content : String)
  /-- A place for a value. -/
  | hole (placeholder : Placeholder)
deriving DecidableEq, Repr

/-- The kinds of tokens. -/
inductive TokenKind where
  | text | required | optional | fallback
deriving DecidableEq, Repr

/-- The name of a kind in messages. -/
def TokenKind.name : TokenKind → String
  | text => "text"
  | required => "required"
  | optional => "optional"
  | fallback => "fallback"

/-- Text between the braces of a placeholder. -/
def braced (content : String) : String :=
  "\x7b\x7b " ++ content ++ " \x7d\x7d"

/-- A placeholder as it is written in a template. -/
def Placeholder.source (p : Placeholder) : String :=
  braced <| match p.rule with
    | .required => p.name
    | .optional => p.name ++ "?"
    | .fallback text => p.name ++ " | " ++ text

/-- A placeholder of the same name that needs a value. -/
def Placeholder.asRequired (p : Placeholder) : Placeholder :=
  { p with rule := .required }

namespace Token

/-- The kind of a token. -/
def kind : Token → TokenKind
  | text _ => .text
  | hole p => match p.rule with
    | .required => .required
    | .optional => .optional
    | .fallback _ => .fallback

/-- The placeholder that a token is, if it is one. -/
def placeholder? : Token → Option Placeholder
  | text _ => none
  | hole p => some p

/-- What fills the token if it is a placeholder that has no value. -/
def fallback? (t : Token) : Option String :=
  t.placeholder?.bind (·.rule.text?)

/-- A token as it is written in a template. -/
def source : Token → String
  | text content => content
  | hole p => p.source

/-- The token with every rule but the name forgotten. -/
def asRequired : Token → Token
  | text content => text content
  | hole p => hole p.asRequired

end Token

/-- How two uses of a name differ. -/
inductive Clash where
  /-- They are of different kinds. -/
  | kinds (one other : TokenKind)
  /-- They have different fallbacks. -/
  | fallbacks (one other : String)
deriving DecidableEq, Repr

/-- What is told about two uses of a name. -/
def Clash.text : Clash → String
  | kinds one other => "is declared both as " ++ one.name ++ " and " ++ other.name
  | fallbacks one other => "is declared with defaults '" ++ one ++ "' and '" ++ other ++ "'"

/-- How two tokens differ other than in their names, if they do. Texts do not
    differ from each other in this sense. -/
def Token.clash? (one other : Token) : Option Clash :=
  if one.kind ≠ other.kind then some (.kinds one.kind other.kind)
  else match one, other with
    | hole ⟨_, .fallback d⟩, hole ⟨_, .fallback e⟩ => if d = e then none else some (.fallbacks d e)
    | _, _ => none

/-- How two placeholders differ other than in their names, if they do. -/
def Placeholder.clash? (one other : Placeholder) : Option Clash :=
  (Token.hole one).clash? (.hole other)

/-- Placeholders differ, other than in their names, just in their rules. -/
theorem Placeholder.clash?_eq_none_iff {p q : Placeholder} :
    p.clash? q = none ↔ p.rule = q.rule := by
  rcases p with ⟨_, _ | _ | d⟩ <;> rcases q with ⟨_, _ | _ | e⟩ <;>
    simp [clash?, Token.clash?, Token.kind]

end Stencil.Template
