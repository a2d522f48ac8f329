import Stencil.Pattern.Escape
import Stencil.Pattern.Options

/-!
# Reading Classes

Classes of characters as they are written in square brackets.

A class is negated by a circumflex. A bracket that comes first is a member. Two
characters with a dash between them are a range; before the closing bracket a dash
is a member.

## Main definitions

* `readMembers`: The members of a class, up to its end.
* `readSet`: A class.
-/

namespace Stencil.Pattern

open Text (Extent)

/-- A sign within a class, and how many further signs it takes. -/
def readMember (c : Sign) (s : List Sign) : Except Error (SetEscape × Nat) :=
  if c.escaped then readSetEscape c s else .ok (.code c.char.toNat, 0)

/-- The range between what two signs stand for. The place of its fault is counted
    back from its end by the lengths of the signs. -/
def range (first last : Sign) (one other : SetEscape) (stop : Nat) :
    Except Error CharSet.Member :=
  let fault : Except Error CharSet.Member :=
    failAt (stop - (first.text.length + 1 + last.text.length))
      (.badRange (.ofList first.text) (.ofList last.text))
  match one, other with
  | .code m, .code n => if n < m then fault else .ok (rangeMember m n)
  | _, _ => fault

/-- The place after a sign and so many signs of one character. -/
def stopAfter (c : Sign) (taken : Nat) (s : List Sign) : Nat :=
  ((s.take taken).getLast?.getD c).stop

/-- The members of a class up to the bracket that closes it, and how many signs
    they and the bracket take; the first `skip` signs belong to a member that has
    been read. -/
def readMembers (extent : Extent) (opened : Nat) :
    (skip : Nat) → (isFirst : Bool) → List Sign → Except Error (List CharSet.Member × Nat)
  | _, _, [] => failAt opened .unclosedSet
  | skip + 1, isFirst, _ :: s => do
    let (ms, taken) ← readMembers extent opened skip isFirst s
    return (ms, taken + 1)
  | 0, isFirst, c :: s => do
    checkNext s
    if c.is ']' && !isFirst then return ([], 1)
    let (one, more) ← readMember c s
    match s.drop more with
    | dash :: s' =>
      if !dash.is '-' then
        let (ms, taken) ← readMembers extent opened more false s
        return (one.member extent :: ms, taken + 1)
      checkNext s'
      match s' with
      | [] => failAt opened .unclosedSet
      | d :: s' =>
        checkNext s'
        if d.is ']' then return ([one.member extent, .char '-'], more + 3)
        let (other, further) ← readMember d s'
        let m ← range c d one other (stopAfter d further s')
        let (ms, taken) ← readMembers extent opened (more + 2 + further) false s
        return (m :: ms, taken + 1)
    | [] => failAt opened .unclosedSet

/-- The class that an opening bracket begins, and how many further signs it takes. -/
def readSet (o : Options) (opened : Nat) (s : List Sign) : Except Error (CharSet × Nat) := do
  let negated := s.head?.any (·.is '^')
  let start := if negated then 1 else 0
  checkTaken start s
  let (members, taken) ← readMembers o.extent opened 0 true (s.drop start)
  return (⟨negated, members, o.caselessExtent⟩, start + taken)

end Stencil.Pattern
