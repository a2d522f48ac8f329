import Stencil.Log.Message

/-!
# The Journal

Where messages are shown, and how many of them.

A journal shows messages only while something is connected to it, and then
those whose level does not exceed the verbosity of what is connected.
Connecting gives a token that remembers what was connected before, and handing
the token back restores that; a token can be handed back once. Tokens need not
come back in the order in which they were given.

## Main definitions

* `Journal`: What is connected, and what has been shown.
* `Journal.shows`: Whether a message is shown now.
* `Journal.play`: Show a list of messages.
* `Journal.connect`, `Journal.disconnect`: Connect a verbosity, and undo it.

## Theorems

* `entries_play`: What is shown is a part of what is said, in order.
* `connected_restore`: A token restores the connection.
-/

namespace Stencil

/-- A receipt for a connection, to be handed back once. -/
structure Journal.Token where
  /-- Which of the tokens of its journal it is. -/
  number : Nat
  /-- What was connected before. -/
  previous : Option Int
deriving DecidableEq, Repr

/-- What is connected, and what has been shown so far. -/
structure Journal where
  /-- The verbosity of what is connected, if anything is. -/
  connected : Option Int := none
  /-- The texts shown so far, the oldest first. -/
  entries : List String := []
  /-- How many tokens were given. -/
  issued : Nat := 0
  /-- The numbers of the tokens that were handed back. -/
  spent : List Nat := []
deriving DecidableEq, Repr

namespace Journal

/-- A message is shown if something is connected whose verbosity reaches its
    level. -/
def showsAt (connected : Option Int) (m : Message) : Bool :=
  match connected with
  | none => false
  | some verbosity => m.level ≤ verbosity

/-- Whether a message is shown now. -/
def shows (j : Journal) (m : Message) : Bool :=
  showsAt j.connected m

/-- Show those of the messages that are to be shown, in order. -/
def play (j : Journal) (messages : List Message) : Journal :=
  { j with entries := j.entries ++ (messages.filter j.shows).map Message.text }

/-- Connect a verbosity, or nothing; the token restores what was connected. -/
def connect (j : Journal) (verbosity : Option Int) : Token × Journal :=
  (⟨j.issued, j.connected⟩, { j with connected := verbosity, issued := j.issued + 1 })

/-- Restore what was connected when the token was given. -/
def restore (j : Journal) (token : Token) : Journal :=
  { j with connected := token.previous, spent := token.number :: j.spent }

/-- Hand a token back; `none` if that has been done before. -/
def disconnect (j : Journal) (token : Token) : Option Journal :=
  if j.spent.contains token.number then none else some (j.restore token)

@[simp] theorem connected_play (j : Journal) (ms : List Message) :
    (j.play ms).connected = j.connected := rfl

/-- What is shown is a part of what is said, in order. -/
theorem entries_play (j : Journal) (ms : List Message) :
    (j.play ms).entries = j.entries ++ (ms.filter j.shows).map Message.text := rfl

@[simp] theorem play_nil (j : Journal) : j.play [] = j := by
  simp [play]

@[simp] theorem connected_connect (j : Journal) (verbosity : Option Int) :
    (j.connect verbosity).2.connected = verbosity := rfl

/-- A token restores what was connected when it was given, whatever happened
    in between. -/
@[simp] theorem connected_restore (j i : Journal) (verbosity : Option Int) :
    (i.restore (j.connect verbosity).1).connected = j.connected := rfl

end Journal

end Stencil
