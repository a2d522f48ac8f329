/-!
# Messages

What the library has to say while it works, as values.

A step of the work returns its messages together with its result and never
asks whether anybody listens. Each message carries the least verbosity at
which it is shown, and the choice is made in one place, where messages are
written to a journal. So how much is shown cannot change what is computed,
and a run at a lower verbosity shows a part of what a higher one shows.

Work that can fail is `Trace`: its messages stay when it fails.

## Main definitions

* `Message`: A text and the verbosity from which on it is shown.
* `Logged`: A value and the messages on the way to it.
* `Trace`: Work that may fail, and its messages.

## Theorems

* `messages_bind`: Messages of a sequence come in order.
* `Trace.outcome_bind`, `Trace.messages_bind`: The same for work that may fail.
-/

namespace Stencil

/-- A text and the least verbosity at which it is shown. -/
structure Message where
  level : Int
  text : String
deriving DecidableEq, Repr

/-- A value and the messages on the way to it. -/
structure Logged (α : Type) where
  value : α
  messages : List Message

namespace Logged

instance : Monad Logged where
  pure a := ⟨a, []⟩
  bind x f :=
    let y := f x.value
    ⟨y.value, x.messages ++ y.messages⟩

/-- A message, and nothing else. -/
def say (level : Int) (text : String) : Logged Unit :=
  ⟨(), [⟨level, text⟩]⟩

variable {α β : Type}

@[ext] theorem ext {x y : Logged α} (hv : x.value = y.value) (hm : x.messages = y.messages) :
    x = y := by
  cases x; cases y; simp_all

@[simp] theorem value_pure (a : α) : (pure a : Logged α).value = a := rfl

@[simp] theorem messages_pure (a : α) : (pure a : Logged α).messages = [] := rfl

@[simp] theorem value_bind (x : Logged α) (f : α → Logged β) :
    (x >>= f).value = (f x.value).value := rfl

/-- Messages of a sequence come in order. -/
@[simp] theorem messages_bind (x : Logged α) (f : α → Logged β) :
    (x >>= f).messages = x.messages ++ (f x.value).messages := rfl

@[simp] theorem value_say (level : Int) (text : String) : (say level text).value = () := rfl

@[simp] theorem messages_say (level : Int) (text : String) :
    (say level text).messages = [⟨level, text⟩] := rfl

instance : LawfulMonad Logged :=
  LawfulMonad.mk' Logged
    (fun x => by
      ext1
      · rfl
      · exact List.append_nil _)
    (fun a f => by
      ext1
      · rfl
      · exact List.nil_append _)
    (fun x f g => by
      ext1
      · rfl
      · exact List.append_assoc ..)

end Logged

/-- Work that may fail, and its messages, which stay when it fails. -/
abbrev Trace (ε : Type) : Type → Type :=
  ExceptT ε Logged

namespace Trace

variable {ε ε' α β : Type}

/-- How the work ended. -/
def outcome (t : Trace ε α) : Except ε α :=
  t.run.value

/-- What was said on the way, to the end or to the failure. -/
def messages (t : Trace ε α) : List Message :=
  t.run.messages

/-- Work that ends as given and says nothing. -/
def ofExcept (e : Except ε α) : Trace ε α :=
  ExceptT.mk (pure e)

/-- The same work, its failure put in other terms. -/
def mapError (f : ε → ε') (t : Trace ε α) : Trace ε' α :=
  ExceptT.mk ⟨t.outcome.mapError f, t.messages⟩

@[simp] theorem outcome_pure (a : α) : (pure a : Trace ε α).outcome = .ok a := rfl

@[simp] theorem messages_pure (a : α) : (pure a : Trace ε α).messages = [] := rfl

@[simp] theorem outcome_throw (e : ε) : (throw e : Trace ε α).outcome = .error e := rfl

@[simp] theorem messages_throw (e : ε) : (throw e : Trace ε α).messages = [] := rfl

@[simp] theorem outcome_ofExcept (e : Except ε α) : (ofExcept e).outcome = e := rfl

@[simp] theorem messages_ofExcept (e : Except ε α) : (ofExcept e).messages = [] := rfl

@[simp] theorem outcome_mapError (f : ε → ε') (t : Trace ε α) :
    (t.mapError f).outcome = t.outcome.mapError f := rfl

@[simp] theorem messages_mapError (f : ε → ε') (t : Trace ε α) :
    (t.mapError f).messages = t.messages := rfl

@[simp] theorem outcome_say (level : Int) (text : String) :
    (liftM (Logged.say level text) : Trace ε Unit).outcome = .ok () := rfl

@[simp] theorem messages_say (level : Int) (text : String) :
    (liftM (Logged.say level text) : Trace ε Unit).messages = [⟨level, text⟩] := rfl

/-- A sequence ends where its first failure is, and otherwise as its last part. -/
@[simp] theorem outcome_bind (t : Trace ε α) (f : α → Trace ε β) :
    (t >>= f).outcome =
      match t.outcome with
      | .ok a => (f a).outcome
      | .error e => .error e := by
  rcases t with ⟨e | a, ms⟩ <;> rfl

@[simp] theorem outcome_map (f : α → β) (t : Trace ε α) :
    (f <$> t).outcome = t.outcome.map f := by
  rcases t with ⟨e | a, ms⟩ <;> rfl

@[simp] theorem messages_map (f : α → β) (t : Trace ε α) :
    (f <$> t).messages = t.messages := by
  rcases t with ⟨e | a, ms⟩ <;> simp [messages, Functor.map, ExceptT.map, ExceptT.run,
    ExceptT.mk, bind, pure]

/-- A sequence says what its parts say, as far as it gets. -/
theorem messages_bind (t : Trace ε α) (f : α → Trace ε β) :
    (t >>= f).messages = t.messages ++
      match t.outcome with
      | .ok a => (f a).messages
      | .error _ => [] := by
  rcases t with ⟨e | a, ms⟩ <;> rfl

end Trace

end Stencil
