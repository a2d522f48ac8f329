import Stencil.Proofs.Pattern.Taken

/-!
# Signs Amid Others

That what is read of signs is read of them as well when they stand amid others.

A pattern can stand in parentheses of a longer text. Then its signs have other places,
and where they end a closing parenthesis follows. A reader that is content with the
signs it has does not notice. It may look at the sign after those that it takes, but a
closing parenthesis ends whatever can be ended by the end of the text; and if
it asked for more, it would not have been content.

Only success is carried over, and faults are not: what is cut off by the end of the text is
ended by the parenthesis.

The one exception is a comment without parentheses, which ends with its line and takes
the closing parenthesis with it if its line does not end before.

## Main definitions

* `Carries`: What succeeds in one way succeeds in another way as well.
* `Around`: What stands around signs.
* `Around.put`: The signs with that around them.

## Theorems

* `carries_checkNext`, `carries_readWhile`, `carries_readUntil`: Looking at signs.
* `carries_readEscape`, `carries_readSet`, `carries_readOptions`, `carries_readBraces?`:
  What is read of them.
* `commentLength_put`: How far a comment goes.
-/

namespace Stencil.Pattern

open Text (Extent)

/-- What succeeds in the one way succeeds in the other way as well. Of faults nothing is said: a
    reading that fails alone may well succeed amid other signs. -/
def Carries {α : Type} (x y : Except Error α) : Prop :=
  ∀ a, x = .ok a → y = .ok a

section Carries

variable {α β : Type}

theorem Carries.refl {x : Except Error α} : Carries x x :=
  fun _ h => h

theorem Carries.fail {place : Nat} {fault : Fault} {y : Except Error α} :
    Carries (failAt place fault) y := by
  intro a h
  cases h

/-- What comes after the one comes after the other, and may use that the one succeeded. -/
theorem Carries.bind {x x' : Except Error α} {f f' : α → Except Error β} (hx : Carries x x')
    (hf : ∀ a, x = .ok a → Carries (f a) (f' a)) : Carries (x >>= f) (x' >>= f') := by
  intro b h
  cases hread : x with
  | error e =>
      rw [hread] at h
      cases h
  | ok a =>
      rw [hread] at h
      rw [hx a hread]
      exact hf a hread b h

theorem Carries.map {x x' : Except Error α} (f : α → β) (hx : Carries x x') :
    Carries (x.map f) (x'.map f) := by
  intro b h
  cases hread : x with
  | error e =>
      rw [hread] at h
      cases h
  | ok a =>
      rw [hread] at h
      rw [hx a hread]
      exact h

/-- What comes of the other may be another thing than what comes of the one, if it can be told
    from it. Places are further on in the longer text, for instance. -/
theorem carries_map_iff {x : Except Error α} {y : Except Error β} {g : α → β} :
    Carries (x.map g) y ↔ ∀ a, x = .ok a → y = .ok (g a) := by
  cases x with
  | error e => exact iff_of_true (fun _ h => nomatch h) (fun _ h => nomatch h)
  | ok a =>
      constructor
      · rintro h _ ⟨rfl⟩
        exact h _ rfl
      · rintro h _ ⟨rfl⟩
        exact h _ rfl

theorem Carries.bind_map {γ : Type} {x x' : Except Error α} {f : α → Except Error β}
    {f' : α → Except Error γ} {g : β → γ} (hx : Carries x x')
    (hf : ∀ a, x = .ok a → Carries ((f a).map g) (f' a)) :
    Carries ((x >>= f).map g) (x' >>= f') := by
  have heq : (x >>= f).map g = x >>= fun a => (f a).map g := by cases x <;> rfl
  rw [heq]
  exact hx.bind hf

/-- What comes after the one comes after the other, which may have found another thing. -/
theorem Carries.bind_of_map {γ : Type} {x : Except Error α} {x' : Except Error γ} {g : α → γ}
    {f : α → Except Error β} {f' : γ → Except Error β} (hx : Carries (x.map g) x')
    (hf : ∀ a, x = .ok a → Carries (f a) (f' (g a))) : Carries (x >>= f) (x' >>= f') := by
  intro b h
  obtain ⟨a, ha, h⟩ := bind_eq_ok.1 h
  rw [carries_map_iff.1 hx a ha]
  exact hf a ha b h

theorem Carries.ite_map {c : Prop} [Decidable c] {x y : Except Error α} {x' y' : Except Error β}
    {g : α → β} (hx : Carries (x.map g) x') (hy : Carries (y.map g) y') :
    Carries ((if c then x else y).map g) (if c then x' else y') := by
  split
  · exact hx
  · exact hy

/-- A choice that does not depend on what stands around. -/
theorem Carries.ite {c : Prop} [Decidable c] {x y x' y' : Except Error α} (hx : Carries x x')
    (hy : Carries y y') : Carries (if c then x else y) (if c then x' else y') := by
  split
  · exact hx
  · exact hy

end Carries

/-! ## What stands around -/

/-- The sign further on in a text. -/
def Sign.shift (k : Nat) (c : Sign) : Sign :=
  { c with place := c.place + k }

section Shift

variable (k : Nat) (c : Sign)

@[simp] theorem Sign.char_shift : (c.shift k).char = c.char := rfl

@[simp] theorem Sign.is_shift (char : Char) : (c.shift k).is char = c.is char := rfl

@[simp] theorem Sign.isDangling_shift : (c.shift k).isDangling = c.isDangling := rfl

end Shift

/-- What stands around signs: so many characters before them, and a closing parenthesis and
    other signs after them. -/
structure Around where
  before : Nat
  close : Sign
  after : List Sign
  is_close : close.is ')' = true

namespace Around

variable (a : Around)

/-- Signs with what stands around them. The signs before are only counted, and those after start
    with the closing parenthesis. -/
def put (s : List Sign) : List Sign :=
  s.map (.shift a.before) ++ a.close :: a.after

@[simp] theorem put_nil : a.put [] = a.close :: a.after := rfl

@[simp] theorem put_cons (c : Sign) (s : List Sign) :
    a.put (c :: s) = c.shift a.before :: a.put s := rfl

/-- Some of the signs are put around like all of them. -/
theorem drop_put {count : Nat} {s : List Sign} (h : count ≤ s.length) :
    (a.put s).drop count = a.put (s.drop count) := by
  rw [put, put, List.drop_append_of_le_length (by simpa using h), List.map_drop]

theorem char_close : a.close.char = ')' := by
  have h := a.is_close
  simp only [Sign.is, Bool.and_eq_true, beq_iff_eq] at h
  exact h.2

/-- The sign after them is no other than a parenthesis. -/
theorem is_close_eq_false {char : Char} (h : char ≠ ')') : a.close.is char = false := by
  rw [Sign.is, a.char_close, beq_eq_false_iff_ne.2 h.symm, Bool.and_false]

/-- Whether they start with a certain sign is not changed by what stands around. -/
theorem any_head_put {char : Char} (h : char ≠ ')') (s : List Sign) :
    (a.put s).head?.any (·.is char) = s.head?.any (·.is char) := by
  cases s with
  | nil => exact a.is_close_eq_false h
  | cons c s => rfl

end Around

variable {a : Around} {s : List Sign}

/-! ## Looking at signs -/

theorem carries_checkNext : Carries (checkNext s) (checkNext (a.put s)) := by
  cases s with
  | nil =>
      rw [Around.put_nil, checkNext, Sign.isDangling, a.is_close_eq_false (by decide)]
      exact .refl
  | cons c s =>
      rw [Around.put_cons, checkNext, checkNext, Sign.isDangling_shift]
      split
      · exact .fail
      · exact .refl

theorem carries_checkTaken {count : Nat} (h : count ≤ s.length) :
    Carries (checkTaken count s) (checkTaken count (a.put s)) := by
  induction count generalizing s with
  | zero => exact carries_checkNext
  | succ count ih =>
      refine carries_checkNext.bind fun _ _ => ?_
      rw [a.drop_put (by omega)]
      exact ih (by rw [List.length_drop]; omega)

/-- Signs are read while they belong to a class. Where the signs end, the closing parenthesis ends
    the run, for it does not belong to any class that is read like this. -/
theorem carries_readWhile {isPart : Char → Bool} (hclose : isPart ')' = false) (most : Nat) :
    Carries (readWhile isPart most s) (readWhile isPart most (a.put s)) := by
  induction s generalizing most with
  | nil =>
      cases most with
      | zero => exact .refl
      | succ most =>
          rw [Around.put_nil, readWhile, readWhile, a.char_close, hclose, Bool.and_false]
          · exact .refl
          · simp
  | cons c s ih =>
      cases most with
      | zero => exact .refl
      | succ most =>
          rw [Around.put_cons, readWhile, readWhile]
          refine .ite ?_ .refl
          exact carries_checkNext.bind fun _ _ => (ih most).bind fun _ _ => .refl

/-- Characters that end before the signs do are the same, however many may be taken. -/
theorem readWhile_of_length_le (isPart : Char → Bool) {most most' : Nat} (h : s.length ≤ most)
    (h' : s.length ≤ most') : readWhile isPart most s = readWhile isPart most' s := by
  induction s generalizing most most' with
  | nil => cases most <;> cases most' <;> rfl
  | cons c s ih =>
      obtain ⟨most, rfl⟩ := Nat.exists_eq_add_one.2 (Nat.zero_lt_of_lt h)
      obtain ⟨most', rfl⟩ := Nat.exists_eq_add_one.2 (Nat.zero_lt_of_lt h')
      rw [readWhile, readWhile, ih (Nat.le_of_succ_le_succ h) (Nat.le_of_succ_le_succ h')]

/-- Signs are read up to one that ends them. If that is missing, the reading fails, so it does not
    matter that it might be found further on. -/
theorem carries_readUntil {stop : Char} {empty : Fault} {start start' : Nat} {isFirst : Bool} :
    Carries (readUntil stop empty start isFirst s)
      (readUntil stop empty start' isFirst (a.put s)) := by
  induction s generalizing isFirst with
  | nil =>
      intro b h
      cases isFirst <;> cases h
  | cons c s ih =>
      rw [Around.put_cons, readUntil, readUntil, Sign.is_shift]
      refine carries_checkNext.bind fun _ _ => .ite ?_ ?_
      · exact .ite .fail .refl
      · exact ih.bind fun _ _ => .refl

/-! ## Escapes -/

variable {c : Sign}

theorem carries_readHex (count : Nat) :
    Carries (readHex c count s) (readHex (c.shift a.before) count (a.put s)) :=
  (carries_readWhile (by decide) count).bind fun _ _ => .ite .fail (.ite .fail (.ite .fail .refl))

theorem carries_readNamed :
    Carries (readNamed c s) (readNamed (c.shift a.before) (a.put s)) := by
  cases s with
  | nil => exact .fail
  | cons b s =>
      rw [Around.put_cons, readNamed, readNamed, Sign.is_shift]
      refine .ite (carries_checkNext.bind fun _ _ => carries_readUntil.bind fun found _ => ?_) .fail
      obtain ⟨name, taken⟩ := found
      dsimp only
      -- Whether there is a character with the name has nothing to do with the signs.
      split
      · exact .refl
      · exact .fail

theorem carries_readOctal :
    Carries (readOctal c s) (readOctal (c.shift a.before) (a.put s)) :=
  (carries_readWhile (by decide) 2).bind fun _ _ => .ite .fail .refl

/-- A character that is given in a certain way is given in the same way. -/
theorem carries_readCode? :
    Option.Rel Carries (readCode? c s) (readCode? (c.shift a.before) (a.put s)) := by
  unfold readCode?
  rw [Sign.char_shift]
  split
  · exact .some (carries_readHex 2)
  · exact .some (carries_readHex 4)
  · exact .some (carries_readHex 8)
  · exact .some carries_readNamed
  · exact .some carries_readOctal
  · cases control? c.char with
    | none => exact .none
    | some n => exact .some .refl

theorem carries_readItself : Carries (readItself c) (readItself (c.shift a.before)) :=
  .ite .fail .refl

theorem carries_readSetEscape :
    Carries (readSetEscape c s) (readSetEscape (c.shift a.before) (a.put s)) := by
  unfold readSetEscape
  rw [Sign.char_shift]
  split
  · exact .refl
  · refine .ite .refl (.ite (carries_readOctal.map _) ?_)
    have hcode := carries_readCode? (a := a) (c := c) (s := s)
    generalize readCode? c s = code, readCode? (c.shift a.before) (a.put s) = code' at hcode
    cases hcode with
    | none => exact carries_readItself
    | some h => exact h.map _

theorem carries_readNumber (hs : checkNext s = .ok ()) :
    Carries (readNumber c s) (readNumber (c.shift a.before) (a.put s)) := by
  refine (carries_readWhile (by decide) 1).bind fun digits hdigits => ?_
  rw [Sign.char_shift]
  split
  · -- There is a first digit, so the signs after it are among those that are given.
    rename_i hoctal
    have hlength : 1 ≤ s.length := by
      refine Nat.le_trans ?_ (takes_readWhile hs _ _ digits hdigits).le
      rw [Bool.and_eq_true, Bool.not_eq_true'] at hoctal
      exact List.length_pos_iff.2 (List.isEmpty_eq_false_iff.1 hoctal.2)
    rw [a.drop_put hlength]
    refine (carries_readWhile (by decide) 1).bind fun third _ => ?_
    dsimp only
    split
    · exact carries_readOctal.bind fun _ _ => .refl
    · exact .refl
  · exact .refl

theorem carries_readEscape (hs : checkNext s = .ok ()) (extent : Extent) :
    Carries (readEscape extent c s) (readEscape extent (c.shift a.before) (a.put s)) := by
  unfold readEscape
  rw [Sign.char_shift]
  split
  · exact .refl
  · split
    · exact .refl
    · have hcode := carries_readCode? (a := a) (c := c) (s := s)
      generalize readCode? c s = code, readCode? (c.shift a.before) (a.put s) = code' at hcode
      cases hcode with
      | none => exact .ite (carries_readNumber hs) (carries_readItself.map _)
      | some h => exact h.map _

/-! ## Classes -/

theorem carries_readMember :
    Carries (readMember c s) (readMember (c.shift a.before) (a.put s)) :=
  .ite carries_readSetEscape .refl

/-- Where a range ends in the text says only where a fault of it is. -/
theorem carries_range {d : Sign} {one other : SetEscape} {stop stop' : Nat} :
    Carries (range c d one other stop)
      (range (c.shift a.before) (d.shift a.before) one other stop') := by
  unfold range
  dsimp only
  split
  · exact .ite .fail .refl
  · exact .fail

/-- A set goes up to its bracket, wherever the signs are; the fault that names its start is of no
    concern, as only success is carried over. -/
theorem carries_readMembers (extent : Extent) (opened opened' skip : Nat) (isFirst : Bool) :
    Carries (readMembers extent opened skip isFirst s)
      (readMembers extent opened' skip isFirst (a.put s)) := by
  induction s generalizing skip isFirst with
  | nil =>
      intro b h
      cases skip <;> cases h
  | cons c s ih =>
      rw [Around.put_cons]
      cases skip with
      | succ skip => exact (ih skip isFirst).bind fun _ _ => .refl
      | zero =>
          rw [readMembers, readMembers]
          refine carries_checkNext.bind fun _ _ => ?_
          dsimp only
          rw [Sign.is_shift]
          split
          · exact .refl
          · refine carries_readMember.bind fun found _ => ?_
            obtain ⟨one, more⟩ := found
            dsimp only
            cases hrest : s.drop more with
            | nil => exact .fail
            | cons dash s' =>
                -- There are signs after the member, so it takes no more than are given.
                have hmore : more ≤ s.length := by
                  have hlength := congrArg List.length hrest
                  simp only [List.length_drop, List.length_cons] at hlength
                  omega
                rw [a.drop_put hmore, hrest, Around.put_cons]
                dsimp only
                rw [Sign.is_shift]
                split
                · exact (ih more false).bind fun _ _ => .refl
                · refine carries_checkNext.bind fun _ _ => ?_
                  cases s' with
                  | nil => exact .fail
                  | cons d s' =>
                      rw [Around.put_cons]
                      dsimp only
                      rw [Sign.is_shift]
                      refine carries_checkNext.bind fun _ _ => .ite .refl ?_
                      -- The range has a second end, and the set goes on behind that.
                      refine carries_readMember.bind fun last _ => ?_
                      refine carries_range.bind fun m _ => ?_
                      exact (ih _ false).bind fun _ _ => .refl

theorem carries_readSet (o : Options) (opened opened' : Nat) :
    Carries (readSet o opened s) (readSet o opened' (a.put s)) := by
  unfold readSet
  dsimp only
  rw [a.any_head_put (by decide)]
  cases hnegated : s.head?.any (·.is '^') with
  | false =>
      refine (carries_checkTaken (Nat.zero_le _)).bind fun _ _ => ?_
      exact (carries_readMembers _ _ _ _ _).bind fun _ _ => .refl
  -- A sign that negates the set is one of those that are given.
  | true =>
      have hlength := length_pos_of_any_head hnegated
      refine (carries_checkTaken hlength).bind fun _ _ => ?_
      simp only [if_true]
      rw [a.drop_put hlength]
      exact (carries_readMembers _ _ _ _ _).bind fun _ _ => .refl

/-! ## Options -/

theorem carries_addOn {on : List Switch} {switch : Switch} {stop stop' : Nat} :
    Carries (addOn on switch stop) (addOn on switch stop') :=
  .ite .fail (.ite .fail .refl)

theorem carries_addOff {off : List Switch} {switch : Switch} {stop stop' : Nat} :
    Carries (addOff off switch stop) (addOff off switch stop') :=
  .ite .fail .refl

/-- What letters say, and the sign that ends them, further on in a text. Only the place of that
    sign is another. -/
def endedFurther (k : Nat) (found : List Switch × Sign × Nat) : List Switch × Sign × Nat :=
  (found.1, found.2.1.shift k, found.2.2)

theorem ofSign?_shift (k : Nat) : Switch.ofSign? (c.shift k) = Switch.ofSign? c := rfl

theorem carries_noSwitch {α : Type} {fault : Fault} {y : Except Error α} :
    Carries (noSwitch c fault) y :=
  .fail

theorem carries_readOn {on : List Switch} {stop stop' : Nat} :
    Carries ((readOn on stop s).map (endedFurther a.before)) (readOn on stop' (a.put s)) := by
  induction s generalizing on stop stop' with
  | nil => exact .fail
  | cons c s ih =>
      rw [Around.put_cons, readOn, readOn]
      refine carries_checkNext.bind_map fun _ _ => .ite_map .refl ?_
      rw [ofSign?_shift]
      cases Switch.ofSign? c with
      | none => exact carries_noSwitch
      | some switch =>
          refine carries_addOn.bind_map fun on _ => carries_map_iff.2 fun _ h => ?_
          obtain ⟨found, hfound, h⟩ := bind_eq_ok.1 h
          cases h
          rw [carries_map_iff.1 ih found hfound]
          rfl

theorem carries_readOff {missing : Fault} {off : List Switch} {stop stop' : Nat} :
    Carries ((readOff missing off stop s).map (endedFurther a.before))
      (readOff missing off stop' (a.put s)) := by
  induction s generalizing missing off stop stop' with
  | nil => exact .fail
  | cons c s ih =>
      rw [Around.put_cons, readOff, readOff]
      refine carries_checkNext.bind_map fun _ _ => .ite_map .refl ?_
      rw [ofSign?_shift]
      cases Switch.ofSign? c with
      | none => exact carries_noSwitch
      | some switch =>
          refine carries_addOff.bind_map fun off _ => carries_map_iff.2 fun _ h => ?_
          obtain ⟨found, hfound, h⟩ := bind_eq_ok.1 h
          cases h
          rw [carries_map_iff.1 ih found hfound]
          rfl

theorem carries_readFirstOn :
    Carries ((readFirstOn c s).map (endedFurther a.before))
      (readFirstOn (c.shift a.before) (a.put s)) := by
  rw [readFirstOn, readFirstOn, ofSign?_shift]
  cases Switch.ofSign? c with
  | none => exact .refl
  | some switch => exact carries_addOn.bind_map fun _ _ => carries_readOn

theorem carries_readThenOff :
    Carries ((readThenOff c s).map (endedFurther a.before))
      (readThenOff (c.shift a.before) (a.put s)) :=
  .ite_map carries_readOff .refl

theorem carries_readOptions (hs : checkNext s = .ok ()) :
    Carries (readOptions c s) (readOptions (c.shift a.before) (a.put s)) := by
  refine .bind_of_map carries_readFirstOn fun found hfound => .ite .refl (.ite .fail ?_)
  rw [a.drop_put (takes_readFirstOn hs found hfound).le]
  exact .bind_of_map carries_readThenOff fun _ _ => .ite .fail (.ite .fail .refl)

/-! ## Comments and bounds -/

theorem carries_readComment (opened opened' : Nat) :
    Carries (readComment opened s) (readComment opened' (a.put s)) := by
  induction s with
  | nil => exact .fail
  | cons c s ih =>
      rw [Around.put_cons, readComment, readComment]
      exact carries_checkNext.bind fun _ _ => .ite .refl (ih.bind fun _ _ => .refl)

/-- A comment takes all signs, or it goes as far as it did. In the first case it does not end with
    its line, and goes on behind the signs. -/
theorem commentLength_put (a : Around) (s : List Sign) :
    commentLength s = s.length ∨ commentLength (a.put s) = commentLength s := by
  induction s with
  | nil => exact .inl rfl
  | cons c s ih =>
      rw [Around.put_cons, commentLength, commentLength, Sign.is_shift]
      split
      · exact .inr rfl
      · exact ih.imp (congrArg (· + 1)) (congrArg (· + 1))

theorem carries_readBound {digits : List Char} {place place' : Nat} :
    Carries (readBound place digits) (readBound place' digits) :=
  .ite .refl (.ite .fail (.ite .fail .refl))

theorem carries_readBounds {lo hi : List Char} {place place' : Nat} :
    Carries (readBounds place lo hi) (readBounds place' lo hi) :=
  carries_readBound.bind fun _ _ => carries_readBound.bind fun _ _ => .ite .fail .refl

/-- As many digits may be taken as there are signs, so it is the same that they are more
    with others around them. -/
theorem carries_readDigits (count : Nat) :
    Carries (readWhile Char.isDigit s.length (s.drop count))
      (readWhile Char.isDigit (a.put s).length (a.put (s.drop count))) := by
  have hput : s.length ≤ (a.put s).length := by
    rw [Around.put, List.length_append, List.length_map]
    exact Nat.le_add_right _ _
  have hdrop : (s.drop count).length ≤ s.length := by
    rw [List.length_drop]
    exact Nat.sub_le _ _
  rw [readWhile_of_length_le _ hdrop (Nat.le_trans hdrop hput)]
  exact carries_readWhile (by decide) _

/-- Braces after a piece are read as a repetition, or left alone, as they are by themselves. Each
    part of a repetition is taken from what is given, so what is left after it is what is given
    after it and then what stands around. -/
theorem carries_readBraces? (hs : checkNext s = .ok ()) (place place' : Nat) :
    Carries (readBraces? place s) (readBraces? place' (a.put s)) := by
  unfold readBraces?
  rw [a.any_head_put (by decide)]
  refine .ite .refl (Carries.bind (carries_readDigits 0) fun lo hlo => ?_)
  have hlo' : Taken lo.length s := takes_readWhile hs _ _ lo hlo
  rw [a.drop_put hlo'.le]
  dsimp only
  rw [a.any_head_put (by decide)]
  generalize hcomma : (if (s.drop lo.length).head?.any (·.is ',') then 1 else 0) = comma
  have hcomma' : comma ≤ (s.drop lo.length).length := by
    rw [← hcomma]
    split
    · exact length_pos_of_any_head ‹_›
    · exact Nat.zero_le _
  -- After the comma comes a number again, which may be missing.
  refine (carries_checkTaken hcomma').bind fun _ hchecked => ?_
  rw [a.drop_put hcomma', List.drop_drop]
  refine (carries_readDigits _).bind fun hi hhi => ?_
  have hhi' : comma + hi.length ≤ (s.drop lo.length).length := by
    have hnumbers : Taken (comma + hi.length) (s.drop lo.length) := by
      rw [← List.drop_drop] at hhi
      have hstart : Taken comma (s.drop lo.length) := ⟨hcomma', hchecked⟩
      exact taken_add_iff.2 ⟨hstart, takes_readWhile hstart.checkNext_drop _ _ hi hhi⟩
    exact hnumbers.le
  rw [a.drop_put hhi', a.any_head_put (by decide)]
  split
  · exact .refl
  · -- The brace is there, so it is given too.
    rename_i hlast
    rw [Bool.not_eq_true', Bool.not_eq_false] at hlast
    refine (carries_checkTaken (length_pos_of_any_head hlast)).bind fun _ _ => ?_
    exact carries_readBounds.bind fun _ _ => .refl

end Stencil.Pattern
