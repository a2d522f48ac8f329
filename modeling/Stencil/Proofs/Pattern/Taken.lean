import Stencil.Except
import Stencil.Pattern.Source

/-!
# Signs That Are Taken

That the signs of a piece are there, and that each of them was looked at before it was
taken.

A reader says how many signs it took. The next one goes on behind them, so no more must
be taken than there are. And a backslash at the end of a text is a fault wherever it
stands. It is found by whoever takes the sign in front of it, which every reader
sees to on its own; that none forgets it is what makes a pattern that was read safe to
write down before other text.

## Main definitions

* `Taken`: So many signs are there, and they were looked at.
* `Takes`: What a reader says that it took was there and was looked at.

## Theorems

* `takes_readEscape`, `takes_readSet`, `takes_readOptions`, `takes_readBraces?`: What the
  readers of pieces take.
* `Reader.takes_step`: What is taken with a sign.
* `Reader.taken_of_readAll`: All signs of a pattern that was read.
* `signsFrom_append`: The signs of such a text, when more text follows it.
-/

namespace Stencil.Pattern

open Text (Extent)

/-- So many signs are there to be taken, and neither one of them nor the next one is a
    backslash at the end. -/
structure Taken (count : Nat) (s : List Sign) : Prop where
  le : count ≤ s.length
  checked : checkTaken count s = .ok ()

section Taken

variable {m n : Nat} {c : Sign} {s : List Sign}

theorem taken_zero_iff : Taken 0 s ↔ checkNext s = .ok () :=
  ⟨Taken.checked, fun h => ⟨Nat.zero_le _, h⟩⟩

theorem taken_succ_iff : Taken (n + 1) (c :: s) ↔ checkNext (c :: s) = .ok () ∧ Taken n s := by
  have hchecked : checkTaken (n + 1) (c :: s) = .ok () ↔
      checkNext (c :: s) = .ok () ∧ checkTaken n s = .ok () :=
    ⟨fun h => let ⟨_, hc, hs⟩ := bind_eq_ok.1 h; ⟨hc, hs⟩,
      fun ⟨hc, hs⟩ => bind_eq_ok.2 ⟨(), hc, hs⟩⟩
  constructor
  · rintro ⟨hle, h⟩
    exact ⟨(hchecked.1 h).1, Nat.le_of_succ_le_succ hle, (hchecked.1 h).2⟩
  · rintro ⟨hc, hle, h⟩
    exact ⟨Nat.succ_le_succ hle, hchecked.2 ⟨hc, h⟩⟩

/-- Some signs are taken and then others after them. Each reading is shown to take its own, and
    this puts them together. -/
theorem taken_add_iff : Taken (m + n) s ↔ Taken m s ∧ Taken n (s.drop m) := by
  induction m generalizing s with
  | zero =>
      rw [Nat.zero_add, List.drop_zero]
      refine ⟨fun h => ⟨⟨Nat.zero_le _, ?_⟩, h⟩, And.right⟩
      cases n with
      | zero => exact h.checked
      | succ n =>
          obtain ⟨_, hnext, -⟩ := bind_eq_ok.1 h.checked
          exact hnext
  | succ m ih =>
      cases s with
      | nil =>
          constructor
          · intro h
            exact absurd h.le (by simp)
          · rintro ⟨h, -⟩
            exact absurd h.le (by simp)
      | cons c s =>
          rw [Nat.succ_add, taken_succ_iff, taken_succ_iff, ih, List.drop_succ_cons, and_assoc]

theorem Taken.of_le (h : Taken n s) (hmn : m ≤ n) : Taken m s := by
  obtain ⟨k, rfl⟩ := Nat.exists_eq_add_of_le hmn
  exact (taken_add_iff.1 h).1

/-- The sign after those that were taken was looked at. -/
theorem Taken.checkNext_drop (h : Taken n s) : checkNext (s.drop n) = .ok () :=
  taken_zero_iff.1 (taken_add_iff.1 (Nat.add_zero n ▸ h)).2

/-- What a reader says that it took was there and was looked at. Faults take nothing, so nothing
    is said of them. -/
def Takes {α : Type} (s : List Sign) (taken : α → Nat) (x : Except Error α) : Prop :=
  ∀ a, x = .ok a → Taken (taken a) s

variable {α β : Type} {taken : α → Nat} {f : α → Except Error β} {x y : Except Error α}

theorem Takes.fail {place : Nat} {fault : Fault} : Takes s taken (failAt place fault) :=
  fun _ h => nomatch h

theorem Takes.ok {a : α} (h : Taken (taken a) s) : Takes s taken (.ok a) := by
  rintro _ ⟨rfl⟩
  exact h

theorem Takes.bind {taken : β → Nat} (h : ∀ a, x = .ok a → Takes s taken (f a)) :
    Takes s taken (x >>= f) := by
  intro b hb
  obtain ⟨a, ha, hb⟩ := bind_eq_ok.1 hb
  exact h a ha b hb

theorem Takes.map {g : β → α} {x : Except Error β} (h : Takes s (taken ∘ g) x) :
    Takes s taken (x.map g) := by
  cases x with
  | error e => exact fun _ h => nomatch h
  | ok b => exact .ok (h b rfl)

theorem Takes.ite {c : Prop} [Decidable c] (hx : c → Takes s taken x) (hy : ¬c → Takes s taken y) :
    Takes s taken (if c then x else y) := by
  split
  · exact hx ‹_›
  · exact hy ‹_›

end Taken

/-! ## Looking at signs -/

variable {c : Sign} {s : List Sign}

theorem takes_readWhile (hs : checkNext s = .ok ()) (isPart : Char → Bool) (most : Nat) :
    Takes s List.length (readWhile isPart most s) := by
  induction s generalizing most with
  | nil => cases most <;> exact .ok (taken_zero_iff.2 hs)
  | cons c s ih =>
      cases most with
      | zero => exact .ok (taken_zero_iff.2 hs)
      | succ most =>
          rw [readWhile]
          refine .ite (fun _ => ?_) fun _ => .ok (taken_zero_iff.2 hs)
          exact .bind fun _ hnext => .bind fun digits hdigits =>
            .ok (taken_succ_iff.2 ⟨hs, ih hnext most digits hdigits⟩)

theorem takes_readUntil (hs : checkNext s = .ok ()) {stop : Char} {empty : Fault} {start : Nat}
    (isFirst : Bool) : Takes s Prod.snd (readUntil stop empty start isFirst s) := by
  induction s generalizing isFirst with
  | nil => exact .fail
  | cons c s ih =>
      rw [readUntil]
      refine .bind fun _ hnext => .ite (fun _ => .ite (fun _ => .fail) fun _ => ?_) fun _ => ?_
      · exact .ok (taken_succ_iff.2 ⟨hs, taken_zero_iff.2 hnext⟩)
      · exact .bind fun found hfound => .ok (taken_succ_iff.2 ⟨hs, ih hnext false found hfound⟩)

/-! ## Escapes -/

theorem takes_readHex (hs : checkNext s = .ok ()) (count : Nat) :
    Takes s Prod.snd (readHex c count s) := by
  refine .bind fun digits hdigits => .ite (fun _ => .fail) fun hcount => ?_
  refine .ite (fun _ => .fail) fun _ => .ite (fun _ => .fail) fun _ => .ok ?_
  exact (takes_readWhile hs _ _ digits hdigits).of_le (Nat.le_of_not_lt hcount)

theorem takes_readNamed (hs : checkNext s = .ok ()) : Takes s Prod.snd (readNamed c s) := by
  cases s with
  | nil => exact .fail
  | cons b s =>
      rw [readNamed]
      refine .ite (fun _ => .bind fun _ hnext => .bind fun found hfound => ?_) fun _ => .fail
      have htaken := takes_readUntil hnext _ found hfound
      obtain ⟨name, taken⟩ := found
      dsimp only
      split
      · exact .ok (taken_succ_iff.2 ⟨hs, htaken⟩)
      · exact .fail

theorem takes_readOctal (hs : checkNext s = .ok ()) : Takes s Prod.snd (readOctal c s) :=
  .bind fun digits hdigits => .ite (fun _ => .fail) fun _ =>
    .ok (takes_readWhile hs _ _ digits hdigits)

theorem takes_readCode? (hs : checkNext s = .ok ()) {code : Except Error (Nat × Nat)}
    (h : readCode? c s = some code) : Takes s Prod.snd code := by
  unfold readCode? at h
  split at h
  · exact Option.some.inj h ▸ takes_readHex hs 2
  · exact Option.some.inj h ▸ takes_readHex hs 4
  · exact Option.some.inj h ▸ takes_readHex hs 8
  · exact Option.some.inj h ▸ takes_readNamed hs
  · exact Option.some.inj h ▸ takes_readOctal hs
  · obtain ⟨n, -, rfl⟩ := Option.map_eq_some_iff.1 h
    exact .ok (taken_zero_iff.2 hs)

theorem takes_readItself (hs : checkNext s = .ok ()) : Takes s Prod.snd (readItself c) :=
  .ite (fun _ => .fail) fun _ => .ok (taken_zero_iff.2 hs)

theorem takes_readSetEscape (hs : checkNext s = .ok ()) :
    Takes s Prod.snd (readSetEscape c s) := by
  have hhere : Taken 0 s := taken_zero_iff.2 hs
  unfold readSetEscape
  split
  · exact .ok hhere
  · refine .ite (fun _ => .ok hhere) fun _ => .ite (fun _ => .map (takes_readOctal hs)) fun _ => ?_
    split
    · exact .map (takes_readCode? hs ‹_›)
    · exact takes_readItself hs

/-- A number of three digits takes them once more, as an octal one. -/
theorem takes_readNumber (hs : checkNext s = .ok ()) : Takes s Prod.snd (readNumber c s) := by
  refine .bind fun digits hdigits => ?_
  have hgroup : Taken digits.length s := takes_readWhile hs _ _ digits hdigits
  dsimp only
  split
  · refine .bind fun third _ => ?_
    split
    · exact .bind fun found hfound => .ok (takes_readOctal hs found hfound)
    · exact .ok hgroup
  · exact .ok hgroup

theorem takes_readEscape (hs : checkNext s = .ok ()) (extent : Extent) :
    Takes s Prod.snd (readEscape extent c s) := by
  have hhere : Taken 0 s := taken_zero_iff.2 hs
  unfold readEscape
  split
  · exact .ok hhere
  · split
    · exact .ok hhere
    · split
      · exact .map (takes_readCode? hs ‹_›)
      · exact .ite (fun _ => takes_readNumber hs) fun _ => .map (takes_readItself hs)

/-! ## Classes -/

theorem takes_readMember (hs : checkNext s = .ok ()) : Takes s Prod.snd (readMember c s) :=
  .ite (fun _ => takes_readSetEscape hs) fun _ => .ok (taken_zero_iff.2 hs)

/-- What is left of a member that has been read is passed over, so it must have been taken. The
    signs are gone through one by one, and a member of several signs is read at its first. -/
theorem takes_readMembers {skip : Nat} (hs : Taken skip s) (extent : Extent) (opened : Nat)
    (isFirst : Bool) : Takes s Prod.snd (readMembers extent opened skip isFirst s) := by
  induction s generalizing skip isFirst with
  | nil => cases skip <;> exact .fail
  | cons c s ih =>
      cases skip with
      | succ skip =>
          rw [taken_succ_iff] at hs
          exact .bind fun found hfound =>
            .ok (taken_succ_iff.2 ⟨hs.1, ih hs.2 isFirst found hfound⟩)
      | zero =>
          rw [taken_zero_iff] at hs
          rw [readMembers]
          refine .bind fun _ hnext => ?_
          dsimp only
          split
          · -- The closing bracket is the last sign that is taken.
            exact .ok (taken_succ_iff.2 ⟨hs, taken_zero_iff.2 hnext⟩)
          · refine .bind fun found hfound => ?_
            obtain ⟨one, more⟩ := found
            have hmore : Taken more s := takes_readMember hnext _ hfound
            dsimp only
            cases hrest : s.drop more with
            | nil => exact .fail
            | cons dash s' =>
                dsimp only
                -- A dash makes a range, unless the bracket closes right after it; otherwise the
                -- set goes on.
                split
                · exact .bind fun found hfound =>
                    .ok (taken_succ_iff.2 ⟨hs, ih hmore false found hfound⟩)
                · refine .bind fun _ hnext' => ?_
                  cases s' with
                  | nil => exact .fail
                  | cons d s' =>
                      dsimp only
                      refine .bind fun _ hnext'' => ?_
                      -- The dash and the sign after it come behind the first member.
                      have hdash : Taken (more + 2) s := by
                        have hhead : checkNext (dash :: d :: s') = .ok () := by
                          rw [← hrest]
                          exact hmore.checkNext_drop
                        rw [taken_add_iff, hrest, taken_succ_iff, taken_succ_iff, taken_zero_iff]
                        exact ⟨hmore, hhead, hnext', hnext''⟩
                      split
                      · exact .ok (taken_succ_iff.2 ⟨hs, hdash⟩)
                      · refine .bind fun last hlast => .bind fun m _ => .bind fun found hfound => ?_
                        have hlast' : Taken last.2 s' := takes_readMember hnext'' _ hlast
                        have hskip : Taken (more + 2 + last.2) s := by
                          rw [taken_add_iff, ← List.drop_drop, hrest]
                          exact ⟨hdash, hlast'⟩
                        exact .ok (taken_succ_iff.2 ⟨hs, ih hskip false found hfound⟩)

theorem length_pos_of_any_head {char : Char} (h : s.head?.any (·.is char) = true) :
    1 ≤ s.length := by
  cases s with
  | nil => cases h
  | cons c s => exact Nat.succ_pos _

theorem takes_readSet (o : Options) (opened : Nat) : Takes s Prod.snd (readSet o opened s) := by
  refine .bind fun _ hchecked => .bind fun found hfound => .ok ?_
  have hstart : Taken (if s.head?.any (·.is '^') then 1 else 0) s := by
    refine ⟨?_, hchecked⟩
    split
    · exact length_pos_of_any_head ‹_›
    · exact Nat.zero_le _
  exact taken_add_iff.2
    ⟨hstart, takes_readMembers (taken_zero_iff.2 hstart.checkNext_drop) _ _ _ found hfound⟩

/-! ## Options -/

theorem takes_readOn (hs : checkNext s = .ok ()) {on : List Switch} {stop : Nat} :
    Takes s (·.2.2) (readOn on stop s) := by
  induction s generalizing on stop with
  | nil => exact .fail
  | cons c s ih =>
      rw [readOn]
      refine .bind fun _ hnext => ?_
      dsimp only
      split
      · exact .ok (taken_succ_iff.2 ⟨hs, taken_zero_iff.2 hnext⟩)
      · split
        · exact .fail
        · exact .bind fun _ _ => .bind fun found hfound =>
            .ok (taken_succ_iff.2 ⟨hs, ih hnext found hfound⟩)

theorem takes_readOff (hs : checkNext s = .ok ()) {missing : Fault} {off : List Switch}
    {stop : Nat} : Takes s (·.2.2) (readOff missing off stop s) := by
  induction s generalizing missing off stop with
  | nil => exact .fail
  | cons c s ih =>
      rw [readOff]
      refine .bind fun _ hnext => ?_
      dsimp only
      split
      · exact .ok (taken_succ_iff.2 ⟨hs, taken_zero_iff.2 hnext⟩)
      · split
        · exact .fail
        · exact .bind fun _ _ => .bind fun found hfound =>
            .ok (taken_succ_iff.2 ⟨hs, ih hnext found hfound⟩)

theorem takes_readFirstOn (hs : checkNext s = .ok ()) : Takes s (·.2.2) (readFirstOn c s) := by
  unfold readFirstOn
  split
  · exact .bind fun on _ => takes_readOn hs
  · exact .ok (taken_zero_iff.2 hs)

theorem takes_readThenOff (hs : checkNext s = .ok ()) : Takes s (·.2.2) (readThenOff c s) :=
  .ite (fun _ => takes_readOff hs) fun _ => .ok (taken_zero_iff.2 hs)

theorem takes_readOptions (hs : checkNext s = .ok ()) : Takes s Prod.snd (readOptions c s) := by
  refine .bind fun found hfound => ?_
  have hon : Taken found.2.2 s := takes_readFirstOn hs found hfound
  refine .ite (fun _ => .ok hon) fun _ => .ite (fun _ => .fail) fun _ => .bind fun found' hoff => ?_
  have hboth : Taken (found.2.2 + found'.2.2) s :=
    taken_add_iff.2 ⟨hon, takes_readThenOff hon.checkNext_drop found' hoff⟩
  exact .ite (fun _ => .fail) fun _ => .ite (fun _ => .fail) fun _ => .ok hboth

/-! ## Comments and bounds -/

theorem takes_readComment (hs : checkNext s = .ok ()) (opened : Nat) :
    Takes s id (readComment opened s) := by
  induction s with
  | nil => exact .fail
  | cons c s ih =>
      rw [readComment]
      refine .bind fun _ hnext => .ite (fun _ => ?_) fun _ => .bind fun taken htaken => ?_
      · exact .ok (taken_succ_iff.2 ⟨hs, taken_zero_iff.2 hnext⟩)
      · exact .ok (taken_succ_iff.2 ⟨hs, ih hnext taken htaken⟩)

theorem commentLength_le (s : List Sign) : commentLength s ≤ s.length := by
  induction s with
  | nil => exact Nat.le_refl _
  | cons c s ih =>
      rw [commentLength]
      split
      · exact Nat.succ_le_succ (Nat.zero_le _)
      · exact Nat.succ_le_succ ih

/-- The two numbers and the comma between them are taken in a row, and then the brace. Without the
    brace it is no repetition, and nothing is taken. -/
theorem takes_readBraces? (hs : checkNext s = .ok ()) (place : Nat) :
    Takes s (fun found => (found.map (·.2.2)).getD 0) (readBraces? place s) := by
  refine .ite (fun _ => .ok (taken_zero_iff.2 hs)) fun _ => .bind fun lo hlo => ?_
  have hlo' : Taken lo.length s := takes_readWhile hs _ _ lo hlo
  dsimp only
  generalize hcomma : (if (s.drop lo.length).head?.any (·.is ',') then 1 else 0) = comma
  refine .bind fun _ hchecked => .bind fun hi hhi => ?_
  have hcomma' : Taken comma (s.drop lo.length) := by
    refine ⟨?_, hchecked⟩
    rw [← hcomma]
    split
    · exact length_pos_of_any_head ‹_›
    · exact Nat.zero_le _
  have hhi' : Taken hi.length ((s.drop lo.length).drop comma) :=
    takes_readWhile hcomma'.checkNext_drop _ _ hi hhi
  split
  · exact .ok (taken_zero_iff.2 hs)
  · rename_i hlast
    refine .bind fun _ hchecked' => .bind fun bounds _ => .ok ?_
    have hbrace : Taken 1 (((s.drop lo.length).drop comma).drop hi.length) := by
      rw [List.drop_drop]
      exact ⟨length_pos_of_any_head (by simpa using hlast), hchecked'⟩
    show Taken (lo.length + comma + hi.length + 1) s
    rw [Nat.add_assoc, Nat.add_assoc, taken_add_iff, taken_add_iff, taken_add_iff]
    exact ⟨hlo', hcomma', hhi', hbrace⟩

/-! ## Steps -/

namespace Reader

variable {r : Reader} {opened : Nat}

theorem readGreed_le (s : List Sign) : (readGreed s).2 ≤ s.length := by
  unfold readGreed
  split
  · exact length_pos_of_any_head ‹_›
  · split
    · exact length_pos_of_any_head ‹_›
    · exact Nat.zero_le _

theorem takes_repeatLast {place least : Nat} {most : Option Nat} :
    Takes s Prod.snd (r.repeatLast place least most s) :=
  .bind fun _ _ => .bind fun _ hchecked => .ok ⟨readGreed_le s, hchecked⟩

theorem takes_stepEscape (hs : checkNext s = .ok ()) : Takes s Prod.snd (r.stepEscape c s) := by
  refine .bind fun found hfound => ?_
  have htaken : Taken found.2 s := takes_readEscape hs _ found hfound
  obtain ⟨escape, taken⟩ := found
  cases escape with
  | part part => exact .ok htaken
  | anchor a => exact .ok htaken
  | group number =>
      dsimp only
      split
      · exact .fail
      · exact .bind fun _ _ => .bind fun _ _ => .ok htaken

theorem takes_readName (hs : checkNext s = .ok ()) {stop : Char} {start : Nat} :
    Takes s (·.2.2) (readName stop start s) :=
  .bind fun found hfound => .ok (takes_readUntil hs true found hfound)

theorem takes_stepNamed (hs : checkNext s = .ok ()) {start : Nat} :
    Takes s Prod.snd (r.stepNamed opened start s) := by
  refine .bind fun found hfound => ?_
  have htaken : Taken found.2.2 s := takes_readName hs found hfound
  dsimp only
  split
  · exact .fail
  · split
    · exact .fail
    · exact .bind fun _ _ => .ok htaken

theorem takes_stepAgain (hs : checkNext s = .ok ()) {start : Nat} :
    Takes s Prod.snd (r.stepAgain opened start s) := by
  refine .bind fun found hfound => ?_
  have htaken : Taken found.2.2 s := takes_readName hs found hfound
  dsimp only
  split
  · exact .fail
  · split
    · exact .fail
    · exact .bind fun _ _ => .bind fun _ _ => .ok htaken

theorem takes_stepGiven (hs : checkNext s = .ok ()) {start : Nat} :
    Takes s Prod.snd (r.stepGiven opened start s) := by
  refine .bind fun found hfound => ?_
  have htaken : Taken found.2.2 s := takes_readName hs found hfound
  exact .bind fun _ _ => .bind fun _ _ => .bind fun _ _ => .ok htaken

theorem takes_stepOptions (hs : checkNext s = .ok ()) :
    Takes s Prod.snd (r.stepOptions opened c s) := by
  refine .bind fun found hfound => ?_
  have htaken : Taken found.2 s := takes_readOptions hs found hfound
  obtain ⟨signs, taken⟩ := found
  -- Whether the options are for the whole pattern or for a part, the same signs spell them.
  cases signs with
  | whole on =>
      dsimp only
      split
      · exact .fail
      · exact .ok htaken
  | part on off => exact .bind fun _ _ => .ok htaken

theorem takes_stepNext (hs : checkNext s = .ok ()) {stop : Nat}
    {step : Sign → List Sign → Except Error (Reader × Nat)}
    (h : ∀ c s, checkNext s = .ok () → Takes s Prod.snd (step c s)) :
    Takes s Prod.snd (stepNext stop s step) := by
  cases s with
  | nil => exact .fail
  | cons c s =>
      exact .bind fun _ hnext => .bind fun found hfound =>
        .ok (taken_succ_iff.2 ⟨hs, h c s hnext found hfound⟩)

/-- What follows an opening parenthesis and a question mark is taken. Most parts only open, and
    what is in them is read by later steps; names, comments and options are read at once. -/
theorem takes_stepExtension (hs : checkNext s = .ok ()) :
    Takes s Prod.snd (r.stepExtension opened c s) := by
  have hhere (x : Except Error Reader) {s : List Sign} (hs : checkNext s = .ok ()) :
      Takes s Prod.snd (x.map fun r => (r, 0)) := .map fun _ _ => taken_zero_iff.2 hs
  unfold stepExtension
  refine .ite (fun _ => hhere _ hs) fun _ => .ite (fun _ => hhere _ hs) fun _ =>
    .ite (fun _ => hhere _ hs) fun _ => .ite (fun _ => hhere _ hs) fun _ =>
    .ite (fun _ => ?behind) fun _ => .ite (fun _ => ?named) fun _ =>
    .ite (fun _ => ?comment) fun _ => .ite (fun _ => takes_stepGiven hs) fun _ => .ite (fun _ => takes_stepOptions hs) fun _ => .fail
  case behind =>
    exact takes_stepNext hs fun e s hs =>
      .ite (fun _ => hhere _ hs) fun _ => .ite (fun _ => hhere _ hs) fun _ => .fail
  case named =>
    exact takes_stepNext hs fun e s hs =>
      .ite (fun _ => takes_stepNamed hs) fun _ => .ite (fun _ => takes_stepAgain hs) fun _ => .fail
  case comment => exact .map (takes_readComment hs opened)

theorem takes_stepOpening (hs : checkNext s = .ok ()) : Takes s Prod.snd (r.stepOpening c s) := by
  refine .ite (fun _ => .map fun _ _ => taken_zero_iff.2 hs) fun _ => ?_
  exact takes_stepNext hs fun _ _ hs => takes_stepNext hs fun _ _ hs => takes_stepExtension hs

/-- A piece takes signs that are there, whatever it is. The cases are those of the step, and each
    is one of the readings above or takes nothing. -/
theorem takes_stepPiece : Takes s Prod.snd (r.stepPiece c s) := by
  refine .bind fun _ hs => ?_
  have hhere : Taken 0 s := taken_zero_iff.2 hs
  refine .ite (fun _ => takes_stepEscape hs) fun _ => .ite (fun _ => .ok hhere) fun _ => .ite
    (fun _ => .bind fun _ hcomment => .ok ⟨commentLength_le s, hcomment⟩) fun _ => ?_
  -- What is left is told apart by its character. Most pieces are the character alone, and take
  -- nothing after it.
  split
  · exact takes_stepOpening hs
  · exact .bind fun found hfound => .ok (takes_readSet _ _ found hfound)
  · exact .ok hhere
  · exact .ok hhere
  · exact .ok hhere
  · exact takes_repeatLast
  · exact takes_repeatLast
  · exact takes_repeatLast
  · refine .bind fun found hfound => ?_
    have hbraces := takes_readBraces? hs _ found hfound
    cases found with
    | none => exact .ok hhere
    | some bounds =>
        exact .bind fun found hfound =>
          .ok (taken_add_iff.2 ⟨hbraces, takes_repeatLast found hfound⟩)
  · exact .ok hhere

/-- What a step says that it took is there, and none of it is a backslash at the end. Most
    readings look one sign ahead, and this is what they look for. -/
theorem takes_step : Takes s Prod.snd (r.step c s) := by
  refine .ite (fun _ => ?_) fun _ => .ite (fun _ => ?_) fun _ => takes_stepPiece
  · unfold stepClosing
    split
    · exact .bind fun _ _ => .fail
    · exact .bind fun _ hs => .ok (taken_zero_iff.2 hs)
  · unfold stepBar
    split
    · exact .fail
    · exact .bind fun _ hs => .ok (taken_zero_iff.2 hs)

/-- In a pattern that was read, no sign is a backslash at the end. A sign that a step skips was
    checked by the reading that took it, and the others by their own steps. -/
theorem taken_of_readAll {skip : Nat} (hs : Taken skip s) {r' : Reader}
    (h : r.readAll skip s = .ok r') : Taken s.length s := by
  induction s generalizing skip r with
  | nil => exact taken_zero_iff.2 rfl
  | cons c s ih =>
      cases skip with
      | succ skip =>
          rw [taken_succ_iff] at hs
          exact taken_succ_iff.2 ⟨hs.1, ih hs.2 h⟩
      | zero =>
          obtain ⟨found, hfound, h⟩ := bind_eq_ok.1 h
          exact taken_succ_iff.2 ⟨taken_zero_iff.1 hs, ih (takes_step found hfound) h⟩

end Reader

/-- Without a backslash at the end, the signs of a text are the same before any other text. A
    backslash at the end would take the first character of that text with it. -/
theorem signsFrom_append {place : Nat} {s : List Char}
    (h : Taken (signsFrom place s).length (signsFrom place s)) (t : List Char) :
    signsFrom place (s ++ t) = signsFrom place s ++ signsFrom (place + s.length) t := by
  fun_induction signsFrom place s with
  | case1 place c s ih =>
      rw [List.length_cons, taken_succ_iff] at h
      have hplace : place + 2 + s.length = place + (s.length + 1 + 1) := by omega
      rw [List.cons_append, List.cons_append, signsFrom, ih h.2, hplace]
      rfl
  | case2 place c s hc ih =>
      rw [List.length_cons, taken_succ_iff] at h
      have hne : c ≠ '\\' := by
        rintro rfl
        cases h.1
      have hplace : place + 1 + s.length = place + (s.length + 1) := by omega
      rw [List.cons_append, signsFrom, ih h.2, hplace]
      · rfl
      · rintro _ _ rfl
        exact absurd rfl hne
  | case3 => rfl

end Stencil.Pattern
