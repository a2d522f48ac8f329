import Stencil.Proofs.Pattern.Placed

/-!
# Patterns in Their Places

That a pattern which reads the same wherever it stands is read in the parentheses of a
group as it is read alone.

While the two are read, the one reader holds what the other holds where it stands, and a
step keeps this. The steps that do not keep it are those that let something around be seen:
options for the whole pattern, names of groups, and numbers that refer to groups. A
reader remembers that it met one of these, so it is enough to look at the end; that the
pattern was local then is carried back from step to step.

One thing cannot be seen at the end. A comment without parentheses goes as far as its line,
and would take the closing parenthesis with it. It stands where blanks do not count. If the
signs end with the comment, all parts are closed, so it stands in the outermost one; and
there blanks count, since only options for the whole pattern could say otherwise.

## Main definitions

* `Reader.IsLocal`: What was read so far reads the same anywhere.
* `Setting.Keeps`: A step that comes to the same in the place.

## Theorems

* `Setting.keeps_step`: A step comes to the same in the place, but for a comment.
* `Setting.isLocal_of_readAll`: What is local at the end was local before.
* `Setting.readAll_put`: A pattern is read in the place as it is alone.
-/

namespace Stencil.Pattern

/-- What was read so far reads the same anywhere: it sees nothing that stands around. Each field
    is about one thing that could let it be seen, and the last leaves room for the group around. -/
structure Reader.IsLocal (r : Reader) : Prop where
  whole : r.whole = []
  names : r.groups.names = []
  isNumbered : r.isNumbered = false
  late : r.late = none
  depth : r.depth < deepest

namespace Setting

variable {a : Setting} {r : Reader}

/-- A step that comes to the same in the place. It is asked of the reader after the step that it
    is local, since what a reader has met is only known then; that it was local before is part of
    what is shown. -/
def Keeps (a : Setting) (r : Reader) (x y : Except Error (Reader × Nat)) : Prop :=
  ∀ r' taken, x = .ok (r', taken) → r'.IsLocal →
    r.IsLocal ∧ r'.Follows r ∧ y = .ok (a.reader r', taken)

theorem Keeps.fail {place : Nat} {fault : Fault} {y : Except Error (Reader × Nat)} :
    a.Keeps r (failAt place fault) y :=
  fun _ _ h => nomatch h

theorem Keeps.ok {r' : Reader} {taken : Nat} {y : Except Error (Reader × Nat)}
    (h : r'.IsLocal → r.IsLocal ∧ r'.Follows r ∧ y = .ok (a.reader r', taken)) :
    a.Keeps r (.ok (r', taken)) y := by
  rintro _ _ ⟨rfl⟩
  exact h

/-- What comes after a reading that finds in the place what it finds alone, or another thing. -/
theorem Keeps.bind_of_map {α β : Type} {x : Except Error α} {x' : Except Error β} {g : α → β}
    {f : α → Except Error (Reader × Nat)} {f' : β → Except Error (Reader × Nat)}
    (hx : Carries (x.map g) x') (hf : ∀ b, x = .ok b → a.Keeps r (f b) (f' (g b))) :
    a.Keeps r (x >>= f) (x' >>= f') := by
  intro r' taken h
  obtain ⟨b, hb, h⟩ := bind_eq_ok.1 h
  rw [carries_map_iff.1 hx b hb]
  exact hf b hb r' taken h

theorem Keeps.bind {α : Type} {x x' : Except Error α} {f f' : α → Except Error (Reader × Nat)}
    (hx : Carries x x') (hf : ∀ b, x = .ok b → a.Keeps r (f b) (f' b)) :
    a.Keeps r (x >>= f) (x' >>= f') := by
  intro r' taken h
  obtain ⟨b, hb, h⟩ := bind_eq_ok.1 h
  rw [hx b hb]
  exact hf b hb r' taken h

/-- A step that is a part of one that takes other signs as well. -/
theorem Keeps.count {x y : Except Error (Reader × Nat)} (h : a.Keeps r x y) (f : Nat → Nat) :
    a.Keeps r (x >>= fun found => .ok (found.1, f found.2))
      (y >>= fun found => .ok (found.1, f found.2)) := by
  intro r' taken hx hlocal
  obtain ⟨⟨r'', taken'⟩, hfound, hx⟩ := bind_eq_ok.1 hx
  cases hx
  obtain ⟨hr, hfollows, hstep⟩ := h _ _ hfound hlocal
  exact ⟨hr, hfollows, bind_eq_ok.2 ⟨_, hstep, rfl⟩⟩

theorem Keeps.ite {c : Prop} [Decidable c] {x y x' y' : Except Error (Reader × Nat)}
    (hx : c → a.Keeps r x x') (hy : ¬c → a.Keeps r y y') :
    a.Keeps r (if c then x else y) (if c then x' else y') := by
  split
  · exact hx ‹_›
  · exact hy ‹_›

/-! ### Pieces -/

theorem keeps_push {place taken : Nat} {piece : Piece} (hpiece : piece.pattern.groups = 0) :
    a.Keeps r (.ok (r.push place piece, taken))
      (.ok ((a.reader r).push (place + a.before) (piece.raise a.groups.count), taken)) := by
  have hweight : (r.top.push place piece).weight = r.top.weight := by
    rw [weight_push, hpiece, Nat.add_zero]
  exact .ok fun h => ⟨⟨h.whole, h.names, h.isNumbered, h.late, h.depth⟩,
    Reader.follows_top rfl rfl hweight, by rw [reader_push]⟩

/-- What is repeated is the last piece. -/
theorem last_of_repeatable {f : Frame} {start : Nat} {found : Nat × Piece}
    (h : f.repeatable start = .ok found) : f.last = some found := by
  unfold Frame.repeatable at h
  split at h
  · cases h
  · cases h
  · cases h
  · cases h
    assumption

/-- Repetitions are forbidden by an option for the whole pattern, and are at fault then. The fault
    is kept, so a reader that is local did not have the option. -/
theorem replaceLast_eq {start : Nat} {greed : Greed} {p : Pattern}
    (hlocal : (r.replaceLast start greed p).IsLocal) :
    r.IsLocal ∧ r.replaceLast start greed p = { r with top := r.top.repetition start p } := by
  unfold Reader.replaceLast at hlocal ⊢
  cases hunrepeated : r.whole.contains .unrepeated with
  | true =>
      rw [hunrepeated] at hlocal
      exact absurd hlocal.late (Reader.late_note _ _ _)
  | false =>
      rw [hunrepeated] at hlocal
      exact ⟨⟨hlocal.whole, hlocal.names, hlocal.isNumbered, hlocal.late, hlocal.depth⟩, rfl⟩

/-- A repetition is of the same piece, which the part has as its last one in either place. -/
theorem keeps_repeatLast {s : List Sign} {start start' least : Nat} {most : Option Nat} :
    a.Keeps r (r.repeatLast start least most s)
      ((a.reader r).repeatLast start' least most (a.put s)) := by
  have hgreed : Reader.readGreed (a.put s) = Reader.readGreed s := by
    rw [Reader.readGreed, Reader.readGreed, a.any_head_put (by decide), a.any_head_put (by decide)]
  have hle := Reader.readGreed_le s
  unfold Reader.repeatLast
  rw [hgreed]
  generalize Reader.readGreed s = greed at hle ⊢
  refine .bind_of_map (carries_repeatable start start') fun found hfound =>
    .bind (carries_checkTaken hle) fun _ _ => .ok fun hlocal => ?_
  obtain ⟨hr, hreplace⟩ := replaceLast_eq hlocal
  have hrepeated : (a.reader r).replaceLast (found.1 + a.before) greed.1
      ((found.2.repeated least most greed.1).raise a.groups.count) =
        a.reader (r.replaceLast found.1 greed.1 (found.2.repeated least most greed.1)) :=
    reader_replaceLast hr.whole
  -- What is left to see is that the groups of the part still count as before.
  refine ⟨hr, ?_, by rw [← hrepeated, ← Piece.repeated_raise]; rfl⟩
  rw [hreplace]
  exact Reader.follows_top rfl rfl
    (weight_repetition (last_of_repeatable hfound) (Piece.groups_repeated _ _ _ _))

/-- An escape refers to a group, or is read where it stands as it is alone. -/
theorem keeps_stepEscape {c : Sign} {s : List Sign} (hs : checkNext s = .ok ()) :
    a.Keeps r (r.stepEscape c s) ((a.reader r).stepEscape (c.shift a.before) (a.put s)) := by
  refine .bind (carries_readEscape hs _) fun found _ => ?_
  obtain ⟨escape, taken⟩ := found
  cases escape with
  | part part => exact keeps_push rfl
  | anchor anchor => exact keeps_push rfl
  | group number =>
      -- A number of a group means another group elsewhere, and the reader remembers that it met
      -- one.
      intro r' taken' h hlocal
      dsimp only at h
      split at h
      · cases h
      · obtain ⟨-, -, h⟩ := bind_eq_ok.1 h
        obtain ⟨-, -, h⟩ := bind_eq_ok.1 h
        cases h
        cases hlocal.isNumbered

/-! ### Parts -/

/-- A part is opened where it stands as it is alone, unless it is as deep as can be. Where it
    stands there is one part more around it, so the depth is what can differ, and being local
    leaves room for that one. -/
theorem enter_reader {r' : Reader} {opened : Nat} {role : Role} {o : Options}
    (h : r.enter opened role o = .ok r') (hlocal : r'.IsLocal) :
    r.IsLocal ∧ (a.reader r).enter (opened + a.before) (role.raise a.groups.count) o =
      .ok (a.reader r') := by
  obtain ⟨-, rfl⟩ := Reader.enter_eq_ok h
  obtain ⟨hwhole, hnames, hnumbered, hlate, hdepth⟩ := hlocal
  dsimp only at hdepth
  have hfits : ¬deepest < (a.reader r).outer.length + 1 + (!(a.reader r).isWhole).toNat := by
    rw [length_outer_reader, isWhole_reader, Bool.not_true, Bool.toNat_false]
    omega
  have hmax : max (a.reader r).depth ((a.reader r).outer.length + 1) =
      max a.depth (max r.depth (r.outer.length + 1) + 1) := by
    rw [length_outer_reader, depth_reader]
    omega
  refine ⟨⟨hwhole, hnames, hnumbered, hlate, by omega⟩, ?_⟩
  unfold Reader.enter
  dsimp only
  rw [if_neg hfits, hmax]
  rfl

theorem Keeps.of_enter {x y : Except Error Reader} {taken : Nat}
    (h : ∀ r', x = .ok r' → r'.IsLocal → r.IsLocal ∧ r'.Follows r ∧ y = .ok (a.reader r')) :
    a.Keeps r (x.map fun r => (r, taken)) (y.map fun r => (r, taken)) := by
  intro r' taken' hx hlocal
  cases x with
  | error e => cases hx
  | ok r'' =>
      cases hx
      obtain ⟨hr, hfollows, hy⟩ := h _ rfl hlocal
      exact ⟨hr, hfollows, by rw [hy]; rfl⟩

theorem keeps_enter (opened taken : Nat) (role : Role) (o : Options)
    (hrole : (Frame.start opened role o).weight = 0) :
    a.Keeps r ((r.enter opened role o).map fun r => (r, taken))
      (((a.reader r).enter (opened + a.before) (role.raise a.groups.count) o).map
        fun r => (r, taken)) := by
  refine .of_enter fun r' h hlocal => ?_
  obtain ⟨hr, henter⟩ := enter_reader h hlocal
  have htally := Reader.tally_of_enter h
  have houtermost := Reader.outermost_of_enter h
  rw [hrole, Nat.zero_add] at htally
  refine ⟨hr, ⟨by rw [houtermost], by rw [houtermost], ?_⟩, henter⟩
  rw [htally, (Reader.enter_eq_ok h).2]

theorem keeps_enterGroup (opened taken : Nat) :
    a.Keeps r ((r.enterGroup opened none).map fun r => (r, taken))
      (((a.reader r).enterGroup (opened + a.before) none).map fun r => (r, taken)) := by
  have hgroups : { a.reader r with groups := (a.reader r).groups.capture none } =
      a.reader { r with groups := r.groups.capture none } :=
    congrArg (fun groups => { a.reader r with groups }) (Groups.capture_append _ _)
  have hcount : Role.group (a.reader r).groups.count =
      (Role.group r.groups.count).raise a.groups.count :=
    congrArg Role.group (Groups.count_append _ _)
  refine .of_enter fun r' h hlocal => ?_
  rw [Reader.enterGroup] at h
  obtain ⟨hr, henter⟩ := enter_reader (a := a) h hlocal
  have htally := Reader.tally_of_enter h
  have houtermost := Reader.outermost_of_enter h
  refine ⟨⟨hr.whole, ?_, hr.isNumbered, hr.late, hr.depth⟩, ⟨?_, ?_, ?_⟩, ?_⟩
  · simpa [Groups.capture] using hr.names
  · rw [houtermost]
    rfl
  · rw [houtermost]
    rfl
  · -- There is one group more, which is the part that is opened.
    have hcount' : r'.groups.count = r.groups.count + 1 := by
      rw [(Reader.enter_eq_ok h).2]
      exact Groups.count_capture _ _
    rw [htally, hcount', Nat.add_assoc]
    rfl
  · rw [Reader.enterGroup, hgroups, hcount]
    exact henter

theorem keeps_enterBehind (opened taken : Nat) (wanted : Bool) :
    a.Keeps r ((r.enterBehind opened wanted).map fun r => (r, taken))
      (((a.reader r).enterBehind (opened + a.before) wanted).map fun r => (r, taken)) := by
  have hrole : Role.behind wanted (a.reader r).groups.count =
      (Role.behind wanted r.groups.count).raise a.groups.count :=
    congrArg (Role.behind wanted) (Groups.count_append _ _)
  rw [Reader.enterBehind, Reader.enterBehind, hrole]
  exact keeps_enter _ _ (.behind wanted r.groups.count) _ rfl

/-- What is local after a part is closed was local before. Closing a part takes no fault back. -/
theorem isLocal_of_leave {next : Frame} {outer : List Frame}
    (h : (r.leave next outer).IsLocal) : r.IsLocal := by
  unfold Reader.leave at h
  dsimp only at h
  cases hr : r.top.role with
  | plain | atomic | ahead | group | given =>
      rw [hr] at h
      exact ⟨h.whole, h.names, h.isNumbered, h.late, h.depth⟩
  | behind wanted before =>
      rw [hr] at h
      dsimp only at h
      rw [Reader.noteWidth_eq h.late] at h
      exact ⟨h.whole, h.names, h.isNumbered, h.late, h.depth⟩

/-- A closing parenthesis closes the part where it stands. -/
theorem keeps_stepClosing {c : Sign} {s : List Sign} :
    a.Keeps r (r.stepClosing c s) ((a.reader r).stepClosing (c.shift a.before) (a.put s)) := by
  cases houter : r.outer with
  | nil =>
      -- Alone, no part is open, and the parenthesis is at fault. Where the pattern stands it would
      -- close the group, but nothing has to be shown of that.
      intro r' taken h
      rw [Reader.stepClosing, houter] at h
      obtain ⟨-, -, h⟩ := bind_eq_ok.1 h
      cases h
  | cons next outer =>
      have hframes : (a.reader r).outer = a.place outer.isEmpty next :: a.frames outer := by
        rw [reader, houter]
        rfl
      rw [Reader.stepClosing, Reader.stepClosing, houter, hframes]
      refine .bind carries_checkNext fun _ _ => .ok fun hlocal =>
        ⟨isLocal_of_leave hlocal, Reader.follows_leave houter hlocal.late, ?_⟩
      rw [reader_leave houter hlocal.late]
      rfl

/-- A bar starts another alternative, but for a third one in a choice. -/
theorem stepBar_eq {c : Sign} {s : List Sign}
    (h : ∀ number, r.top.role = .given number → r.top.branches = []) :
    r.stepBar c s = checkNext s >>= fun _ => .ok ({ r with top := r.top.branch }, 0) := by
  unfold Reader.stepBar
  split
  · rename_i hrole hbranches
    rw [h _ hrole] at hbranches
    cases hbranches
  · rfl

/-- A bar starts another alternative where it stands, in the part that is open there. -/
theorem keeps_stepBar {c : Sign} {s : List Sign} :
    a.Keeps r (r.stepBar c s) ((a.reader r).stepBar (c.shift a.before) (a.put s)) := by
  -- A choice by a group has two alternatives at most, so a bar in it can be one too many.
  by_cases hthird : ∃ number, r.top.role = .given number ∧ r.top.branches ≠ []
  · obtain ⟨number, hrole, hbranches⟩ := hthird
    obtain ⟨p, ps, hbranches⟩ := List.exists_cons_of_ne_nil hbranches
    rw [Reader.stepBar, hrole, hbranches]
    exact .fail
  · have hbranches : ∀ number, r.top.role = .given number → r.top.branches = [] :=
      fun number hrole => Decidable.byContradiction fun h => hthird ⟨number, hrole, h⟩
    have hbranches' : ∀ number, (a.reader r).top.role = .given number →
        (a.reader r).top.branches = [] := by
      intro number hrole
      obtain ⟨number, hrole⟩ := exists_given_of_place hrole
      exact List.map_eq_nil_iff.2 (hbranches number hrole)
    have hbranch : (a.reader r).top.branch = a.place r.outer.isEmpty r.top.branch := branch_place
    rw [stepBar_eq hbranches, stepBar_eq hbranches', hbranch]
    exact .bind carries_checkNext fun _ _ => .ok fun h =>
      ⟨⟨h.whole, h.names, h.isNumbered, h.late, h.depth⟩,
        Reader.follows_top rfl rfl (weight_branch hbranches), rfl⟩

/-! ### What is never local -/

theorem Keeps.of_not_isLocal {x y : Except Error (Reader × Nat)}
    (h : ∀ r' taken, x = .ok (r', taken) → ¬r'.IsLocal) : a.Keeps r x y :=
  fun r' taken hx hlocal => absurd hlocal (h r' taken hx)

/-- Without names, no group is referred to by its name. -/
theorem number?_eq_none {g : Groups} (h : g.names = []) (name : String) :
    g.number? name = none := by
  rw [Groups.number?, h]
  rfl

/-- A group with a name is never local. -/
theorem keeps_stepNamed {opened start : Nat} {s : List Sign}
    {y : Except Error (Reader × Nat)} : a.Keeps r (r.stepNamed opened start s) y := by
  refine .of_not_isLocal fun r' taken h hlocal => ?_
  obtain ⟨found, -, h⟩ := bind_eq_ok.1 h
  dsimp only at h
  split at h
  · cases h
  · split at h
    · cases h
    · obtain ⟨entered, henter, h⟩ := bind_eq_ok.1 h
      cases h
      -- Here a group with a name was opened, and that name is there at the end.
      have hnames := hlocal.names
      rw [(Reader.enter_eq_ok henter).2] at hnames
      simp [Groups.capture] at hnames

/-- A reference by name is never local, since there is no name to refer to. -/
theorem keeps_stepAgain {opened start : Nat} {s : List Sign}
    {y : Except Error (Reader × Nat)} : a.Keeps r (r.stepAgain opened start s) y := by
  refine .of_not_isLocal fun r' taken h hlocal => ?_
  obtain ⟨found, -, h⟩ := bind_eq_ok.1 h
  dsimp only at h
  split at h
  · cases h
  · split at h
    · cases h
    · rename_i hnumber
      obtain ⟨-, -, h⟩ := bind_eq_ok.1 h
      obtain ⟨-, -, h⟩ := bind_eq_ok.1 h
      cases h
      -- A name was found to refer to, so there is one.
      have hnames : r.groups.names = [] := hlocal.names
      rw [number?_eq_none hnames] at hnumber
      cases hnumber

/-- A choice is by a group that has a name, or that is referred to by its number. Without names,
    it is the second. -/
theorem isNumbered_of_chosen {r' : Reader} {start number : Nat} {name : String}
    (hnames : r.groups.names = []) (h : r.chosen start name = .ok (number, r')) :
    r'.isNumbered = true := by
  unfold Reader.chosen at h
  rw [number?_eq_none hnames] at h
  split at h
  · cases h
  · unfold Reader.askFor at h
    split at h
    · cases h
    · split at h
      · cases h
      · cases h
        rfl
    · cases h

theorem groups_of_chosen {r' : Reader} {start number : Nat} {name : String}
    (h : r.chosen start name = .ok (number, r')) : r'.groups = r.groups := by
  unfold Reader.chosen at h
  split at h
  · split at h
    · cases h
    · cases h
      rfl
  · unfold Reader.askFor at h
    split at h
    · cases h
    · split at h
      · cases h
      · cases h
        rfl
    · cases h

/-- A choice by a group is never local: by a name there would be a name, and by a number the
    reader remembers it. -/
theorem keeps_stepGiven {opened start : Nat} {s : List Sign}
    {y : Except Error (Reader × Nat)} : a.Keeps r (r.stepGiven opened start s) y := by
  refine .of_not_isLocal fun r' taken h hlocal => ?_
  obtain ⟨found, -, h⟩ := bind_eq_ok.1 h
  obtain ⟨⟨number, asked⟩, hchosen, h⟩ := bind_eq_ok.1 h
  obtain ⟨-, -, h⟩ := bind_eq_ok.1 h
  obtain ⟨entered, henter, h⟩ := bind_eq_ok.1 h
  cases h
  obtain ⟨-, rfl⟩ := Reader.enter_eq_ok henter
  have hnames : r.groups.names = [] := by
    rw [← groups_of_chosen hchosen]
    exact hlocal.names
  have htrue := isNumbered_of_chosen hnames hchosen
  exact Bool.noConfusion (htrue.symm.trans hlocal.isNumbered)

theorem ne_nil_of_addOn {on on' : List Switch} {switch : Switch} {stop : Nat}
    (h : addOn on switch stop = .ok on') : on' ≠ [] := by
  unfold addOn at h
  dsimp only at h
  split at h
  · cases h
  · split at h
    · cases h
    · cases h
      exact List.append_ne_nil_of_right_ne_nil _ (List.cons_ne_nil _ _)

theorem ne_nil_of_readOn {on : List Switch} (hon : on ≠ []) {s : List Sign} {stop : Nat}
    {found : List Switch × Sign × Nat} (h : readOn on stop s = .ok found) : found.1 ≠ [] := by
  induction s generalizing on stop found with
  | nil => cases h
  | cons c s ih =>
      rw [readOn] at h
      obtain ⟨-, -, h⟩ := bind_eq_ok.1 h
      dsimp only at h
      split at h
      · cases h
        exact hon
      · split at h
        · cases h
        · obtain ⟨on', hon', h⟩ := bind_eq_ok.1 h
          obtain ⟨found', hfound, h⟩ := bind_eq_ok.1 h
          cases h
          have hrest : found'.1 ≠ [] := ih (ne_nil_of_addOn hon') hfound
          exact hrest

/-- Options for the whole pattern turn something on. -/
theorem ne_nil_of_readOptions {c : Sign} {s : List Sign} {on : List Switch} {taken : Nat}
    (hc : c.is ')' = false) (h : readOptions c s = .ok (.whole on, taken)) : on ≠ [] := by
  obtain ⟨⟨on', last, more⟩, hfound, h⟩ := bind_eq_ok.1 h
  dsimp only at h
  split at h
  · rename_i hlast
    cases h
    unfold readFirstOn at hfound
    split at hfound
    · obtain ⟨on', hon', hfound⟩ := bind_eq_ok.1 hfound
      exact ne_nil_of_readOn (ne_nil_of_addOn hon') hfound
    · cases hfound
      rw [hc] at hlast
      cases hlast
  · split at h
    · cases h
    · obtain ⟨found', -, h⟩ := bind_eq_ok.1 h
      split at h
      · cases h
      · split at h <;> cases h

theorem keeps_stepOptions {opened : Nat} {c : Sign} {s : List Sign} (hs : checkNext s = .ok ())
    (hc : c.is ')' = false) :
    a.Keeps r (r.stepOptions opened c s)
      ((a.reader r).stepOptions (opened + a.before) (c.shift a.before) (a.put s)) := by
  refine .bind (carries_readOptions hs) fun found hfound => ?_
  obtain ⟨signs, taken⟩ := found
  -- Options for a part are left with it. Those for the whole pattern are not local.
  cases signs with
  | whole on =>
      refine .of_not_isLocal fun r' taken h hlocal => ?_
      dsimp only at h
      split at h
      · cases h
      · cases h
        exact ne_nil_of_readOptions hc hfound (List.append_eq_nil_iff.1 hlocal.whole).2
  | part on off =>
      have hmap (x : Except Error Reader) :
          (do return (← x, taken)) = x.map fun r => (r, taken) := by cases x <;> rfl
      dsimp only
      rw [hmap, hmap]
      exact keeps_enter opened taken .plain _ rfl

/-! ### Steps -/

theorem keeps_stepNext {s : List Sign} {stop stop' : Nat}
    {step step' : Sign → List Sign → Except Error (Reader × Nat)}
    (h : ∀ c s, checkNext s = .ok () →
      a.Keeps r (step c s) (step' (c.shift a.before) (a.put s))) :
    a.Keeps r (Reader.stepNext stop s step) (Reader.stepNext stop' (a.put s) step') := by
  cases s with
  | nil => exact .fail
  | cons c s => exact .bind carries_checkNext fun _ hnext => (h c s hnext).count (· + 1)

theorem keeps_stepExtension {opened : Nat} {d : Sign} {s : List Sign} (hs : checkNext s = .ok ()) :
    a.Keeps r (r.stepExtension opened d s)
      ((a.reader r).stepExtension (opened + a.before) (d.shift a.before) (a.put s)) := by
  unfold Reader.stepExtension
  simp only [Sign.is_shift, ofSign?_shift]
  refine .ite (fun _ => keeps_enter _ _ .plain _ rfl) fun _ =>
    .ite (fun _ => keeps_enter _ _ .atomic _ rfl) fun _ => .ite (fun _ => keeps_enter _ _ (.ahead true) _ rfl) fun _ =>
    .ite (fun _ => keeps_enter _ _ (.ahead false) _ rfl) fun _ => .ite (fun _ => ?behind) fun _ =>
    .ite (fun _ => ?named) fun _ => .ite (fun _ => ?comment) fun _ =>
    .ite (fun _ => keeps_stepGiven) fun _ => .ite (fun h => keeps_stepOptions hs ?letter)
    fun _ => .fail
  case behind =>
    exact keeps_stepNext fun e s _ => .ite (fun _ => keeps_enterBehind _ _ true) fun _ =>
      .ite (fun _ => keeps_enterBehind _ _ false) fun _ => .fail
  case named =>
    exact keeps_stepNext fun e s _ => .ite (fun _ => keeps_stepNamed) fun _ =>
      .ite (fun _ => keeps_stepAgain) fun _ => .fail
  case comment =>
    intro r' taken hx hlocal
    cases hread : readComment opened s with
    | error e =>
        rw [hread] at hx
        cases hx
    | ok count =>
        rw [hread] at hx
        cases hx
        rw [carries_readComment _ (opened + a.before) taken hread]
        exact ⟨hlocal, .refl, rfl⟩
  case letter =>
    -- Neither a dash nor a letter is a parenthesis.
    cases hd : d.is ')' with
    | false => rfl
    | true =>
        simp only [Sign.is, Bool.and_eq_true, Bool.not_eq_true', beq_iff_eq] at hd
        simp [Sign.is, Switch.ofSign?, hd.1, hd.2] at h

theorem keeps_stepOpening {c : Sign} {s : List Sign} :
    a.Keeps r (r.stepOpening c s) ((a.reader r).stepOpening (c.shift a.before) (a.put s)) := by
  unfold Reader.stepOpening
  rw [a.any_head_put (by decide)]
  refine .ite (fun _ => keeps_enterGroup _ 0) fun _ => keeps_stepNext fun _ s hs => ?_
  exact keeps_stepNext fun d s hs => keeps_stepExtension hs

/-- A piece is read where it stands as it is alone, or it is a comment that takes all signs. The
    second case is the one comment whose length depends on what comes after the pattern. -/
theorem keeps_stepPiece {c : Sign} {s : List Sign} :
    a.Keeps r (r.stepPiece c s) ((a.reader r).stepPiece (c.shift a.before) (a.put s)) ∨
      r.top.options.verbose = true ∧
        ∀ r' taken, r.stepPiece c s = .ok (r', taken) → r' = r ∧ taken = s.length := by
  by_cases hcomment : (r.top.options.verbose && c.is '#') = true ∧
      commentLength (a.put s) ≠ commentLength s
  · obtain ⟨hc, hlength⟩ := hcomment
    obtain ⟨hverbose, hsign⟩ := Bool.and_eq_true_iff.1 hc
    simp only [Sign.is, Bool.and_eq_true, Bool.not_eq_true', beq_iff_eq] at hsign
    have hescaped : ¬c.escaped = true := by simp [hsign.1]
    have hblank : ¬(r.top.options.verbose && CharKind.blank.contains .ascii c.char) = true := by
      rw [hsign.2, hverbose]
      decide
    refine .inr ⟨hverbose, fun r' taken h => ?_⟩
    -- The sign is neither escaped nor blank, so it is the comment that is read.
    obtain ⟨-, -, h⟩ := bind_eq_ok.1 h
    rw [if_neg hescaped, if_neg hblank, if_pos hc] at h
    obtain ⟨-, -, h⟩ := bind_eq_ok.1 h
    cases h
    exact ⟨rfl, (commentLength_put a.toAround s).resolve_right hlength⟩
  · refine .inl (.bind carries_checkNext fun _ hs => ?_)
    have hoptions : (a.reader r).top.options = r.top.options := rfl
    have hhere : a.Keeps r (.ok (r, 0)) (.ok (a.reader r, 0)) := .ok fun h => ⟨h, .refl, rfl⟩
    refine .ite (fun _ => keeps_stepEscape hs) fun _ => .ite (fun _ => hhere) fun _ =>
      .ite (fun hc => ?comment) fun _ => ?_
    case comment =>
      have hlength : commentLength (a.put s) = commentLength s :=
        Decidable.byContradiction fun h => hcomment ⟨hc, h⟩
      rw [hlength]
      exact .bind (carries_checkTaken (commentLength_le s)) fun _ _ => .ok fun h => ⟨h, .refl, rfl⟩
    -- From here on it only matters which character the sign is, and it is the same one in both
    -- places.
    rw [Sign.char_shift, hoptions]
    split
    · exact keeps_stepOpening
    · exact .bind (carries_readSet _ _ _) fun _ _ => keeps_push rfl
    · exact keeps_push rfl
    · exact keeps_push rfl
    · exact keeps_push rfl
    · exact keeps_repeatLast
    · exact keeps_repeatLast
    · exact keeps_repeatLast
    · refine .bind (carries_readBraces? hs _ _) fun found hfound => ?_
      have htaken := (takes_readBraces? hs _ found hfound).le
      cases found with
      | none => exact keeps_push rfl
      | some bounds =>
          obtain ⟨least, most, taken⟩ := bounds
          have hle : taken ≤ s.length := htaken
          dsimp only
          rw [a.drop_put hle]
          exact keeps_repeatLast.count (taken + ·)
    · exact keeps_push rfl

/-- A step comes to the same in the place, or it passes a comment that takes all signs. The second
    case is dealt with once, when all signs have been read. -/
theorem keeps_step {c : Sign} {s : List Sign} :
    a.Keeps r (r.step c s) ((a.reader r).step (c.shift a.before) (a.put s)) ∨
      r.top.options.verbose = true ∧
        ∀ r' taken, r.step c s = .ok (r', taken) → r' = r ∧ taken = s.length := by
  unfold Reader.step
  rw [Sign.is_shift, Sign.is_shift]
  split
  · exact .inl keeps_stepClosing
  · split
    · exact .inl keeps_stepBar
    · exact keeps_stepPiece

/-- What is local after a step was local before it. -/
theorem isLocal_of_step (a : Setting) {r' : Reader} {c : Sign} {s : List Sign} {taken : Nat}
    (h : r.step c s = .ok (r', taken)) (hlocal : r'.IsLocal) : r.IsLocal ∧ r'.Follows r := by
  rcases keeps_step (a := a) with hkeeps | ⟨-, hcomment⟩
  · obtain ⟨hr, hfollows, -⟩ := hkeeps r' taken h hlocal
    exact ⟨hr, hfollows⟩
  · obtain ⟨rfl, -⟩ := hcomment r' taken h
    exact ⟨hlocal, .refl⟩

/-- What is local at the end was local before. Nothing that a reader has met is ever forgotten. -/
theorem isLocal_of_readAll (a : Setting) {r' : Reader} {skip : Nat} {s : List Sign}
    (h : r.readAll skip s = .ok r') (hlocal : r'.IsLocal) : r.IsLocal ∧ r'.Follows r := by
  induction s generalizing r skip with
  | nil => cases skip <;> cases h <;> exact ⟨hlocal, .refl⟩
  | cons c s ih =>
      cases skip with
      | succ skip => exact ih h
      | zero =>
          obtain ⟨⟨r'', taken⟩, hstep, h⟩ := bind_eq_ok.1 h
          obtain ⟨hlocal', hfollows'⟩ := ih h
          obtain ⟨hr, hfollows⟩ := isLocal_of_step a hstep hlocal'
          exact ⟨hr, hfollows'.trans hfollows⟩

theorem readAll_length (r : Reader) (s : List Sign) : r.readAll s.length s = .ok r := by
  induction s with
  | nil => rfl
  | cons c s ih => exact ih

/-- A pattern that is local, and whose parts are closed, is read in the place as it is alone. At
    its end the reader in the place has all of it in the group that is still open, with the
    closing parenthesis of that to come. -/
theorem readAll_put {r' : Reader} {skip : Nat} {s : List Sign} (hskip : skip ≤ s.length)
    (h : r.readAll skip s = .ok r') (hlocal : r'.IsLocal) (houter : r'.outer = [])
    (hverbose : r.outermost.options.verbose = false) :
    (a.reader r).readAll skip (a.put s) = (a.reader r').readAll 0 (a.close :: a.after) := by
  induction s generalizing r skip with
  | nil =>
      cases Nat.le_zero.1 hskip
      cases h
      rfl
  | cons c s ih =>
      cases skip with
      | succ skip => exact ih (Nat.le_of_succ_le_succ hskip) h hverbose
      | zero =>
          obtain ⟨⟨r'', taken⟩, hstep, h⟩ := bind_eq_ok.1 h
          obtain ⟨hlocal'', -⟩ := isLocal_of_readAll a h hlocal
          -- What is local at the end was so after this step, so the step comes to the same.
          rcases keeps_step (a := a) with hkeeps | ⟨hcomment, htaken⟩
          · obtain ⟨-, hfollows, hstep'⟩ := hkeeps r'' taken hstep hlocal''
            rw [a.put_cons, Reader.readAll, hstep']
            exact ih (Reader.takes_step _ hstep).le h (hfollows.options ▸ hverbose)
          · -- Nothing comes after the comment, so it stands in the outermost part.
            obtain ⟨rfl, rfl⟩ := htaken r'' taken hstep
            dsimp only at h
            rw [readAll_length] at h
            cases h
            rw [Reader.outermost, houter] at hverbose
            exact absurd (hcomment.symm.trans hverbose) Bool.noConfusion

end Setting

end Stencil.Pattern
