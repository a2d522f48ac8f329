import Stencil.Proofs.Pattern.Amid
import Stencil.Proofs.Pattern.Elsewhere

/-!
# Readers in Their Places

What a reader holds while a pattern is read in the parentheses of a group, after other
groups.

It holds what it would hold if the pattern were read alone: the groups are the same behind
others, so their numbers are greater; the parts that are open are the same, and the
outermost of them is now a part itself, in a group. `Setting.reader` says this of any
reader. What readers do with their parts is done there as well: to add a piece, to
close a part, to replace the last piece.

A part that is closed may need to know how wide its groups are, and looks them up by their
numbers. With other groups before them these are other numbers of a longer list. One number
is looked up in vain by a pattern alone, the zero. There it becomes that of the group
around, so what is needed of this group is that it has no width yet.

How many groups there are can be told from the parts, whether they are open or closed. The
groups that were opened and those that are in the parts are as many at the end as they
were at the start.

## Main definitions

* `Piece.raise`, `Role.raise`: Parts of patterns with greater numbers for groups.
* `Frame.weight`, `Reader.tally`: How many groups a part is and holds, and all of them.
* `Setting`: Where a pattern stands.
* `Setting.reader`: A reader with what stands around.
* `Reader.floor`: What the outermost part is for, and its options.

## Theorems

* `width_raise`, `Groups.width_append`: Groups with other numbers are as wide.
* `Setting.reader_push`, `Setting.reader_leave`, `Setting.reader_replaceLast`: What readers do
  is done in the place as well.
* `weight_push`, `tally_leave`: What that does to the number of groups.
-/

namespace Stencil.Pattern

/-! ## Greater numbers of groups -/

section Raise

variable (n : Nat)

theorem raise_andThen (p q : Pattern) : (p.andThen q).raise n = (p.raise n).andThen (q.raise n) := by
  cases q <;> rfl

theorem raise_inOrder (ps : List Pattern) :
    (inOrder ps).raise n = inOrder (ps.map (raise n)) := by
  induction ps with
  | nil => rfl
  | cons p ps ih => exact (raise_andThen n p _).trans (congrArg (andThen _) ih)

theorem raise_foldr_either (ps : List Pattern) (p : Pattern) :
    (ps.foldr either p).raise n = (ps.map (raise n)).foldr either (p.raise n) := by
  induction ps with
  | nil => rfl
  | cons q ps ih => exact congrArg (either _) ih

/-- A pattern is as wide as it was if the groups are. Its width depends on groups only where it
    refers to them. -/
theorem width_raise {widths widths' : Nat → Width} (h : ∀ i, widths' (i + n) = widths i)
    (p : Pattern) : (p.raise n).width widths' = p.width widths := by
  induction p with
  | empty | run | anchor | look => rfl
  | seq p q ihp ihq | either p q ihp ihq | given number p q ihp ihq =>
      rw [raise, width, width, ihp, ihq]
  | repeated p least most greedy ih => rw [raise, width, width, ih]
  | group number p ih | atomic p ih => exact ih
  | again number caseless => exact h number

/-- A piece with greater numbers for its groups. -/
def Piece.raise : Piece → Piece
  | repetition p => repetition (p.raise n)
  | whole p => whole (p.raise n)
  | p@(set _) | p@(anchor _) => p

theorem Piece.pattern_raise (piece : Piece) :
    (piece.raise n).pattern = piece.pattern.raise n := by
  cases piece <;> rfl

theorem Piece.repeated_raise (piece : Piece) (least : Nat) (most : Option Nat) (greed : Greed) :
    (piece.raise n).repeated least most greed = (piece.repeated least most greed).raise n := by
  cases piece <;> cases greed <;> rfl

/-- What a part is for, with greater numbers for groups. -/
def Role.raise : Role → Role
  | group before => group (before + n)
  | behind wanted before => behind wanted (before + n)
  | given number => given (number + n)
  | role@(plain) | role@(atomic) | role@(ahead _) => role

end Raise

/-! ## How many groups there are -/

theorem groups_andThen (p q : Pattern) : (p.andThen q).groups = p.groups + q.groups := by
  cases q <;> rfl

theorem groups_inOrder_concat (ps : List Pattern) (p : Pattern) :
    (inOrder (ps ++ [p])).groups = (inOrder ps).groups + p.groups := by
  induction ps with
  | nil => exact (groups_andThen p .empty).trans (Nat.add_comm _ _)
  | cons q ps ih =>
      have hfirst : (inOrder (q :: ps ++ [p])).groups = q.groups + (inOrder (ps ++ [p])).groups :=
        groups_andThen q _
      have hfirst' : (inOrder (q :: ps)).groups = q.groups + (inOrder ps).groups :=
        groups_andThen q _
      rw [hfirst, hfirst', ih, Nat.add_assoc]

theorem groups_foldr_either (ps : List Pattern) (p : Pattern) :
    (ps.foldr either p).groups = (ps.foldr either .empty).groups + p.groups := by
  induction ps with
  | nil => exact (Nat.zero_add _).symm
  | cons q ps ih =>
      rw [List.foldr_cons, List.foldr_cons, groups, groups, ih, Nat.add_assoc]

theorem Piece.groups_repeated (piece : Piece) (least : Nat) (most : Option Nat) (greed : Greed) :
    (piece.repeated least most greed).groups = piece.pattern.groups := by
  cases piece <;> cases greed <;> rfl

/-- How many groups a part holds, with the one that it is itself. Parts that are closed later hold
    what was read in them so far. -/
def Frame.weight (f : Frame) : Nat :=
  match f.role with
  | .group _ => f.body.groups + 1
  | .given number => (f.choice number).groups
  | _ => f.body.groups

/-- How many groups all parts hold, those that are open together. What was closed is in one of
    them. -/
def Reader.tally (r : Reader) : Nat :=
  r.top.weight + r.outer.foldr (fun f n => f.weight + n) 0

section Weight

variable {f f' : Frame} {place : Nat} {piece : Piece}

/-- The pieces of an alternative are kept with the last one first. -/
theorem groups_present {p : Pattern} {ps : List Pattern} (hall : f.all = p :: ps) :
    f.present.groups = (inOrder ps.reverse).groups + p.groups := by
  rw [Frame.present, hall, List.reverse_cons, groups_inOrder_concat]

theorem groups_body (f : Frame) :
    f.body.groups = (f.branches.foldr either .empty).groups + f.present.groups :=
  groups_foldr_either _ _

/-- What is read in the present alternative counts for the part. What a part is for decides which
    pattern it becomes, and only a group counts for itself besides. -/
theorem weight_add (count : Nat) (hrole : f'.role = f.role) (hbranches : f'.branches = f.branches)
    (hpresent : f'.present.groups = f.present.groups + count) :
    f'.weight = f.weight + count := by
  have hbody : f'.body.groups = f.body.groups + count := by
    rw [groups_body, groups_body, hbranches, hpresent, Nat.add_assoc]
  have hchoice (number : Nat) : (f'.choice number).groups = (f.choice number).groups + count := by
    rw [Frame.choice, Frame.choice, hbranches]
    cases f.branches with
    | nil => exact hpresent
    | cons one branches =>
        rw [groups, groups, hpresent, Nat.add_assoc]
  -- A choice by a group counts its two alternatives, and the others count all of theirs.
  unfold Frame.weight
  rw [hrole]
  cases f.role with
  | group before => rw [hbody, Nat.add_right_comm]
  | given number => exact hchoice number
  | plain | atomic | ahead | behind => exact hbody

/-- A part holds the groups of its pieces. -/
theorem weight_push : (f.push place piece).weight = f.weight + piece.pattern.groups := by
  refine weight_add _ rfl rfl ?_
  have hall : (f.push place piece).all = piece.pattern :: f.all := rfl
  exact groups_present hall

/-- What is replaced by a pattern with as many groups leaves as many in the part. -/
theorem weight_repetition {start : Nat} {p : Pattern} (hlast : f.last = some (place, piece))
    (hp : p.groups = piece.pattern.groups) : (f.repetition start p).weight = f.weight := by
  refine weight_add 0 rfl rfl ?_
  have hall : f.all = piece.pattern :: f.read := by
    rw [Frame.all, hlast]
  have hall' : (f.repetition start p).all = p :: f.read := rfl
  rw [groups_present hall, groups_present hall', hp, Nat.add_zero]

/-- Another alternative has no groups yet. A choice has no third one, and the count of its groups
    would not be that of a longer list. -/
theorem weight_branch (h : ∀ number, f.role = .given number → f.branches = []) :
    f.branch.weight = f.weight := by
  have hbody : f.branch.body.groups = f.body.groups := by
    have hbranches : f.branch.branches = f.branches ++ [f.present] := rfl
    rw [groups_body, groups_body, hbranches, List.foldr_append, groups_foldr_either]
    rfl
  have hrole : f.branch.role = f.role := rfl
  unfold Frame.weight
  rw [hrole]
  cases hf : f.role with
  | group before => rw [hbody]
  | given number =>
      have hbranches : f.branch.branches = [] ++ [f.present] := congrArg (· ++ _) (h number hf)
      dsimp only
      rw [Frame.choice, Frame.choice, hbranches, h number hf]
      rfl
  | plain | atomic | ahead | behind => exact hbody

end Weight

/-- Where a pattern stands: in the parentheses of a group, with other groups before it. -/
structure Setting extends Around where
  /-- The groups, of which the last is the one that it stands in. -/
  groups : Groups
  is_open : groups.width? groups.count = none
  /-- The place of the parenthesis. -/
  opened : Nat
  /-- The part around the group. -/
  frame : Frame
  /-- How deep parts have been nested before. -/
  depth : Nat

namespace Setting

variable (a : Setting)

/-- A part of the pattern where it stands. The outermost part is that of the group, and it is the
    only one that is for something else there than alone. -/
def place (isOutermost : Bool) (f : Frame) : Frame where
  opened := if isOutermost then a.opened else f.opened + a.before
  role := if isOutermost then .group (a.groups.count - 1) else f.role.raise a.groups.count
  options := f.options
  branches := f.branches.map (raise a.groups.count)
  read := f.read.map (raise a.groups.count)
  last := f.last.map fun (place, piece) => (place + a.before, piece.raise a.groups.count)

/-- The parts around one that is open, where they stand. -/
def frames : List Frame → List Frame
  | [] => [a.frame]
  | f :: outer => a.place outer.isEmpty f :: frames outer

/-- A reader of the pattern, with what stands around. This is the relation between the two
    readers, given as a function, so that a step in the place can be computed from one alone. -/
def reader (r : Reader) : Reader where
  groups := a.groups.append r.groups
  isWhole := true
  depth := max a.depth (r.depth + 1)
  top := a.place r.outer.isEmpty r.top
  outer := a.frames r.outer

/-! ### Frames -/

section Frame

variable {a} {isOutermost : Bool} {f : Frame}

theorem all_place : (a.place isOutermost f).all = f.all.map (raise a.groups.count) := by
  rcases f with ⟨opened, role, options, branches, read, _ | ⟨place, piece⟩⟩
  · rfl
  · exact congrArg (· :: _) (piece.pattern_raise _)

theorem present_place : (a.place isOutermost f).present = f.present.raise a.groups.count := by
  rw [Frame.present, Frame.present, all_place, raise_inOrder, List.map_reverse]

theorem push_place (place : Nat) (piece : Piece) :
    (a.place isOutermost f).push (place + a.before) (piece.raise a.groups.count) =
      a.place isOutermost (f.push place piece) := by
  rw [Frame.push, all_place]
  rfl

theorem branch_place : (a.place isOutermost f).branch = a.place isOutermost f.branch := by
  rw [Frame.branch, present_place]
  simp only [place, Frame.branch, List.map_append, List.map_cons, List.map_nil, Option.map_none]

theorem body_place : (a.place isOutermost f).body = f.body.raise a.groups.count := by
  rw [Frame.body, present_place]
  exact (raise_foldr_either _ _ _).symm

theorem choice_place (number : Nat) : (a.place isOutermost f).choice (number + a.groups.count) =
    (f.choice number).raise a.groups.count := by
  have hpresent : (a.place isOutermost f).present = f.present.raise a.groups.count := present_place
  rcases f with ⟨opened, role, options, _ | ⟨one, branches⟩, read, last⟩
  · exact congrArg (given _ · empty) hpresent
  · exact congrArg (given _ _) hpresent

theorem carries_repeatable (start start' : Nat) :
    Carries
      ((f.repeatable start).map fun (start, piece) =>
        (start + a.before, piece.raise a.groups.count))
      ((a.place isOutermost f).repeatable start') := by
  rcases f with ⟨opened, role, options, branches, read, _ | ⟨place, piece⟩⟩
  · exact .fail
  · cases piece with
    | anchor | repetition => exact .fail
    | set | whole => exact .refl

end Frame

end Setting

/-! ### Groups -/

namespace Groups

variable (g other : Groups)

theorem count_append : (g.append other).count = other.count + g.count := by
  rw [count, append, List.length_append, Nat.add_comm]
  rfl

theorem capture_append :
    (g.append other).capture .none = g.append (other.capture .none) := by
  simp [capture, append]

theorem close_append (before : Nat) (width : Width) :
    (g.append other).close (before + g.count) width = g.append (other.close before width) := by
  have hwidths : (g.widths ++ other.widths).set (before + g.count) (some width) =
      g.widths ++ other.widths.set before (some width) := by
    rw [count, List.set_append_right _ _ (Nat.le_add_left _ _), Nat.add_sub_cancel]
  exact congrArg (Groups.mk · _) hwidths

/-- Groups after others are as wide as they were. Before the first of them there is none, but
    with others there is the last of these, which must not have a width yet. -/
theorem width_append (h : g.width? g.count = .none) (number : Nat) :
    (g.append other).width (number + g.count) = other.width number := by
  have hwidth : (g.append other).width? (number + g.count) = other.width? number := by
    cases number with
    | zero =>
        rw [Nat.zero_add]
        -- Alone there is no group zero. In the place this is the last group of those before.
        refine Eq.trans ?_ h
        rcases hcount : g.count with _ | i
        · rfl
        · have hlt : i < g.widths.length := by
            rw [← count, hcount]
            exact Nat.lt_succ_self i
          exact congrArg Option.join (List.getElem?_append_left hlt)
    | succ i =>
        rw [Nat.succ_add, width?, width?, append, count,
          List.getElem?_append_right (Nat.le_add_left _ _), Nat.add_sub_cancel]
  rw [width, width, hwidth]

end Groups

/-! ## What steps leave as it is -/

namespace Reader

variable {r r' r'' : Reader}

/-- The part around all others. -/
def outermost (r : Reader) : Frame :=
  r.outer.getLast?.getD r.top

/-- What steps leave as it is: what the outermost part is for, its options, and how many
    groups there are besides those that the parts hold. -/
structure Follows (r' r : Reader) : Prop where
  role : r'.outermost.role = r.outermost.role
  options : r'.outermost.options = r.outermost.options
  tally : r'.groups.count + r.tally = r.groups.count + r'.tally

theorem Follows.refl : r.Follows r :=
  ⟨rfl, rfl, rfl⟩

theorem Follows.trans (h : r''.Follows r') (h' : r'.Follows r) : r''.Follows r :=
  ⟨h.role.trans h'.role, h.options.trans h'.options, by have := h.tally; have := h'.tally; omega⟩

/-- Something is done with the innermost part that adds no groups. If that is the outermost part
    too, it must stay what it is for. -/
theorem follows_top {f : Frame} (hrole : f.role = r.top.role) (hoptions : f.options = r.top.options)
    (hweight : f.weight = r.top.weight) : Follows { r with top := f } r where
  role := by
    unfold outermost
    cases r.outer.getLast? with
    | none => exact hrole
    | some g => rfl
  options := by
    unfold outermost
    cases r.outer.getLast? with
    | none => exact hoptions
    | some g => rfl
  tally := by
    unfold tally
    dsimp only
    rw [hweight]

/-- The innermost part is closed, and is a piece with as many groups. If the part around it is the
    outermost one, that one has changed, but not what it is for. -/
theorem follows_into {next : Frame} {outer : List Frame} {p : Pattern}
    (houter : r.outer = next :: outer) (hp : p.groups = r.top.weight) :
    (r.into next outer p).Follows r where
  role := by
    rw [outermost, outermost, houter, List.getLast?_cons]
    unfold into
    cases outer.getLast? <;> rfl
  options := by
    rw [outermost, outermost, houter, List.getLast?_cons]
    unfold into
    cases outer.getLast? <;> rfl
  tally := by
    have hweight : (next.push r.top.opened (.whole p)).weight = next.weight + p.groups :=
      weight_push
    rw [tally, tally, houter, List.foldr_cons]
    simp only [into]
    omega

theorem late_note (r : Reader) (place : Nat) (fault : Fault) : (r.note place fault).late ≠ none := by
  rw [note]
  split
  · exact Option.some_ne_none _
  · rename_i h
    rintro hnone
    rw [hnone] at h
    exact h rfl

/-- Where no fault of a look behind is kept, there is none, so the reader is the same as before. -/
theorem noteWidth_eq {place : Nat} {width : Width} (h : (r.noteWidth place width).late = none)
    (r' : Reader) (place' : Nat) : r'.noteWidth place' width = r' := by
  unfold noteWidth at h ⊢
  split at h
  · exact absurd h (late_note _ _ _)
  · rename_i hfar
    split at h
    · exact absurd h (late_note _ _ _)
    · rename_i huneven
      rw [if_neg hfar, if_neg huneven]

/-- A part that is closed is a piece of the one around it, with as many groups. -/
theorem follows_leave {next : Frame} {outer : List Frame} (houter : r.outer = next :: outer)
    (hlate : (r.leave next outer).late = none) : (r.leave next outer).Follows r := by
  unfold leave at hlate ⊢
  dsimp only at hlate ⊢
  cases hr : r.top.role with
  | plain | given => exact follows_into houter (by rw [Frame.weight, hr])
  | atomic | ahead => exact follows_into houter (by rw [Frame.weight, hr]; rfl)
  | group before =>
      -- To close a group sets its width, and opens or forgets none.
      have hinto := follows_into (p := group (before + 1) r.top.body) houter
        (by rw [Frame.weight, hr]; rfl)
      exact ⟨hinto.role, hinto.options,
        (congrArg (· + r.tally) (Groups.count_close _ _ _)).trans hinto.tally⟩
  | behind wanted before =>
      rw [hr] at hlate
      dsimp only
      rw [noteWidth_eq hlate]
      exact follows_into houter (by rw [Frame.weight, hr]; rfl)

/-- What is opened is a part with nothing in it. -/
theorem enter_eq_ok {opened : Nat} {role : Role} {o : Options}
    (h : r.enter opened role o = .ok r') :
    ¬deepest < r.outer.length + 1 + (!r.isWhole).toNat ∧
      r' = { r with
        depth := max r.depth (r.outer.length + 1)
        top := .start opened role o
        outer := r.top :: r.outer } := by
  unfold enter at h
  dsimp only at h
  split at h
  · cases h
  · cases h
    exact ⟨‹_›, rfl⟩

theorem outermost_of_enter {opened : Nat} {role : Role} {o : Options}
    (h : r.enter opened role o = .ok r') : r'.outermost = r.outermost := by
  rw [(enter_eq_ok h).2, outermost, List.getLast?_cons]
  rfl

theorem tally_of_enter {opened : Nat} {role : Role} {o : Options}
    (h : r.enter opened role o = .ok r') :
    r'.tally = (Frame.start opened role o).weight + r.tally := by
  rw [(enter_eq_ok h).2, tally, List.foldr_cons]
  rfl

end Reader

/-! ## Readers -/

namespace Setting

variable {a : Setting} {r : Reader}

/-- What is read in a part is read in it where it stands. -/
theorem reader_push (place : Nat) (piece : Piece) :
    (a.reader r).push (place + a.before) (piece.raise a.groups.count) =
      a.reader (r.push place piece) :=
  congrArg (fun top => { a.reader r with top }) (push_place place piece)

theorem length_frames (outer : List Frame) : (a.frames outer).length = outer.length + 1 := by
  induction outer with
  | nil => rfl
  | cons f outer ih => exact congrArg (· + 1) ih

theorem length_outer_reader : (a.reader r).outer.length = r.outer.length + 1 :=
  length_frames _

theorem depth_reader : (a.reader r).depth = max a.depth (r.depth + 1) := rfl

theorem isWhole_reader : (a.reader r).isWhole = true := rfl

/-- A part that is closed is a piece where it stands as it is alone. -/
theorem reader_into {next : Frame} {outer : List Frame} (houter : r.outer = next :: outer)
    (p : Pattern) : (a.reader r).into (a.place outer.isEmpty next) (a.frames outer)
        (p.raise a.groups.count) = a.reader (r.into next outer p) := by
  have hopened : (a.reader r).top.opened = r.top.opened + a.before := by
    rw [reader, houter]
    rfl
  rw [Reader.into, hopened]
  exact congrArg (fun top => { a.reader r with top, outer := a.frames outer })
    (push_place r.top.opened (.whole p))

/-- A part is closed where it stands as it is alone. The piece that it becomes has the greater
    numbers already, and a group is set as wide as it is alone. -/
theorem reader_leave {next : Frame} {outer : List Frame} (houter : r.outer = next :: outer)
    (hlate : (r.leave next outer).late = none) :
    (a.reader r).leave (a.place outer.isEmpty next) (a.frames outer) =
      a.reader (r.leave next outer) := by
  have htop : (a.reader r).top = a.place false r.top := by
    rw [reader, houter]
    rfl
  have hrole : (a.reader r).top.role = r.top.role.raise a.groups.count := by
    rw [htop]
    rfl
  have hbody : (a.reader r).top.body = r.top.body.raise a.groups.count := by
    rw [htop, body_place]
  have hwidth : (a.reader r).top.body.width (a.reader r).groups.width =
      r.top.body.width r.groups.width := by
    rw [hbody]
    exact width_raise _ (Groups.width_append _ _ a.is_open) _
  -- Which piece it becomes depends on what it is for, and which width it has on the groups.
  unfold Reader.leave at hlate ⊢
  dsimp only at hlate ⊢
  rw [hrole, hwidth, hbody]
  cases hr : r.top.role with
  | plain => exact reader_into houter _
  | atomic => exact reader_into houter (atomic _)
  | ahead wanted => exact reader_into houter (look _ _ _)
  | group before =>
      have hnumber : before + a.groups.count + 1 = before + 1 + a.groups.count :=
        Nat.add_right_comm _ _ _
      have hgroups : (a.reader r).groups.close (before + a.groups.count)
          (r.top.body.width r.groups.width) =
          a.groups.append (r.groups.close before (r.top.body.width r.groups.width)) :=
        Groups.close_append _ _ _ _
      dsimp only [Role.raise]
      rw [hnumber, hgroups]
      let withGroups (r' : Reader) : Reader :=
        { r' with groups :=
            a.groups.append (r.groups.close before (r.top.body.width r.groups.width)) }
      exact congrArg withGroups (reader_into houter (group _ _))
  | behind wanted before =>
      rw [hr] at hlate
      -- A part that looks behind must have a width, and has the same one in the place.
      have hnote := Reader.noteWidth_eq hlate
      dsimp only [Role.raise]
      rw [hnote, hnote]
      exact reader_into houter (look _ _ _)
  | given number =>
      dsimp only [Role.raise]
      rw [htop, choice_place]
      exact reader_into houter _

/-- Where it stands, only what was a choice is one. The outermost part becomes a group, and the
    others stay what they are. -/
theorem exists_given_of_place {isOutermost : Bool} {f : Frame} {number : Nat}
    (h : (a.place isOutermost f).role = .given number) : ∃ number, f.role = .given number := by
  cases isOutermost with
  | true => cases h
  | false =>
      cases hrole : f.role with
      | given number => exact ⟨number, rfl⟩
      | plain | group | atomic | ahead | behind =>
          have hraise : f.role.raise a.groups.count = .given number := h
          rw [hrole] at hraise
          cases hraise

/-- The last piece is replaced where it stands as it is alone. -/
theorem reader_replaceLast {start : Nat} {greed : Greed} {p : Pattern}
    (hwhole : r.whole = []) :
    (a.reader r).replaceLast (start + a.before) greed (p.raise a.groups.count) =
      a.reader (r.replaceLast start greed p) := by
  unfold Reader.replaceLast
  rw [hwhole]
  rfl

end Setting

end Stencil.Pattern
