import Stencil.Proofs.Pattern.InPlace

/-!
# Patterns in Named Groups

What a reader makes of a pattern that stands in a group with a name, after other groups.

## Main definitions

* `between`: A reader after patterns that are closed.
* `namedText`: A pattern in a group with a name.

## Theorems

* `exists_readAll_named`: A group with a name is read, and holds the pattern that is read
  alone, with greater numbers for its groups.
-/

namespace Stencil.Pattern

/-- A reader in the outermost part of a pattern, which has seen no options, no numbers and no
    faults. -/
def between (groups : Groups) (depth : Nat) (top : Frame) : Reader where
  groups := groups
  isWhole := true
  depth := depth
  top := top

/-- A pattern in a group with a name, as it is written. -/
def namedText (name source : String) : List Char :=
  '(' :: '?' :: 'P' :: '<' :: (name.toList ++ '>' :: (source.toList ++ [')']))

/-- A group that has just been opened has no width. -/
theorem Groups.width?_capture (g : Groups) (name : Option String) :
    (g.capture name).width? (g.capture name).count = .none := by
  rw [count_capture, width?, capture, count, List.getElem?_append_right (Nat.le_refl _),
    Nat.sub_self]
  rfl

/-! ## Signs without backslashes -/

theorem signsFrom_cons {c : Char} (hc : c ≠ '\\') (place : Nat) (s : List Char) :
    signsFrom place (c :: s) = ⟨place, false, c⟩ :: signsFrom (place + 1) s := by
  rw [signsFrom]
  rintro _ _ rfl
  exact absurd rfl hc

theorem checkNext_signsFrom_cons {c : Char} (hc : c ≠ '\\') (place : Nat) (s : List Char) :
    checkNext (signsFrom place (c :: s)) = .ok () := by
  rw [signsFrom_cons hc, checkNext, Sign.isDangling, Sign.is, beq_eq_false_iff_ne.2 hc]
  rfl

/-- Each character of a text without backslashes is a sign. -/
theorem signsFrom_append_of_ne {s : List Char} (hs : ∀ c ∈ s, c ≠ '\\') (place : Nat)
    (t : List Char) :
    ∃ u, u.length = s.length ∧
      signsFrom place (s ++ t) = u ++ signsFrom (place + s.length) t := by
  induction s generalizing place with
  | nil => exact ⟨[], rfl, rfl⟩
  | cons c s ih =>
      rw [List.forall_mem_cons] at hs
      obtain ⟨u, hlength, hu⟩ := ih hs.2 (place + 1)
      refine ⟨⟨place, false, c⟩ :: u, congrArg (· + 1) hlength, ?_⟩
      rw [List.cons_append, signsFrom_cons hs.1, hu, Nat.add_assoc, Nat.add_comm 1]
      rfl

/-- A name is read up to the sign that ends it. It must not be empty at its start, and it has no
    backslash, since that would hide the sign after it. -/
theorem readUntil_signsFrom {stop : Char} (hstop : stop ≠ '\\') {empty : Fault} {start : Nat}
    {name rest : List Char} (hname : ∀ c ∈ name, c ≠ '\\' ∧ c ≠ stop) {place : Nat}
    (hrest : checkNext (signsFrom (place + name.length + 1) rest) = .ok ()) (isFirst : Bool)
    (hfirst : isFirst = true → name ≠ []) :
    readUntil stop empty start isFirst (signsFrom place (name ++ stop :: rest)) =
      .ok (name, name.length + 1) := by
  induction name generalizing place isFirst with
  | nil =>
      cases isFirst with
      | true => exact absurd rfl (hfirst rfl)
      | false =>
          have hend : (⟨place, false, stop⟩ : Sign).is stop = true := beq_self_eq_true stop
          rw [List.nil_append, signsFrom_cons hstop, readUntil, hend]
          exact bind_eq_ok.2 ⟨(), hrest, rfl⟩
  | cons c name ih =>
      rw [List.forall_mem_cons] at hname
      obtain ⟨⟨hc, hgo⟩, hname⟩ := hname
      have hgoes : (⟨place, false, c⟩ : Sign).is stop = false := beq_eq_false_iff_ne.2 hgo
      have hrest' : checkNext (signsFrom (place + 1 + name.length + 1) rest) = .ok () := by
        rwa [Nat.add_right_comm place, Nat.add_assoc place]
      have hnext : checkNext (signsFrom (place + 1) (name ++ stop :: rest)) = .ok () := by
        cases name with
        | nil => exact checkNext_signsFrom_cons hstop _ _
        | cons d name => exact checkNext_signsFrom_cons (hname d List.mem_cons_self).1 _ _
      -- The name goes on, and its first sign is not needed any more.
      rw [List.cons_append, signsFrom_cons hc, readUntil, hgoes]
      refine bind_eq_ok.2 ⟨(), hnext, ?_⟩
      exact bind_eq_ok.2 ⟨_, ih hname hrest' false Bool.noConfusion, rfl⟩

/-- An identifier has none of the signs that mean something in a pattern. -/
theorem ne_of_isIdentifier {name : String} (h : Text.isIdentifier name = true) :
    name.toList ≠ [] ∧ ∀ c ∈ name.toList, c ≠ '\\' ∧ c ≠ '>' := by
  have hpart : ∀ c : Char, Text.isIdentifierPart c = true → c ≠ '\\' ∧ c ≠ '>' := by
    intro c hc
    constructor
    · rintro rfl
      exact absurd hc (by decide +kernel)
    · rintro rfl
      exact absurd hc (by decide +kernel)
  unfold Text.isIdentifier at h
  split at h
  · cases h
  · rename_i c rest heq
    rw [Bool.and_eq_true, List.all_eq_true] at h
    rw [heq]
    refine ⟨List.cons_ne_nil _ _, fun d hd => hpart d ?_⟩
    rcases List.mem_cons.1 hd with rfl | hd
    · exact Text.isIdentifierPart_of_start h.1
    · exact h.2 d hd

namespace Reader

theorem readAll_append (r : Reader) (s t : List Sign) :
    r.readAll s.length (s ++ t) = r.readAll 0 t := by
  induction s with
  | nil => rfl
  | cons c s ih => exact ih

end Reader

/-- The parenthesis of a group with a name opens it. The step takes the signs up to the end of the
    name, and what comes of it is the reader as it was, with one part more that is open and has
    nothing in it. -/
theorem step_named {groups : Groups} {depth : Nat} {top : Frame} {name : String}
    (hname : Text.isIdentifier name = true) (hfree : groups.number? name = none)
    (hoptions : top.options = {}) {place : Nat} {rest : List Char}
    (hrest : checkNext (signsFrom (place + name.toList.length + 5) rest) = .ok ()) :
    (between groups depth top).step ⟨place, false, '('⟩
      (signsFrom (place + 1) ('?' :: 'P' :: '<' :: (name.toList ++ '>' :: rest))) =
    .ok ({ between (groups.capture (some name)) (max depth 1)
            (.start place (.group groups.count) {}) with outer := [top] },
      name.toList.length + 4) := by
  obtain ⟨hne, hsigns⟩ := ne_of_isIdentifier hname
  obtain ⟨opened, role, options, branches, read, last⟩ := top
  cases hoptions
  let r := between groups depth ⟨opened, role, {}, branches, read, last⟩
  let s := signsFrom (place + 4) (name.toList ++ '>' :: rest)
  -- The name is read, then it is found to be new, and then the group is entered.
  have hread : Reader.readName '>' (place + 4) s =
      .ok (name, place + 4 + name.toList.length + 1, name.toList.length + 1) := by
    have hrest' : checkNext (signsFrom (place + 4 + name.toList.length + 1) rest) = .ok () := by
      rwa [Nat.add_right_comm place, Nat.add_assoc (place + _)]
    have huntil : readUntil '>' .noGroupName (place + 4) true s =
        .ok (name.toList, name.toList.length + 1) :=
      readUntil_signsFrom (by decide) hsigns hrest' true fun _ => hne
    refine bind_eq_ok.2 ⟨_, huntil, ?_⟩
    dsimp only
    rw [String.ofList_toList]
    rfl
  have henter : r.stepNamed place (place + 4) s =
      .ok ({ between (groups.capture (some name)) (max depth 1)
        (.start place (.group groups.count) {}) with
        outer := [⟨opened, role, {}, branches, read, last⟩] }, name.toList.length + 1) := by
    refine bind_eq_ok.2 ⟨_, hread, ?_⟩
    have hnumber : r.groups.number? name = none := hfree
    dsimp only
    rw [hname, hnumber]
    rfl
  have hnext : checkNext s = .ok () := by
    obtain ⟨c, cs, hcs⟩ := List.exists_cons_of_ne_nil hne
    show checkNext (signsFrom (place + 4) (name.toList ++ '>' :: rest)) = .ok ()
    rw [hcs] at hsigns ⊢
    exact checkNext_signsFrom_cons (hsigns c List.mem_cons_self).1 _ _
  rw [signsFrom_cons (by decide), signsFrom_cons (by decide), signsFrom_cons (by decide)]
  -- The signs before the name say which kind of part it is, one sign after the other.
  have hstep : r.step ⟨place, false, '('⟩ (⟨place + 1, false, '?'⟩ :: ⟨place + 2, false, 'P'⟩ ::
      ⟨place + 3, false, '<'⟩ :: s) =
      (((checkNext s >>= fun _ => r.stepNamed place (place + 4) s >>= fun found =>
        .ok (found.1, found.2 + 1)) >>= fun found => .ok (found.1, found.2 + 1)) >>= fun found =>
        .ok (found.1, found.2 + 1)) := rfl
  rw [hnext, henter] at hstep
  exact hstep

/-- After that, what is in the group is read. -/
theorem readAll_named {groups : Groups} {depth : Nat} {top : Frame} {name : String}
    (hname : Text.isIdentifier name = true) (hfree : groups.number? name = none)
    (hoptions : top.options = {}) {place : Nat} {rest : List Char}
    (hrest : checkNext (signsFrom (place + name.toList.length + 5) rest) = .ok ()) :
    (between groups depth top).readAll 0
        (signsFrom place ('(' :: '?' :: 'P' :: '<' :: (name.toList ++ '>' :: rest))) =
      Reader.readAll 0 { between (groups.capture (some name)) (max depth 1)
          (.start place (.group groups.count) {}) with outer := [top] }
        (signsFrom (place + name.toList.length + 5) rest) := by
  have hne : ∀ c ∈ '?' :: 'P' :: '<' :: (name.toList ++ ['>']), c ≠ '\\' := by
    simp only [List.mem_cons, List.mem_append, List.not_mem_nil, or_false]
    rintro c (rfl | rfl | rfl | hc | rfl)
    · decide
    · decide
    · decide
    · exact ((ne_of_isIdentifier hname).2 c hc).1
    · decide
  obtain ⟨u, hlength, hu⟩ := signsFrom_append_of_ne hne (place + 1) rest
  have htext : '?' :: 'P' :: '<' :: (name.toList ++ ['>']) ++ rest =
      '?' :: 'P' :: '<' :: (name.toList ++ '>' :: rest) := by simp
  have hcount : ('?' :: 'P' :: '<' :: (name.toList ++ ['>'])).length = name.toList.length + 4 := by
    simp
  have hplace : place + 1 + (name.toList.length + 4) = place + name.toList.length + 5 := by omega
  rw [htext, hcount, hplace] at hu
  -- The step takes all of this, so reading goes on after it.
  rw [signsFrom_cons (by decide), Reader.readAll, step_named hname hfree hoptions hrest, ok_bind,
    hu]
  dsimp only
  rw [← hcount, ← hlength, Reader.readAll_append]

/-! ## A pattern in its group -/

theorem signsFrom_add (place k : Nat) (s : List Char) :
    signsFrom (place + k) s = (signsFrom place s).map (.shift k) := by
  fun_induction signsFrom place s with
  | case1 place c s ih =>
      rw [signsFrom, Nat.add_right_comm, ih]
      rfl
  | case2 place c s hc ih =>
      rw [signsFrom, Nat.add_right_comm, ih]
      · rfl
      · exact hc
  | case3 => rfl

/-- What was read alone is local and closed, and the groups are those of the pattern. So much can
    be told from how reading a pattern ends. -/
theorem exists_reader_of_read {source : String} {reading : Reading}
    (hread : read .none true source = .ok reading) (hlocal : reading.isLocal = true) :
    Taken 0 (signs source) ∧ ∃ r,
      Reader.readAll 0 { groups := .none, isWhole := true } (signs source) = .ok r ∧
      r.IsLocal ∧ r.outer = [] ∧ reading.pattern = r.top.body ∧ reading.groups = r.groups := by
  obtain ⟨_, hnext, h⟩ := bind_eq_ok.1 hread
  obtain ⟨r, hr, h⟩ := bind_eq_ok.1 h
  obtain ⟨houter, hlate, rfl⟩ := Reader.finish_eq_ok h
  simp only [Bool.and_eq_true, List.isEmpty_iff, Bool.not_eq_true', decide_eq_true_eq] at hlocal
  obtain ⟨⟨⟨hwhole, hnames⟩, hnumbered⟩, hdepth⟩ := hlocal
  exact ⟨taken_zero_iff.2 hnext, r, hr, ⟨hwhole, hnames, hnumbered, hlate, hdepth⟩, houter, rfl, rfl⟩

section Setting

variable (groups : Groups) (depth : Nat) (top : Frame) (name source : String) (place : Nat)
  (rest : List Char)

/-- Where a pattern stands that is in a group with a name, after other groups. It follows the
    name, and the parenthesis that closes the group follows it. -/
def Setting.named : Setting where
  before := place + name.toList.length + 5
  close := ⟨place + name.toList.length + 5 + source.toList.length, false, ')'⟩
  after := signsFrom (place + (namedText name source).length) rest
  is_close := rfl
  groups := groups.capture (some name)
  is_open := Groups.width?_capture _ _
  opened := place
  frame := top
  depth := depth

variable {groups depth top name source place rest}

theorem namedText_append : namedText name source ++ rest =
    '(' :: '?' :: 'P' :: '<' :: (name.toList ++ '>' :: (source.toList ++ ')' :: rest)) := by
  simp [namedText]

/-- The signs of the pattern stand amid those of its group. -/
theorem signsFrom_source (h : Taken (signs source).length (signs source)) :
    signsFrom (place + name.toList.length + 5) (source.toList ++ ')' :: rest) =
      (Setting.named groups depth top name source place rest).put (signs source) := by
  let k := place + name.toList.length + 5
  have hclose : signsFrom (0 + source.toList.length + k) (')' :: rest) =
      ⟨k + source.toList.length, false, ')'⟩ ::
        signsFrom (place + (namedText name source).length) rest := by
    have hplace : 0 + source.toList.length + k = k + source.toList.length := by omega
    have hlength : k + source.toList.length + 1 = place + (namedText name source).length := by
      simp only [namedText, List.length_cons, List.length_append, List.length_nil, k]
      omega
    rw [hplace, signsFrom_cons (by decide), hlength]
  calc signsFrom k (source.toList ++ ')' :: rest)
      = (signsFrom 0 (source.toList ++ ')' :: rest)).map (.shift k) := by
        rw [← signsFrom_add, Nat.zero_add]
    _ = (signs source).map (.shift k) ++ signsFrom (0 + source.toList.length + k) (')' :: rest) := by
        rw [signs, signsFrom_append h, List.map_append, signsFrom_add _ k (')' :: rest)]
    _ = (Setting.named groups depth top name source place rest).put (signs source) := by
        rw [hclose]
        rfl

/-- The reader that has opened the group is that of a pattern of which nothing was read. -/
theorem reader_named :
    (Setting.named groups depth top name source place rest).reader
        { groups := .none, isWhole := true } =
      { between (groups.capture (some name)) (max depth 1)
        (.start place (.group groups.count) {}) with outer := [top] } := by
  have hgroups : (groups.capture (some name)).append .none = groups.capture (some name) := by
    simp [Groups.append, Groups.none]
  have hcount : (groups.capture (some name)).count - 1 = groups.count :=
    Nat.sub_eq_of_eq_add (Groups.count_capture _ _)
  rw [Setting.reader, Setting.place, Setting.named, hgroups, hcount]
  rfl

/-- When the pattern is read, the parenthesis after it closes the group. The group becomes a piece
    of the part around it, its width is noted, and nothing is open any more. -/
theorem readAll_close {r : Reader} (houter : r.outer = [])
    (hrest : checkNext (signsFrom (place + (namedText name source).length) rest) = .ok ()) :
    let a := Setting.named groups depth top name source place rest
    let body := r.top.body.raise (groups.count + 1)
    (a.reader r).readAll 0 (a.close :: a.after) =
      (between (((groups.capture (some name)).append r.groups).close groups.count
          (body.width (a.reader r).groups.width)) (max depth (r.depth + 1))
        (top.push place (.whole (group (groups.count + 1) body)))).readAll 0 a.after := by
  intro a body
  have hcount : a.groups.count = groups.count + 1 := Groups.count_capture _ _
  have htop : (a.reader r).top = a.place true r.top := by
    rw [Setting.reader, houter]
    rfl
  have hframes : (a.reader r).outer = [top] := by
    rw [Setting.reader, houter]
    rfl
  have hrole : (a.reader r).top.role = .group groups.count := by
    rw [htop, Setting.place, hcount]
    rfl
  have hbody : (a.reader r).top.body = body := by
    rw [htop, Setting.body_place, hcount]
  have hopened : (a.reader r).top.opened = place := by
    rw [htop]
    rfl
  -- The part that is closed is the outermost one of the pattern, which is a group here.
  have hclosing : (a.reader r).stepClosing a.close a.after =
      .ok ((a.reader r).leave top [], 0) := by
    rw [Reader.stepClosing, hframes]
    exact bind_eq_ok.2 ⟨(), hrest, rfl⟩
  have hstep : (a.reader r).step a.close a.after = .ok ((a.reader r).leave top [], 0) := hclosing
  rw [Reader.readAll, hstep, ok_bind, Reader.leave, hrole]
  dsimp only [Reader.into]
  rw [hbody, hopened]
  rfl

end Setting

/-- A group with a name is read after others. It holds the pattern that is read alone, with
    greater numbers for its groups. So much is opened, read and closed here, and what comes after
    is read by a reader that differs in its groups and in one more piece. -/
theorem exists_readAll_named {groups : Groups} {name source : String} {reading : Reading}
    (hname : Text.isIdentifier name = true) (hfree : groups.number? name = none)
    (hread : read .none true source = .ok reading) (hlocal : reading.isLocal = true)
    (depth : Nat) (top : Frame) (hoptions : top.options = {}) (place : Nat) (rest : List Char)
    (hrest : checkNext (signsFrom (place + (namedText name source).length) rest) = .ok ()) :
    ∃ depth' width, (between groups depth top).readAll 0
        (signsFrom place (namedText name source ++ rest)) =
      (between (((groups.capture (some name)).append reading.groups).close groups.count width)
        depth' (top.push place (.whole (group (groups.count + 1)
          (reading.pattern.raise (groups.count + 1)))))).readAll 0
        (signsFrom (place + (namedText name source).length) rest) := by
  obtain ⟨hstart, r, hr, hrlocal, houter, hpattern, hgroups⟩ := exists_reader_of_read hread hlocal
  have hput : signsFrom (place + name.toList.length + 5) (source.toList ++ ')' :: rest) =
      (Setting.named groups depth top name source place rest).put (signs source) :=
    signsFrom_source (Reader.taken_of_readAll hstart hr)
  have hstart' : checkNext (signsFrom (place + name.toList.length + 5)
      (source.toList ++ ')' :: rest)) = .ok () := by
    rw [hput]
    exact carries_checkNext () hstart.checked
  -- The opening is read, then the pattern in its place, then the closing parenthesis.
  refine ⟨max depth (r.depth + 1), (r.top.body.raise (groups.count + 1)).width
    ((Setting.named groups depth top name source place rest).reader r).groups.width, ?_⟩
  rw [namedText_append, readAll_named hname hfree hoptions hstart', hput, ← reader_named,
    Setting.readAll_put (Nat.zero_le _) hr hrlocal houter rfl, readAll_close houter hrest,
    hpattern, hgroups]
  rfl

/-- A pattern has as many groups as were read. It seems plain, but the reader counts groups when
    they are opened, and the pattern is put together when they are closed. -/
theorem count_of_read {source : String} {reading : Reading}
    (hread : read .none true source = .ok reading) (hlocal : reading.isLocal = true) :
    reading.groups.count = reading.pattern.groups := by
  obtain ⟨-, r, hr, hrlocal, houter, hpattern, hgroups⟩ := exists_reader_of_read hread hlocal
  -- That steps keep count holds wherever the pattern stands, so any place will do.
  let a : Setting := .named .none 0 (.start 0 .plain {}) "" source 0 []
  obtain ⟨-, hfollows⟩ := Setting.isLocal_of_readAll a hr hrlocal
  have hrole : r.top.role = .plain := by
    have hrole := hfollows.role
    rw [Reader.outermost, houter] at hrole
    exact hrole
  have hweight : r.top.weight = r.top.body.groups := by
    rw [Frame.weight, hrole]
  have htally := hfollows.tally
  rw [Reader.tally, Reader.tally, houter, hweight] at htally
  rw [hgroups, hpattern]
  exact htally.trans (Nat.zero_add _)

end Stencil.Pattern
