import Mathlib.Data.List.Basic
import Mathlib.Logic.Relation
import Stencil.Files.Follow
import Stencil.Proofs.Files.Names

/-!
# Where Paths Lead

Where a path leads, as a relation, and that following finds it.

`Leads` says where names lead, one rule for each kind of name: two full stops
lead up from where one is, so after a link they lead up from where the link led;
a link leads where its target leads from the directory of the link; any other
name leads down, whether there is something or not. A number bounds how many
links may be inside each other, as it does for whoever follows them.

Following differs from this in one thing: it knows the links that it is inside
of, and stops when it comes to one of them again. In a tree without loops that
never happens. `Needs` is the reason: a link needs another one if the path to
its target comes to that. Each link that is followed inside another is one that
the other needs, at once or by way of those between them, and no link needs itself
that way. This is the invariant of `ends_follow`, and `follow_eq_ok_iff` has to
say nothing about circles.

Where a path leads, nothing is left of it to follow: none of the places on the
way down to it is a link.

## Main definitions

* `Tree.Leads`: Where names lead from a place.
* `Tree.Resolves`: Where a path leads, with a limit for links inside each other.
* `Tree.Meets`, `Tree.Needs`: Which links are on the way of names, and of a link.
* `Tree.LoopFree`: No link needs itself.
* `Tree.Settled`: A place that is reached without links and full stops.
* `Tree.Ends`: How following from a place should end.

## Theorems

* `Tree.Leads.unique`: Names lead to one place only.
* `Tree.Leads.settled`: Where names lead is settled.
* `Tree.loopFree_of_rank`: There are no loops if links can be ranked.
* `Tree.ends_follow`: Following ends as it should.
* `Tree.follow_eq_ok_iff`: Following goes where names lead.
* `Tree.follow_ne_circle`: Following does not go in circles.
-/

namespace Stencil.Files

namespace Tree

variable {t : Tree}

/-- Where names lead from a place, if no more links than the given number may be
    inside each other. -/
inductive Leads (t : Tree) : Nat → Place → List String → Place → Prop
  /-- No names lead nowhere else. -/
  | nil {depth : Nat} {here : Place} : Leads t depth here [] here
  /-- Two full stops lead up. -/
  | up {depth : Nat} {here place : Place} {names : List String}
      (h : Leads t depth here.dropLast names place) : Leads t depth here (".." :: names) place
  /-- A name that is no link leads down. -/
  | down {depth : Nat} {here place : Place} {name : String} {names : List String}
      (hname : name ≠ "..") (hlink : t.link? (here ++ [name]) = none)
      (h : Leads t depth (here ++ [name]) names place) : Leads t depth here (name :: names) place
  /-- A link leads where its target leads from the directory of the link, and the
      names after it lead on from there. -/
  | link {depth : Nat} {here middle place : Place} {name target : String} {names : List String}
      (hname : name ≠ "..") (hlink : t.link? (here ++ [name]) = some target)
      (htarget : Leads t depth (here.start (.ofText target)) (PurePath.ofText target).names middle)
      (h : Leads t (depth + 1) middle names place) : Leads t (depth + 1) here (name :: names) place

/-- Where a path leads from a place, with no more links inside each other than the given
    number. -/
def Resolves (t : Tree) (limit : Nat) (here : Place) (path : String) (place : Place) : Prop :=
  t.Leads limit (here.start (.ofText path)) (PurePath.ofText path).names place

/-- Names lead to one place only. A step is up, down or along a link, and which of them it is
    depends on the name and the tree alone. -/
theorem Leads.unique {depth : Nat} {here place place' : Place} {names : List String}
    (h : t.Leads depth here names place) (h' : t.Leads depth here names place') :
    place = place' := by
  induction h generalizing place' with
  | nil =>
      cases h'
      rfl
  -- In each case only the same rule can have been used the other time.
  | up h ih =>
      cases h' with
      | up h' => exact ih h'
      | down hname hlink h' => exact absurd rfl hname
      | link hname hlink htarget h' => exact absurd rfl hname
  | down hname hlink h ih =>
      cases h' with
      | up h' => exact absurd rfl hname
      | down hname' hlink' h' => exact ih h'
      | link hname' hlink' htarget' h' =>
          rw [hlink] at hlink'
          cases hlink'
  | link hname hlink htarget h ihtarget ih =>
      cases h' with
      | up h' => exact absurd rfl hname
      | down hname' hlink' h' =>
          rw [hlink] at hlink'
          cases hlink'
      | link hname' hlink' htarget' h' =>
          rw [hlink, Option.some.injEq] at hlink'
          subst hlink'
          -- The target leads to one place, so the names after the link start at the same one.
          rw [← ihtarget htarget'] at h'
          exact ih h'

/-- A link stands among what the tree holds. -/
theorem mem_nodes_of_link? {place : Place} {target : String} (h : t.link? place = some target) :
    (place, Node.link target) ∈ t.nodes := by
  unfold link? node? at h
  split at h
  · rename_i found hlookup
    obtain rfl := Option.some.inj h
    rcases List.lookup_eq_some_iff.1 hlookup with ⟨before, after, heq, -⟩
    rw [heq]
    simp
  · cases h

/-! ## Settled places -/

/-- A place that is reached without links and full stops: no place on the way down
    to it is a link. -/
def Settled (t : Tree) (place : Place) : Prop :=
  ∀ before name after, place = before ++ name :: after →
    name ≠ "." ∧ name ≠ ".." ∧ t.link? (before ++ [name]) = none

theorem settled_nil : t.Settled [] := by
  intro before name after h
  exact absurd h.symm (by simp)

/-- A place above one that is settled is settled. -/
theorem Settled.of_append {place below : Place} (h : t.Settled (place ++ below)) :
    t.Settled place := by
  intro before name after heq
  exact h before name (after ++ below) (by rw [heq, List.append_assoc, List.cons_append])

theorem Settled.dropLast {place : Place} (h : t.Settled place) : t.Settled place.dropLast := by
  rcases List.eq_nil_or_concat' place with rfl | ⟨above, name, rfl⟩
  · exact h
  · rw [List.dropLast_concat]
    exact h.of_append

theorem Settled.start {place : Place} (h : t.Settled place) (path : PurePath) :
    t.Settled (place.start path) := by
  unfold Place.start
  split
  · exact settled_nil
  · exact h

/-- A step down that does not lead to a link leads to a place that is settled. What is on the way
    to it was on the way before, or is the new place itself. -/
theorem Settled.concat {place : Place} {name : String} (h : t.Settled place) (hdot : name ≠ ".")
    (hname : name ≠ "..") (hlink : t.link? (place ++ [name]) = none) :
    t.Settled (place ++ [name]) := by
  intro before other after heq
  rcases List.eq_nil_or_concat' after with rfl | ⟨above, last, rfl⟩
  · have hparts := List.append_inj' heq rfl
    rw [← hparts.1, ← (List.cons.inj hparts.2).1]
    exact ⟨hdot, hname, hlink⟩
  · rw [← List.cons_append, ← List.append_assoc] at heq
    have hparts := List.append_inj' heq rfl
    exact h before other above hparts.1

/-- Where names lead is settled, since a link is never stayed at. The names have to be those of a
    path, which has no full stop among them. -/
theorem Leads.settled {depth : Nat} {here place : Place} {names : List String}
    (h : t.Leads depth here names place) (hnames : ∀ name ∈ names, IsStep name)
    (hhere : t.Settled here) : t.Settled place := by
  induction h with
  | nil => exact hhere
  | up h ih =>
      exact ih (fun name hname => hnames name (List.mem_cons_of_mem _ hname)) hhere.dropLast
  | down hname hlink h ih =>
      refine ih (fun other hother => hnames other (List.mem_cons_of_mem _ hother)) ?_
      exact hhere.concat (hnames _ List.mem_cons_self).ne_dot hname hlink
  | link hname hlink htarget h ihtarget ih =>
      refine ih (fun other hother => hnames other (List.mem_cons_of_mem _ hother)) ?_
      -- The target starts at the directory of the link or at the top.
      exact ihtarget (fun other hother => (of_mem_nameList hother).1) (hhere.start _)

theorem Resolves.settled {limit : Nat} {here place : Place} {path : String}
    (h : t.Resolves limit here path place) (hhere : t.Settled here) : t.Settled place :=
  Leads.settled h (fun _ hname => (of_mem_nameList hname).1) (hhere.start _)

/-! ## Loops -/

/-- What can be reached with some links can be reached with more. The depth bounds how deeply
    links nest, and a larger one forbids less. -/
theorem Leads.mono {depth depth' : Nat} {here place : Place} {names : List String}
    (h : t.Leads depth here names place) (hle : depth ≤ depth') :
    t.Leads depth' here names place := by
  induction h generalizing depth' with
  | nil => exact .nil
  | up h ih => exact .up (ih hle)
  | down hname hlink h ih => exact .down hname hlink (ih hle)
  | link hname hlink htarget h ihtarget ih =>
      rcases Nat.exists_eq_succ_of_ne_zero (by omega : depth' ≠ 0) with ⟨depth', rfl⟩
      exact .link hname hlink (ihtarget (by omega)) (ih hle)

/-- A link is on the way of names: the names before it lead to the place that it stands in. Names
    that go up are not steps to a link. -/
def Meets (t : Tree) (link here : Place) (names : List String) : Prop :=
  ∃ depth middle before name after, names = before ++ name :: after ∧
    t.Leads depth here before middle ∧ name ≠ ".." ∧ middle ++ [name] = link ∧
    (t.link? link).isSome = true

/-- A link needs another one that is on the way to its target. To follow the one, the other has to
    be followed first. -/
def Needs (t : Tree) (link other : Place) : Prop :=
  ∃ target, t.link? link = some target ∧
    t.Meets other (Place.start link.dropLast (.ofText target)) (PurePath.ofText target).names

/-- No link needs itself, neither at once nor by way of others. It is said of all links, though
    only those on the way matter to a path. -/
def LoopFree (t : Tree) : Prop :=
  ∀ link, ¬ Relation.TransGen t.Needs link link

section Meets

variable {met here middle : Place} {name target : String} {names : List String}

theorem meets_here (hname : name ≠ "..") (hlink : t.link? (here ++ [name]) = some target) :
    t.Meets (here ++ [name]) here (name :: names) :=
  ⟨0, here, [], name, names, rfl, .nil, hname, rfl, by rw [hlink, Option.isSome_some]⟩

theorem Meets.link {depth : Nat} (hname : name ≠ "..")
    (hlink : t.link? (here ++ [name]) = some target)
    (htarget : t.Leads depth (here.start (.ofText target)) (PurePath.ofText target).names middle)
    (h : t.Meets met middle names) : t.Meets met here (name :: names) := by
  rcases h with ⟨depth', last, before, other, after, rfl, hbefore, hrest⟩
  have hwhole : t.Leads (max depth depth' + 1) here (name :: before) last :=
    .link hname hlink (htarget.mono (by omega)) (hbefore.mono (by omega))
  exact ⟨_, last, name :: before, other, after, rfl, hwhole, hrest⟩

end Meets

/-- What is on the way to the target of a link is needed by it. -/
theorem needs_of_meets {here met : Place} {name target : String}
    (hlink : t.link? (here ++ [name]) = some target)
    (h : t.Meets met (here.start (.ofText target)) (PurePath.ofText target).names) :
    t.Needs (here ++ [name]) met :=
  ⟨target, hlink, by rwa [List.dropLast_concat]⟩

/-- Names of which there is only one meet nothing else. With this, what links need can be read off
    from their targets where these are single names. -/
theorem eq_of_meets_singleton {here met : Place} {name : String} (h : t.Meets met here [name]) :
    name ≠ ".." ∧ met = here ++ [name] ∧ (t.link? met).isSome = true := by
  rcases h with ⟨depth, middle, before, other, after, heq, hbefore, hname, hmet, hlink⟩
  -- Nothing can stand before the one name.
  cases before with
  | nil =>
      cases hbefore
      rw [List.nil_append, List.cons.injEq] at heq
      rw [← heq.1] at hname hmet
      exact ⟨hname, hmet.symm, hlink⟩
  | cons first before =>
      rw [List.cons_append, List.cons.injEq] at heq
      exact absurd heq.2.symm (by simp)

/-- There are no loops if every link ranks above those that it needs. -/
theorem loopFree_of_rank (rank : Place → Nat)
    (h : ∀ link other, t.Needs link other → rank other < rank link) : t.LoopFree := by
  have hrank : ∀ link other, Relation.TransGen t.Needs link other → rank other < rank link := by
    intro link other hneeds
    induction hneeds with
    | single hneeds => exact h _ _ hneeds
    | tail hneeds hlast ih => exact Nat.lt_trans (h _ _ hlast) ih
  intro link hneeds
  exact Nat.lt_irrefl _ (hrank link link hneeds)

/-- There are no loops if there are no links. -/
theorem loopFree_of_noLinks (h : ∀ place, t.link? place = none) : t.LoopFree := by
  refine loopFree_of_rank (fun _ => 0) ?_
  rintro link other ⟨target, htarget, -⟩
  rw [h] at htarget
  cases htarget

/-- A tree that holds no links has none at any place. -/
theorem link?_eq_none_of_nodes (h : ∀ n ∈ t.nodes, ∀ target, n.2 ≠ .link target) (place : Place) :
    t.link? place = none := by
  cases hlink : t.link? place with
  | none => rfl
  | some target => exact absurd rfl (h _ (mem_nodes_of_link? hlink) target)

/-! ## Following -/

/-- The target of the link that a step comes to, if it comes to one. -/
def linkOn? (t : Tree) (here : Place) (name : String) : Option String :=
  if name = ".." then none else t.link? (here.step name)

/-- How following goes on, with what is written after a link, when the target of
    the link has been followed. -/
def resume (after : PurePath) (later : Place → Except Astray Place) :
    Except Astray Place → Except Astray Place
  | .ok middle => later middle
  | .error (.circle place) => .error (.circle (place.asWritten after))
  | .error .tooDeep => .error .tooDeep

section Steps

variable {depth limit : Nat} {entered : List Place} {here place met : Place} {segment : Segment}
  {rest : List Segment} {name target : String} {names : List String}

/-- A step comes to a link just if it is no step up and a link is there. -/
theorem linkOn?_eq_some_iff :
    t.linkOn? here name = some target ↔ name ≠ ".." ∧ t.link? (here ++ [name]) = some target := by
  unfold linkOn?
  by_cases hname : name = ".."
  · simp [hname]
  · rw [if_neg hname, Place.step, if_neg hname]
    exact (and_iff_right hname).symm

/-- A name that is no link leads where the step leads. So names can be taken off one by one, as
    following does it. -/
theorem leads_cons_iff_of_step (h : t.linkOn? here name = none) :
    t.Leads depth here (name :: names) place ↔ t.Leads depth (here.step name) names place := by
  unfold linkOn? Place.step at h
  unfold Place.step
  -- A step up is apart, since no link can be there.
  by_cases hname : name = ".."
  · subst hname
    rw [if_pos rfl]
    constructor
    · intro hleads
      cases hleads with
      | up h => exact h
      | down hname hlink h => exact absurd rfl hname
      | link hname hlink htarget h => exact absurd rfl hname
    · exact .up
  · rw [if_neg hname, if_neg hname] at h
    rw [if_neg hname]
    constructor
    · intro hleads
      cases hleads with
      | up h => exact absurd rfl hname
      | down hname' hlink h => exact h
      | link hname' hlink htarget h' =>
          rw [hlink] at h
          cases h
    · exact .down hname h

/-- A link leads where its target and the names after it lead. The target has one link less to go
    inside each other; the names after it have as many as before. -/
theorem leads_cons_iff_of_link (hname : name ≠ "..")
    (hlink : t.link? (here ++ [name]) = some target) :
    t.Leads depth here (name :: names) place ↔ ∃ inner middle, depth = inner + 1 ∧
      t.Leads inner (here.start (.ofText target)) (PurePath.ofText target).names middle ∧
      t.Leads depth middle names place := by
  constructor
  · intro hleads
    cases hleads with
    | up h => exact absurd rfl hname
    | down hname' hlink' h =>
        rw [hlink] at hlink'
        cases hlink'
    | @link inner _ middle _ _ _ _ hname' hlink' htarget h =>
        rw [hlink, Option.some.injEq] at hlink'
        subst hlink'
        exact ⟨inner, middle, rfl, htarget, h⟩
  · rintro ⟨inner, middle, rfl, htarget, h⟩
    exact .link hname hlink htarget h

theorem Meets.step (hstep : t.linkOn? here name = none) (h : t.Meets met (here.step name) names) :
    t.Meets met here (name :: names) := by
  rcases h with ⟨depth, middle, before, other, after, rfl, hbefore, hrest⟩
  exact ⟨depth, middle, name :: before, other, after, rfl,
    (leads_cons_iff_of_step hstep).2 hbefore, hrest⟩

/-- Following goes on after a step that comes to no link. -/
theorem follow_cons_of_step (h : t.linkOn? here segment.name = none) :
    t.follow limit entered here (segment :: rest) =
      t.follow limit entered (here.step segment.name) rest := by
  rw [linkOn?] at h
  rw [follow, h]

/-- Following goes on after a link if the link can be followed: it is not one of those that are
    being followed, and there may be one more of these. -/
theorem follow_cons_of_link (hname : segment.name ≠ "..")
    (hlink : t.link? (here ++ [segment.name]) = some target)
    (hmem : here ++ [segment.name] ∉ entered) :
    t.follow limit entered here (segment :: rest) =
      if entered.length < limit then
        resume (.ofText (.ofList segment.rest)) (fun middle => t.follow limit entered middle rest)
          (t.follow limit ((here ++ [segment.name]) :: entered) (here.start (.ofText target))
            (segments target.toList))
      else .error .tooDeep := by
  have hstep : here.step segment.name = here ++ [segment.name] := if_neg hname
  rw [follow, if_neg hname, hstep, hlink]
  simp only [if_neg hmem]
  split
  · -- Whatever comes of the target, it is handed on.
    rcases t.follow limit ((here ++ [segment.name]) :: entered) (here.start (.ofText target))
      (segments target.toList) with (⟨place⟩ | _) | middle <;> rfl
  · rfl

end Steps

/-- Whether following from a place ends as it should: where the names lead, or,
    if they lead nowhere, with too many links. -/
def Ends (t : Tree) (depth : Nat) (here : Place) (names : List String) :
    Except Astray Place → Prop
  | .ok place => t.Leads depth here names place
  | .error (.circle _) => False
  | .error .tooDeep => ∀ place, ¬ t.Leads depth here names place

/-- Names that lead to the same places can be followed for each other. -/
theorem ends_congr {depth : Nat} {here here' : Place} {names names' : List String}
    (h : ∀ place, t.Leads depth here names place ↔ t.Leads depth here' names' place)
    (outcome : Except Astray Place) :
    t.Ends depth here names outcome ↔ t.Ends depth here' names' outcome := by
  rcases outcome with (⟨place⟩ | _) | place
  · exact Iff.rfl
  · exact forall_congr' fun place => not_congr (h place)
  · exact h place

/-- Following a link ends as it should if following its target does, and then
    following the names after it. -/
theorem ends_link {depth : Nat} {here : Place} {name target : String} {names : List String}
    {first : Except Astray Place} {later : Place → Except Astray Place} {after : PurePath}
    (hname : name ≠ "..") (hlink : t.link? (here ++ [name]) = some target)
    (hfirst : t.Ends depth (here.start (.ofText target)) (PurePath.ofText target).names first)
    (hlater : ∀ middle, first = .ok middle → t.Ends (depth + 1) middle names (later middle)) :
    t.Ends (depth + 1) here (name :: names) (resume after later first) := by
  rcases first with (⟨place⟩ | _) | middle
  · exact hfirst
  · intro place hleads
    rcases (leads_cons_iff_of_link hname hlink).1 hleads with ⟨inner, middle, heq, htarget, -⟩
    obtain rfl := Nat.succ.inj heq
    exact hfirst middle htarget
  · -- The link leads to one place only, and the names lead on from there.
    refine (ends_congr (fun place => ?_) _).2 (hlater middle rfl)
    rw [leads_cons_iff_of_link hname hlink]
    constructor
    · rintro ⟨inner, found, heq, htarget, hrest⟩
      obtain rfl := Nat.succ.inj heq
      rwa [htarget.unique hfirst] at hrest
    · intro hrest
      exact ⟨depth, middle, rfl, hfirst, hrest⟩

/-- In a tree without loops, following ends as it should if every link that is
    entered needs whatever is still to come. -/
theorem ends_follow (hfree : t.LoopFree) (limit : Nat) (entered : List Place) (here : Place)
    (path : List Segment)
    (hentered : ∀ outer ∈ entered, ∀ met, t.Meets met here (path.map Segment.name) →
      Relation.TransGen t.Needs outer met) :
    t.Ends (limit - entered.length) here (path.map Segment.name)
      (t.follow limit entered here path) := by
  -- The induction is on how many more links can be entered and, for as many, on the path.
  induction hspare : limit - entered.length using Nat.strong_induction_on
    generalizing entered here path with
  | _ spare ihspare =>
    induction path generalizing here with
    | nil =>
        rw [follow]
        exact .nil
    | cons segment rest ih =>
        rw [List.map_cons] at hentered ⊢
        cases hstep : t.linkOn? here segment.name with
        | none =>
            rw [follow_cons_of_step hstep, ends_congr fun place => leads_cons_iff_of_step hstep]
            exact ih _ fun outer houter met hmeets => hentered outer houter met (hmeets.step hstep)
        | some target =>
            rcases linkOn?_eq_some_iff.1 hstep with ⟨hname, hlink⟩
            let there := here ++ [segment.name]
            have hneeds : ∀ outer ∈ entered, Relation.TransGen t.Needs outer there :=
              fun outer houter => hentered outer houter there (meets_here hname hlink)
            -- If the link were entered, it would need itself.
            have hmem : there ∉ entered := fun hmem => hfree there (hneeds there hmem)
            rw [follow_cons_of_link hname hlink hmem]
            split
            · rename_i hlt
              have hinner : ∀ outer ∈ there :: entered, ∀ met,
                  t.Meets met (here.start (.ofText target)) (PurePath.ofText target).names →
                  Relation.TransGen t.Needs outer met := by
                intro outer houter met hmeets
                have hlast : t.Needs there met := needs_of_meets hlink hmeets
                rcases List.mem_cons.1 houter with rfl | houter
                · exact .single hlast
                · exact .tail (hneeds outer houter) hlast
              have hfirst := ihspare (limit - (entered.length + 1)) (by omega)
                (there :: entered) (here.start (.ofText target)) (segments target.toList) hinner rfl
              have hdepth : spare = limit - (entered.length + 1) + 1 := by omega
              rw [hdepth] at ih ⊢
              refine ends_link hname hlink hfirst fun middle hmiddle => ?_
              rw [hmiddle] at hfirst
              exact ih middle fun outer houter met hmeets =>
                hentered outer houter met (hmeets.link hname hlink hfirst)
            · -- No link can be entered any more, so names with a link lead nowhere.
              intro place hleads
              rcases (leads_cons_iff_of_link hname hlink).1 hleads with ⟨inner, -, heq, -⟩
              omega

/-- In a tree without loops, a path is followed to where it resolves to. What the walk keeps in
    mind, to tell a loop when it meets one, never comes to bear there. -/
theorem follow_eq_ok_iff (hfree : t.LoopFree) {limit : Nat} {here place : Place}
    {path : List Segment} :
    t.follow limit [] here path = .ok place ↔
      t.Leads limit here (path.map Segment.name) place := by
  have hends := ends_follow hfree limit [] here path (by simp)
  rcases hresult : t.follow limit [] here path with (⟨other⟩ | _) | other
  · rw [hresult] at hends
    exact absurd hends id
  · rw [hresult] at hends
    constructor
    · intro h
      cases h
    · intro h
      exact absurd h (hends place)
  · rw [hresult] at hends
    constructor
    · intro h
      exact Except.ok.inj h ▸ hends
    · intro h
      rw [Leads.unique hends h]

/-- In a tree without loops, following a path does not go in circles. -/
theorem follow_ne_circle (hfree : t.LoopFree) (limit : Nat) (here place : Place)
    (path : List Segment) :
    t.follow limit [] here path ≠ .error (.circle place) := by
  intro hcircle
  have hends := ends_follow hfree limit [] here path (by simp)
  rw [hcircle] at hends
  exact hends

end Tree

end Stencil.Files
