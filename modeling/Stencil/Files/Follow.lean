import Stencil.Files.Tree

/-!
# Following Links

Where a path leads in a tree.

Following a path takes its names one after the other. A name that is a link
leads where the link's target leads from the directory of the link, or from the
top if the target has a root; any other name leads down, whether there is
something or not. A link is followed at once, so that two full stops after it
lead above its target.

A link that is come to while it is being followed leads in a circle. Following
ends there: the link is left as it is, and whatever was still to come, of its
own path and of the paths that led to it, is taken as it is written, with no
further link followed.

Links are followed inside each other only up to a limit, which also bounds how
deep following can go. What the limit is depends on the machine, so it is given.

## Main definitions

* `Astray`: How following can end early.
* `Tree.follow`: Where a path leads.
-/

namespace Stencil.Files

/-- How following a path can end before the path does. -/
inductive Astray where
  /-- Links lead in a circle. The place is where the path leads if the circle and
      all after it is taken as it is written. -/
  | circle (place : Place)
  /-- More links would have to be followed inside each other than can be. -/
  | tooDeep
deriving DecidableEq, Repr

namespace Tree

/-- Where the names of a path lead from a place. The links that are being followed are
    `entered`, and there can be no more of them than `limit`. -/
def follow (t : Tree) (limit : Nat) (entered : List Place) (here : Place) :
    List Segment → Except Astray Place
  | [] => .ok here
  | segment :: rest =>
    let there := here.step segment.name
    match if segment.name = ".." then none else t.link? there with
    | none => t.follow limit entered there rest
    | some target =>
      let after := PurePath.ofText (.ofList segment.rest)
      if there ∈ entered then .error (.circle (there.asWritten after))
      else if _h : entered.length < limit then
        match t.follow limit (there :: entered) (here.start (.ofText target))
            (segments target.toList) with
        | .ok place => t.follow limit entered place rest
        | .error (.circle place) => .error (.circle (place.asWritten after))
        | .error .tooDeep => .error .tooDeep
      else .error .tooDeep
termination_by names => (limit - entered.length, names.length)
decreasing_by
  · exact Prod.Lex.right _ (Nat.lt_succ_self _)
  · exact Prod.Lex.left _ _ (by rw [List.length_cons]; omega)
  · exact Prod.Lex.right _ (Nat.lt_succ_self _)

end Tree

end Stencil.Files
