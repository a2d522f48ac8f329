import Stencil.Pattern.Basic
import Stencil.Pattern.Options

/-!
# Frames

The parts of a pattern that are open while it is read.

A frame collects the pieces of one alternative after the other. Of the last piece
it keeps what it is, because a repetition may follow it: a class that is repeated
is a run, anchors and repetitions cannot be repeated.

## Main definitions

* `Piece`: The last piece that was read.
* `Role`: What a part of a pattern is in parentheses for.
* `Frame`: A part of a pattern that is open.
* `Frame.push`, `Frame.branch`, `Frame.body`: What is read in it.
* `Frame.repeatable`: The piece that a repetition may follow.
-/

namespace Stencil.Pattern

/-- The last piece read. -/
inductive Piece where
  /-- One character of a class. -/
  | set (set : CharSet)
  /-- A place. -/
  | anchor (anchor : Anchor)
  /-- A repetition. -/
  | repetition (p : Pattern)
  /-- Anything else that has an end of its own. -/
  | whole (p : Pattern)
deriving DecidableEq, Repr

namespace Piece

/-- The pattern of a piece. -/
def pattern : Piece → Pattern
  | set s => one s
  | anchor a => .anchor a
  | repetition p | whole p => p

/-- A piece at least and at most so many times. -/
def repeated (piece : Piece) (least : Nat) (most : Option Nat) (greed : Greed) : Pattern :=
  match piece, greed with
  | set s, .greedy => run s least most
  | set s, .possessive => atomic (run s least most)
  | piece, .greedy => .repeated piece.pattern least most true
  | piece, .lazy => .repeated piece.pattern least most false
  | piece, .possessive => atomic (.repeated (atomic piece.pattern) least most true)

end Piece

/-- What a part of a pattern is for. -/
inductive Role where
  /-- Nothing but to hold together. -/
  | plain
  /-- To capture what it fits, as the next group after so many. -/
  | group (before : Nat)
  /-- To fit the first that it fits. -/
  | atomic
  /-- To look ahead. -/
  | ahead (wanted : Bool)
  /-- To look behind, with so many groups before it. -/
  | behind (wanted : Bool) (before : Nat)
  /-- To choose by a group. -/
  | given (number : Nat)
deriving DecidableEq, Repr

/-- For a look behind, the number of groups before it. -/
def Role.behind? : Role → Option Nat
  | behind _ before => some before
  | _ => none

/-- A part of a pattern that is open. -/
structure Frame where
  /-- The place of its parenthesis. -/
  opened : Nat
  role : Role
  options : Options
  /-- The alternatives before the present one. -/
  branches : List Pattern
  /-- What was read in the present one, but for the last piece, the latest first. -/
  read : List Pattern
  /-- The last piece, and its place. -/
  last : Option (Nat × Piece)
deriving DecidableEq, Repr

namespace Frame

/-- A frame in which nothing was read. -/
def start (opened : Nat) (role : Role) (options : Options) : Frame :=
  ⟨opened, role, options, [], [], none⟩

/-- Whether nothing was read in the frame. -/
def isFresh (f : Frame) : Bool :=
  f.branches.isEmpty && f.read.isEmpty && f.last.isNone

/-- All that was read in the present alternative, the latest first. -/
def all (f : Frame) : List Pattern :=
  match f.last with
  | some (_, piece) => piece.pattern :: f.read
  | none => f.read

/-- The pattern that was read in the present alternative. -/
def present (f : Frame) : Pattern :=
  inOrder f.all.reverse

/-- The frame with one more piece. -/
def push (f : Frame) (place : Nat) (piece : Piece) : Frame :=
  { f with read := f.all, last := some (place, piece) }

/-- The frame with another alternative. -/
def branch (f : Frame) : Frame :=
  { f with branches := f.branches ++ [f.present], read := [], last := none }

/-- The pattern that was read in the frame. -/
def body (f : Frame) : Pattern :=
  f.branches.foldr either f.present

/-- The pattern of a choice by a group: without a second branch, it may be empty. -/
def choice (f : Frame) (number : Nat) : Pattern :=
  match f.branches with
  | [] => given number f.present empty
  | one :: _ => given number one f.present

/-- The last piece with its place, for a repetition at a place. -/
def repeatable (f : Frame) (place : Nat) : Except Error (Nat × Piece) :=
  match f.last with
  | none | some (_, .anchor _) => failAt place .nothingToRepeat
  | some (_, .repetition _) => failAt place .repeatedTwice
  | some last => .ok last

/-- The frame with the last piece replaced by a repetition of it. -/
def repetition (f : Frame) (start : Nat) (p : Pattern) : Frame :=
  { f with last := some (start, .repetition p) }

end Frame

end Stencil.Pattern
