import Stencil.Log.Journal

/-!
# Levels of Messages

Which messages a verbosity admits.

There are three levels: what is going on, what came of it, and every single
step. A verbosity admits the messages up to its level, so nothing is admitted
below the first level, and nothing more from the third level on. Admitting is
filtering: it keeps the order, it goes through sequences of work part by part,
and what a lower verbosity admits is part of what a higher one does.

## Main definitions

* `Ranked`: Messages of the three levels.
* `upTo`: The messages that a verbosity admits.

## Theorems

* `upTo_upTo`: A lower verbosity admits a part of what a higher one does.
* `upTo_of_lt`, `upTo_of_le`: Nothing is admitted below the first level, and all from the third on.
* `entries_connect_play`: A journal shows what its verbosity admits.
-/

namespace Stencil

/-- Messages of the three levels that there are. -/
def Ranked (ms : List Message) : Prop :=
  ∀ m ∈ ms, 1 ≤ m.level ∧ m.level ≤ 3

/-- The messages that a verbosity admits, in order. -/
def upTo (verbosity : Int) (ms : List Message) : List Message :=
  ms.filter fun m => m.level ≤ verbosity

@[simp] theorem ranked_nil : Ranked [] := by
  simp [Ranked]

@[simp] theorem ranked_cons (m : Message) (ms : List Message) :
    Ranked (m :: ms) ↔ (1 ≤ m.level ∧ m.level ≤ 3) ∧ Ranked ms := by
  simp only [Ranked, List.forall_mem_cons]

@[simp] theorem ranked_append (ms ns : List Message) :
    Ranked (ms ++ ns) ↔ Ranked ms ∧ Ranked ns := by
  simp only [Ranked, List.forall_mem_append]

/-- What is said in parts is admitted in parts. -/
@[simp] theorem upTo_append (verbosity : Int) (ms ns : List Message) :
    upTo verbosity (ms ++ ns) = upTo verbosity ms ++ upTo verbosity ns :=
  List.filter_append ..

/-- A lower verbosity admits a part of what a higher one does. -/
theorem upTo_upTo {low high : Int} (h : low ≤ high) (ms : List Message) :
    upTo low (upTo high ms) = upTo low ms := by
  unfold upTo
  rw [List.filter_filter]
  refine List.filter_congr fun m _ => ?_
  rw [Bool.and_eq_left_iff_imp]
  simp only [decide_eq_true_eq]
  intro hlow
  omega

/-- Below the first level nothing is admitted. -/
theorem upTo_of_lt {verbosity : Int} (h : verbosity < 1) {ms : List Message} (hms : Ranked ms) :
    upTo verbosity ms = [] := by
  unfold upTo
  rw [List.filter_eq_nil_iff]
  intro m hm
  have hlevel := hms m hm
  rw [decide_eq_true_eq]
  omega

/-- From the third level on everything is admitted. -/
theorem upTo_of_le {verbosity : Int} (h : 3 ≤ verbosity) {ms : List Message} (hms : Ranked ms) :
    upTo verbosity ms = ms := by
  unfold upTo
  rw [List.filter_eq_self]
  intro m hm
  have hlevel := hms m hm
  rw [decide_eq_true_eq]
  omega

/-- A journal shows what the verbosity that is connected to it admits. -/
theorem entries_connect_play (j : Journal) (verbosity : Int) (ms : List Message) :
    ((j.connect (some verbosity)).2.play ms).entries =
      j.entries ++ (upTo verbosity ms).map Message.text := rfl

end Stencil
