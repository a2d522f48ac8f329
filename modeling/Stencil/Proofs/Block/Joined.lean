import Mathlib.Data.List.Nodup
import Stencil.Proofs.Block.RoundTrip

/-!
# Joined Codeblocks

What two codeblocks declare when one is written below the other.

A codeblock that has no blanks at its ends keeps all its lines when another one
is written below it. It leaves no fence open, so the other one is read as if it
stood alone, and as that starts with a declaration, the last value above does
not grow. So the properties are those of the one and then those of the other;
only a key that both declare makes a difference.

Whoever looks for a property by its key does not see which of the two it comes
from. As long as keys are distinct, what is found depends only on which
properties there are, and not on their order.

## Theorems

* `lines_append_newline`: The lines of texts below each other.
* `strip_append_newline`: Between the two texts nothing is taken off.
* `gather_append_of_further`: A declaration ends the value above it.
* `outcome_parse_append`: What two codeblocks declare together.
* `duplicates_append`: The keys that two lists share are those repeated when they are joined.
* `outcome_parse_joined`: Parsing goes through texts that are one below the other.
* `find?_key_eq_some_iff`, `find?_key_of_perm`: What is found by its key.
-/

namespace Stencil

namespace Text

/-- A line feed between two texts ends the last line of the first. -/
theorem lines_append_newline (s t : String) : lines (s ++ "\n" ++ t) = lines s ++ lines t := by
  have hlist : (s ++ "\n" ++ t).toList = s.toList ++ '\n' :: t.toList := by
    simp [String.toList_append]
  rw [lines, hlist, List.splitOn_append_cons_self, List.map_append, lines, lines]

/-- Texts without outer blanks have none when one is below the other. -/
theorem strip_append_newline {s t : String} (hs : strip s = s) (ht : strip t = t) (hs' : s ≠ "")
    (ht' : t ≠ "") : strip (s ++ "\n" ++ t) = s ++ "\n" ++ t := by
  have hlist : (s ++ "\n" ++ t).toList = s.toList ++ '\n' :: t.toList := by
    simp [String.toList_append]
  have hsnil : s.toList ≠ [] := by rwa [Ne, ← String.toList_empty, String.toList_inj]
  have htnil : t.toList ≠ [] := by rwa [Ne, ← String.toList_empty, String.toList_inj]
  rw [← String.toList_inj, toList_strip, hlist, trim_eq_self_iff]
  constructor
  · -- The first character is that of the first text.
    rw [List.head?_append_of_ne_nil _ hsnil]
    exact ((trim_eq_self_iff _).1 (trim_toList_of_strip hs)).1
  · rw [List.getLast?_append_of_ne_nil _ (List.cons_ne_nil _ _), List.getLast?_cons_of_ne_nil htnil]
    exact ((trim_eq_self_iff _).1 (trim_toList_of_strip ht)).2

end Text

namespace Block

/-! ## Properties of joined codeblocks -/

section Joined

variable {rs more : List Role}

/-- A declaration ends the value above it. -/
theorem further_append_of_further (h : further more = []) :
    further (rs ++ more) = further rs := by
  induction rs with
  | nil => rw [List.nil_append, h, further_nil]
  | cons r rs ih =>
      cases r with
      | declares key value => rfl
      | continues line => rw [List.cons_append, further_continues, further_continues, ih]

/-- If what comes below starts with a declaration, the properties above are what
    they are without it. -/
theorem gather_append_of_further (h : further more = []) :
    gather (rs ++ more) = gather rs ++ gather more := by
  induction rs with
  | nil => rfl
  | cons r rs ih =>
      cases r with
      | declares key value =>
          rw [List.cons_append, gather, gather, ih, further_append_of_further h, List.cons_append]
      | continues line => rw [List.cons_append, gather, gather, ih]

end Joined

/-- The lines of a codeblock start with a declaration, and so do their roles. -/
theorem further_roles_of_declares {lines : List String}
    (h : ∃ captured, (lines.head?.bind fun line => declaration? line.toList) = some captured) :
    further (roles none lines) = [] := by
  rcases h with ⟨⟨key, value⟩, hd⟩
  cases lines with
  | nil => rfl
  | cons line lines =>
      rw [List.head?_cons, Option.bind_some] at hd
      rw [roles, Role.of_none_of_declaration hd, further_declares]

/-- Two codeblocks that are written one below the other declare what the first one declares and
    then what the second one declares, if no key is declared twice. The first leaves no fence
    open, so the second is read as it is alone. -/
theorem outcome_parse_append {one other : String} {debug : Bool} {ps qs : List Property}
    (hone : Text.strip one = one) (hother : Text.strip other = other)
    (hps : (parse one debug).outcome = .ok ps) (hqs : (parse other debug).outcome = .ok qs) :
    (parse (one ++ "\n" ++ other) debug).outcome =
      if ((ps ++ qs).map Property.key).Nodup then .ok (ps ++ qs)
      else .error (.duplicateKeys (Parser.duplicates ((ps ++ qs).map Property.key))) := by
  rcases (Parser.outcome_parse_eq_ok_iff _ _ _).1 hps with ⟨hne, hcode, rfl⟩
  rcases (Parser.outcome_parse_eq_ok_iff _ _ _).1 hqs with ⟨hne', hcode', rfl⟩
  rw [hone] at hne hcode ⊢
  rw [hother] at hne' hcode' ⊢
  have hlines : Text.strippedLines (one ++ "\n" ++ other) =
      Text.strippedLines one ++ Text.strippedLines other := by
    rw [Text.strippedLines, Text.lines_append_newline, List.map_append, Text.strippedLines,
      Text.strippedLines]
  -- The second codeblock starts with a declaration, so the last value above does not grow.
  have hgather : gather (roles none (Text.strippedLines one) ++
        roles none (Text.strippedLines other)) =
      gather (roles none (Text.strippedLines one)) ++
        gather (roles none (Text.strippedLines other)) :=
    gather_append_of_further (further_roles_of_declares hcode'.declares)
  have hkeys : declaredKeys (Text.strippedLines one) ++ declaredKeys (Text.strippedLines other) =
      (gather (roles none (Text.strippedLines one)) ++
        gather (roles none (Text.strippedLines other))).map Property.key := by
    rw [List.map_append, map_key_gather, map_key_gather, declaredKeys, declaredKeys]
  have hjoined : ¬ one ++ "\n" ++ other = "" := by
    rw [← String.toList_inj]
    simp [String.toList_append]
  rw [Parser.outcome_parse_eq, Text.strip_append_newline hone hother hne hne', if_neg hjoined,
    hlines, verdict_append hcode.declares hcode.closed, hcode'.closed]
  dsimp only
  rw [hgather, hkeys]

/-! ## Keys that both declare -/

/-- Nothing is left out of a list without repetitions. -/
theorem eraseDups_of_nodup {l : List String} (h : l.Nodup) : l.eraseDups = l := by
  induction l with
  | nil => rfl
  | cons a l ih =>
      rw [List.nodup_cons] at h
      have hrest : l.filter (fun b => !b == a) = l := by
        rw [List.filter_eq_self]
        intro b hb
        have hne : b ≠ a := by
          rintro rfl
          exact h.1 hb
        simp [hne]
      rw [List.eraseDups_cons, hrest, ih h.2]

/-- If neither of two lists repeats a key, the keys that are repeated when they
    are joined are those that both hold, in the order of the first list. -/
theorem duplicates_append {one other : List String} (hone : one.Nodup) (hother : other.Nodup) :
    Parser.duplicates (one ++ other) = one.filter (· ∈ other) := by
  have hfirst : one.filter (fun key => decide (1 < (one ++ other).count key)) =
      one.filter (· ∈ other) := by
    refine List.filter_congr fun key hkey => ?_
    -- A key of the first list occurs there once, so it is repeated if the second list has it.
    have hcount : one.count key = 1 := List.count_eq_one_of_mem hone hkey
    rw [decide_eq_decide, List.count_append, hcount, ← List.count_pos_iff]
    omega
  -- What only the second list holds occurs there once, and not before.
  have hsecond : (other.removeAll one).eraseDups.filter
      (fun key => decide (1 < (one ++ other).count key)) = [] := by
    rw [List.filter_eq_nil_iff]
    intro key hkey
    have hmem : key ∈ other ∧ key ∉ one := by
      rw [List.mem_eraseDups, List.removeAll, List.mem_filter] at hkey
      simpa using hkey
    have hle : other.count key ≤ 1 := List.nodup_iff_count_le_one.1 hother key
    rw [decide_eq_true_eq, List.count_append, List.count_eq_zero_of_not_mem hmem.2]
    omega
  rw [Parser.duplicates, List.eraseDups_append, eraseDups_of_nodup hone, List.filter_append,
    hfirst, hsecond, List.append_nil]

/-- Parsing goes through texts that are written one below the other. If no key
    is declared by both, the properties of the second text follow those of the
    first; else the keys that both declare are refused, in the order in which
    the first text declares them. -/
theorem outcome_parse_joined {one other : String} {debug : Bool} {ps qs : List Property}
    (hone : Text.strip one = one) (hother : Text.strip other = other)
    (hps : (parse one debug).outcome = .ok ps) (hqs : (parse other debug).outcome = .ok qs) :
    ((ps.map Property.key).Disjoint (qs.map Property.key) →
      (parse (one ++ "\n" ++ other) debug).outcome = .ok (ps ++ qs)) ∧
    (¬ (ps.map Property.key).Disjoint (qs.map Property.key) →
      (parse (one ++ "\n" ++ other) debug).outcome =
        .error (.duplicateKeys ((ps.map Property.key).filter (· ∈ qs.map Property.key)))) := by
  have hkeys := (wellFormed_of_parse hps).distinct
  have hkeys' := (wellFormed_of_parse hqs).distinct
  rw [outcome_parse_append hone hother hps hqs, List.map_append]
  constructor
  · intro hdisjoint
    rw [if_pos (List.nodup_append'.2 ⟨hkeys, hkeys', hdisjoint⟩)]
  · intro hshared
    have htwice : ¬ (ps.map Property.key ++ qs.map Property.key).Nodup :=
      fun hnodup => hshared (List.nodup_append'.1 hnodup).2.2
    rw [if_neg htwice, duplicates_append hkeys hkeys']

/-- Two keys that both texts declare, and one that the first text holds in a
    fence only. -/
theorem outcome_parse_joined_shared :
    let one := "c: 1\nb: 2\na: 3\n\x60\x60\x60\nd: 4\n\x60\x60\x60"
    let other := "a: 5\nd: 6\nc: 7"
    let ps : List Property := [⟨"c", "1"⟩, ⟨"b", "2"⟩, ⟨"a", "3\n\x60\x60\x60\nd: 4\n\x60\x60\x60"⟩]
    let qs : List Property := [⟨"a", "5"⟩, ⟨"d", "6"⟩, ⟨"c", "7"⟩]
    Text.strip one = one ∧ Text.strip other = other ∧
      (parse one false).outcome = .ok ps ∧ (parse other false).outcome = .ok qs ∧
      ¬ (ps.map Property.key).Disjoint (qs.map Property.key) ∧
      (parse (one ++ "\n" ++ other) false).outcome = .error (.duplicateKeys ["c", "a"]) := by
  intro one other ps qs
  have hone : Text.strip one = one := by decide
  have hother : Text.strip other = other := by decide
  have hps : (parse one false).outcome = .ok ps := by
    rw [Parser.outcome_parse_eq, if_neg (by decide)]
    decide
  have hqs : (parse other false).outcome = .ok qs := by
    rw [Parser.outcome_parse_eq, if_neg (by decide)]
    decide
  have hshared : ¬ (ps.map Property.key).Disjoint (qs.map Property.key) :=
    fun hdisjoint => hdisjoint (a := "a") (by decide) (by decide)
  have hrefused := (outcome_parse_joined hone hother hps hqs).2 hshared
  exact ⟨hone, hother, hps, hqs, hshared, hrefused⟩

/-! ## Properties by their keys -/

section Keys

variable {ps qs : List Property} {key : String}

/-- If keys are distinct, a property is found by its key. -/
theorem find?_key_eq_some_iff (h : (ps.map Property.key).Nodup) {p : Property} :
    ps.find? (·.key = key) = some p ↔ p ∈ ps ∧ p.key = key := by
  constructor
  · intro hfind
    exact ⟨List.mem_of_find?_eq_some hfind, by simpa using List.find?_some hfind⟩
  · rintro ⟨hmem, hkey⟩
    cases hfind : ps.find? (·.key = key) with
    | none => exact absurd hkey (by simpa using List.find?_eq_none.1 hfind p hmem)
    | some found =>
        have hfound : found ∈ ps := List.mem_of_find?_eq_some hfind
        have hsame : found.key = key := by simpa using List.find?_some hfind
        rw [List.inj_on_of_nodup_map h hfound hmem (hsame.trans hkey.symm)]

theorem find?_key_eq_none_iff : ps.find? (·.key = key) = none ↔ key ∉ ps.map Property.key := by
  rw [List.find?_eq_none, List.mem_map]
  simp only [decide_eq_true_eq, not_exists, not_and]

/-- What is found by its key does not depend on the order, if keys are distinct. -/
theorem find?_key_of_perm (h : (ps.map Property.key).Nodup) (hperm : ps.Perm qs) :
    ps.find? (·.key = key) = qs.find? (·.key = key) := by
  have h' : (qs.map Property.key).Nodup := (hperm.map Property.key).nodup_iff.1 h
  ext p
  rw [find?_key_eq_some_iff h, find?_key_eq_some_iff h', hperm.mem_iff]

end Keys

end Block

end Stencil
