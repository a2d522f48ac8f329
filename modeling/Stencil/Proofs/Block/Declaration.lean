import Stencil.Block.Line
import Stencil.Proofs.Text.Trim

/-!
# Declaration Lines

Which lines declare a property, and what they capture.

`declaration?` looks for a key, perhaps blanks, a colon and a value, each part
being the longest run of its characters. `declaration?_eq_some_iff` says the
same without runs: a line is cut at its first colon, the part before it is a
key and blanks, and the value is the part after it. The two agree because the
characters of keys, the blanks and the colon are three classes without a
common member, so there is only one place for each cut.

A line that has been stripped loses nothing at the end, so its value is
trimmed at both ends although only its start is. That is what lets a value be
read back after it was written behind its key.

## Theorems

* `takeWhile_cut`, `dropWhile_cut`: Where the key of a line ends.
* `declaration?_eq_some_iff`: The lines that declare, and what they capture.
* `declaration?_trimmed`: The value of a trimmed line is the trimmed rest.
* `declaration?_strip`: A declaration that was written is read back.
-/

namespace Stencil.Block

/-! ## Classes of characters -/

theorem isKeyChar_iff (c : Char) : isKeyChar c = true ↔ ('a' ≤ c ∧ c ≤ 'z') ∨ c = '-' := by
  have hlower : c.isLower = (decide ('a' ≤ c) && decide (c ≤ 'z')) := rfl
  rw [isKeyChar, hlower, Bool.or_eq_true, Bool.and_eq_true, decide_eq_true_eq, decide_eq_true_eq,
    beq_iff_eq]

/-- No blank is part of a key. -/
theorem isKeyChar_eq_false_of_isBlank {c : Char} (h : Text.isBlank c = true) :
    isKeyChar c = false := by
  have hdash : c ≠ '-' := by
    rintro rfl
    exact absurd h (by decide)
  simp only [Text.isBlank, Bool.or_eq_true, Bool.and_eq_true, decide_eq_true_eq, beq_iff_eq] at h
  simp only [isKeyChar, Bool.or_eq_false_iff, beq_eq_false_iff_ne]
  refine ⟨?_, hdash⟩
  -- The blanks below the small letters stop at the space, those above start later.
  rw [Bool.eq_false_iff]
  intro hlower
  have hrange : (decide (c.val ≥ 97) && decide (c.val ≤ 122)) = true := hlower
  rw [Bool.and_eq_true, decide_eq_true_eq, decide_eq_true_eq] at hrange
  have hlo : 97 ≤ c.toNat := UInt32.le_iff_toNat_le.1 hrange.1
  have hhi : c.toNat ≤ 122 := UInt32.le_iff_toNat_le.1 hrange.2
  omega

theorem isBlank_eq_false_of_isKeyChar {c : Char} (h : isKeyChar c = true) :
    Text.isBlank c = false := by
  rw [Bool.eq_false_iff]
  intro hb
  rw [isKeyChar_eq_false_of_isBlank hb] at h
  exact absurd h (by decide)

theorem isKeyChar_colon : isKeyChar ':' = false := by decide

theorem isBlank_colon : Text.isBlank ':' = false := by decide

theorem ne_colon_of_isKeyChar {c : Char} (h : isKeyChar c = true) : c ≠ ':' := by
  rintro rfl
  exact absurd h (by decide)

theorem ne_colon_of_isBlank {c : Char} (h : Text.isBlank c = true) : c ≠ ':' := by
  rintro rfl
  exact absurd h (by decide)

/-- A key stands on one line. -/
theorem newline_notMem_of_isKeyChar {key : List Char} (h : ∀ c ∈ key, isKeyChar c = true) :
    '\n' ∉ key := by
  intro hmem
  exact absurd (h _ hmem) (by decide)

/-! ## What a declaration captures -/

/-- What stands behind a key, blanks or the colon, does not go on with the key. -/
theorem isKeyChar_head_cut {blanks : List Char} (hblanks : ∀ c ∈ blanks, Text.isBlank c = true)
    (rest : List Char) : ∀ c ∈ (blanks ++ ':' :: rest).head?, isKeyChar c = false := by
  cases blanks with
  | nil => simp [isKeyChar_colon]
  | cons b bs =>
      rintro c ⟨⟩
      exact isKeyChar_eq_false_of_isBlank (hblanks b (List.mem_cons_self ..))

/-- The longest run of the characters of keys ends with the key. -/
theorem takeWhile_cut {key blanks : List Char} (rest : List Char)
    (hkey : ∀ c ∈ key, isKeyChar c = true) (hblanks : ∀ c ∈ blanks, Text.isBlank c = true) :
    (key ++ (blanks ++ ':' :: rest)).takeWhile isKeyChar = key := by
  rw [Text.takeWhile_append_of_stop (isKeyChar_head_cut hblanks rest),
    List.takeWhile_eq_self_iff.2 hkey]

theorem dropWhile_cut {key blanks : List Char} (rest : List Char)
    (hkey : ∀ c ∈ key, isKeyChar c = true) (hblanks : ∀ c ∈ blanks, Text.isBlank c = true) :
    (key ++ (blanks ++ ':' :: rest)).dropWhile isKeyChar = blanks ++ ':' :: rest := by
  rw [Text.dropWhile_append_of_stop (isKeyChar_head_cut hblanks rest),
    List.dropWhile_eq_nil_iff.2 hkey, List.nil_append]

/-- The parts of a line that is put together from a key, blanks and a colon. The key ends where
    its characters end, and neither a blank nor the colon is one of them, so a line can be put
    together in one way only. -/
theorem declaration?_append {key blanks : List Char} (rest : List Char)
    (hkey : ∀ c ∈ key, isKeyChar c = true) (hblanks : ∀ c ∈ blanks, Text.isBlank c = true) :
    declaration? (key ++ (blanks ++ ':' :: rest)) =
      if key.isEmpty || (Text.trimStart rest).contains '\n' then none
      else some (key, Text.trimStart rest) := by
  have htake := takeWhile_cut rest hkey hblanks
  have hdrop : Text.trimStart ((key ++ (blanks ++ ':' :: rest)).dropWhile isKeyChar)
      = ':' :: rest := by
    rw [dropWhile_cut rest hkey hblanks, Text.trimStart, List.dropWhile_append_of_pos hblanks]
    simp [isBlank_colon]
  unfold declaration?
  rw [hdrop]
  simp only [htake]

/-- The lines that declare: a key, perhaps blanks, a colon, and a rest without
    a line feed after its leading blanks. -/
theorem declaration?_eq_some_iff (s key value : List Char) :
    declaration? s = some (key, value) ↔
      key ≠ [] ∧ (∀ c ∈ key, isKeyChar c = true) ∧
        ∃ blanks rest, (∀ c ∈ blanks, Text.isBlank c = true) ∧
          s = key ++ (blanks ++ ':' :: rest) ∧ value = Text.trimStart rest ∧ '\n' ∉ value := by
  constructor
  · intro h
    have hkey : ∀ c ∈ s.takeWhile isKeyChar, isKeyChar c = true :=
      fun c hc => List.mem_takeWhile_imp hc
    have hblanks : ∀ c ∈ (s.dropWhile isKeyChar).takeWhile Text.isBlank, Text.isBlank c = true :=
      fun c hc => List.mem_takeWhile_imp hc
    -- Without a colon after the key and the blanks nothing is captured.
    rcases hrest : Text.trimStart (s.dropWhile isKeyChar) with _ | ⟨c, rest⟩
    · rw [declaration?, hrest] at h
      exact absurd h (by simp)
    · by_cases hc : c = ':'
      · have hs : s = s.takeWhile isKeyChar ++
            ((s.dropWhile isKeyChar).takeWhile Text.isBlank ++ ':' :: rest) := by
          rw [← hc, ← hrest, Text.trimStart, List.takeWhile_append_dropWhile,
            List.takeWhile_append_dropWhile]
        rw [hs, declaration?_append rest hkey hblanks] at h
        split at h
        · exact absurd h (by simp)
        · rename_i hcond
          simp only [Bool.or_eq_true, not_or, List.isEmpty_iff, List.contains_iff_mem] at hcond
          simp only [Option.some.injEq, Prod.mk.injEq] at h
          rcases h with ⟨rfl, rfl⟩
          -- The line is cut where the runs of the two kinds of characters end.
          exact ⟨hcond.1, hkey, _, rest, hblanks, hs, rfl, hcond.2⟩
      · rw [declaration?, hrest] at h
        split at h
        · rename_i heq
          exact absurd (List.cons.inj heq).1 hc
        · exact absurd h (by simp)
  · rintro ⟨hne, hkey, blanks, rest, hblanks, rfl, rfl, hn⟩
    rw [declaration?_append rest hkey hblanks, if_neg]
    simp only [Bool.or_eq_true, not_or, List.isEmpty_iff, List.contains_iff_mem]
    exact ⟨hne, hn⟩

/-- The key is what the line starts with, and the value of a trimmed line is what follows its
    first colon, trimmed. Only blanks after the colon are skipped when a line is read; that none
    are left at the end is because the line has none there. -/
theorem declaration?_trimmed {s key value : List Char} (hs : Text.trim s = s)
    (h : declaration? s = some (key, value)) :
    key = s.takeWhile isKeyChar ∧
      value = Text.trim ((s.dropWhile (· != ':')).drop 1) ∧ Text.trim value = value := by
  rcases (declaration?_eq_some_iff s key value).1 h with
    ⟨-, hkey, blanks, rest, hblanks, hcut, rfl, -⟩
  have hfirst : s.dropWhile (· != ':') = ':' :: rest := by
    rw [hcut, List.dropWhile_append_of_pos, List.dropWhile_append_of_pos]
    · simp
    · intro c hc
      exact bne_iff_ne.2 (ne_colon_of_isBlank (hblanks c hc))
    · intro c hc
      exact bne_iff_ne.2 (ne_colon_of_isKeyChar (hkey c hc))
  -- The line ends where the value ends, so the value ends with no blank.
  have hend : Text.trimEnd rest = rest := by
    have htrim : Text.trimEnd s = s := by
      rw [← hs, Text.trim, Text.trimEnd_trimEnd]
    rw [hcut, ← List.append_assoc, Text.trimEnd_append_cons isBlank_colon] at htrim
    exact (List.cons.inj (List.append_cancel_left htrim)).2
  have hvalue : Text.trim rest = Text.trimStart rest := by
    rw [← Text.trimStart_trimEnd, hend]
  refine ⟨?_, ?_, ?_⟩
  · rw [hcut, takeWhile_cut rest hkey hblanks]
  · rw [hfirst, List.drop_one, List.tail_cons, hvalue]
  · rw [← hvalue, Text.trim_trim]

/-! ## Writing a declaration -/

/-- A key, a colon and a space before a trimmed value are read back, whether
    or not the line is stripped first. -/
theorem declaration?_strip {key value : String} (hne : key ≠ "")
    (hkey : ∀ c ∈ key.toList, isKeyChar c = true) (hvalue : Text.strip value = value)
    (hn : '\n' ∉ value.toList) :
    declaration? (Text.strip (key ++ ": " ++ value)).toList = some (key.toList, value.toList) := by
  have hne' : key.toList ≠ [] := by
    intro h
    exact hne (by rw [← String.toList_inj, h, String.toList_empty])
  have htrim := Text.trim_toList_of_strip hvalue
  -- The colon is no blank: what is stripped is the space, if the value is empty.
  have hline : (Text.strip (key ++ ": " ++ value)).toList =
      key.toList ++ ([] ++ ':' :: Text.trimEnd (' ' :: value.toList)) := by
    have htoList : (key ++ ": " ++ value).toList = key.toList ++ ':' :: ' ' :: value.toList := by
      simp [String.toList_append]
    have hstart : Text.trimStart (key.toList ++ ':' :: ' ' :: value.toList)
        = key.toList ++ ':' :: ' ' :: value.toList := by
      apply Text.trimStart_eq_self
      rcases hk : key.toList with _ | ⟨c, cs⟩
      · exact absurd hk hne'
      · intro d hd
        rw [List.cons_append, List.head?_cons, Option.mem_some_iff] at hd
        rw [← hd]
        exact isBlank_eq_false_of_isKeyChar (hkey c (by rw [hk]; exact List.mem_cons_self ..))
    rw [Text.toList_strip, htoList, Text.trim, hstart, Text.trimEnd_append_cons isBlank_colon,
      List.nil_append]
  rw [hline, declaration?_eq_some_iff]
  refine ⟨hne', hkey, [], _, by simp, rfl, ?_, hn⟩
  rw [Text.trimStart_trimEnd, Text.trim_cons_blank Text.isBlank_space, htrim]

/-- A declaration is not blank. -/
theorem strip_declaration_ne_empty (key value : String) :
    Text.strip (key ++ ": " ++ value) ≠ "" := by
  rw [Ne, Text.strip_eq_empty_iff, Text.trim_eq_nil_iff]
  intro h
  have hcolon := h ':' (by simp [String.toList_append])
  rw [isBlank_colon] at hcolon
  exact absurd hcolon (by decide)

end Stencil.Block
