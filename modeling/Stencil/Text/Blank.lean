/-!
# Blank Characters

Which characters count as white space, and what is left of a text when they
are taken off its ends.

One set serves the whole library: the blanks around a key, the blanks inside
the braces of a placeholder and the blanks that end a codeblock are the same
characters. Recognisers work on `List Char`, where "the longest run of blanks"
is `takeWhile` and what follows it is `dropWhile`; `strip` is the same
operation for a whole `String`.

## Main definitions

* `isBlank`: The white space characters.
* `trimStart`, `trimEnd`, `trim`: A list of characters without its outer blanks.
* `strip`: A text without its outer blanks.

## Theorems

* `trimStart_eq_self`: A text that starts with no blank is left alone.
* `trim_trim`: Taking the blanks off twice takes off no more.
* `strip_strip`: The same for whole texts.
-/

namespace Stencil.Text

/-- White space: the ASCII controls from tab to carriage return, the four
    separators before the space, the space, and the blanks of Unicode. The
    zero width space and the byte order mark are not among them. -/
def isBlank (c : Char) : Bool :=
  let n := c.toNat
  (0x09 ≤ n && n ≤ 0x0D) || (0x1C ≤ n && n ≤ 0x20) || n == 0x85 || n == 0xA0 ||
  n == 0x1680 || (0x2000 ≤ n && n ≤ 0x200A) || n == 0x2028 || n == 0x2029 ||
  n == 0x202F || n == 0x205F || n == 0x3000

/-- The text from its first character that is not blank. -/
def trimStart (s : List Char) : List Char :=
  s.dropWhile isBlank

/-- The text up to its last character that is not blank. -/
def trimEnd (s : List Char) : List Char :=
  (s.reverse.dropWhile isBlank).reverse

/-- The text without the blanks at its two ends. -/
def trim (s : List Char) : List Char :=
  trimEnd (trimStart s)

/-- The text without the blanks at its two ends. -/
def strip (s : String) : String :=
  .ofList (trim s.toList)

theorem isBlank_newline : isBlank '\n' = true := by decide

theorem isBlank_space : isBlank ' ' = true := by decide

@[simp] theorem trimStart_nil : trimStart [] = [] := rfl

@[simp] theorem trim_nil : trim [] = [] := rfl

theorem dropWhile_dropWhile (p : Char → Bool) (s : List Char) :
    (s.dropWhile p).dropWhile p = s.dropWhile p := by
  induction s with
  | nil => rfl
  | cons c s ih =>
      by_cases h : p c
      · simpa [List.dropWhile_cons, h] using ih
      · simp [h]

theorem trimStart_trimStart (s : List Char) : trimStart (trimStart s) = trimStart s :=
  dropWhile_dropWhile isBlank s

theorem trimEnd_trimEnd (s : List Char) : trimEnd (trimEnd s) = trimEnd s := by
  simp [trimEnd, dropWhile_dropWhile]

/-- A text that starts with no blank is left alone. -/
theorem trimStart_eq_self {s : List Char} (h : ∀ c ∈ s.head?, isBlank c = false) :
    trimStart s = s := by
  cases s with
  | nil => rfl
  | cons c s => simp [trimStart, h c (by simp)]

/-- What `trimStart` leaves starts with no blank. -/
theorem isBlank_head_trimStart (s : List Char) :
    ∀ c ∈ (trimStart s).head?, isBlank c = false := by
  induction s with
  | nil => simp
  | cons d s ih =>
      by_cases h : isBlank d
      · simpa [trimStart, List.dropWhile_cons, h] using ih
      · simp [trimStart, h]

/-- Taking blanks off the end leaves a prefix. -/
theorem trimEnd_isPrefix (s : List Char) : trimEnd s <+: s := by
  have h : s.reverse.dropWhile isBlank <:+ s.reverse := List.dropWhile_suffix isBlank
  simpa [trimEnd] using List.reverse_prefix.2 h

/-- The first character of what `trimEnd` leaves is the first of the text. -/
theorem head_trimEnd {s : List Char} {c : Char} (h : c ∈ (trimEnd s).head?) : c ∈ s.head? := by
  obtain ⟨t, ht⟩ := trimEnd_isPrefix s
  cases he : trimEnd s with
  | nil => simp [he] at h
  | cons d r =>
      rw [he] at h ht
      rw [← ht]
      simpa using h

/-- Taking the blanks off twice takes off no more. -/
theorem trim_trim (s : List Char) : trim (trim s) = trim s := by
  have h : trimStart (trim s) = trim s :=
    trimStart_eq_self fun c hc => isBlank_head_trimStart s c (head_trimEnd hc)
  rw [show trim (trim s) = trimEnd (trimStart (trim s)) from rfl, h]
  exact trimEnd_trimEnd _

theorem strip_strip (s : String) : strip (strip s) = strip s := by
  simp [strip, trim_trim]

end Stencil.Text
