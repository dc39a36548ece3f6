/-!
# Blank characters

`isBlank` is the Unicode property `White_Space`.  `trim` drops the blank characters at both
ends of a text; what it leaves starts and ends with characters that are not blank.
-/

namespace MojoToolchain.Text

/-- The characters with the Unicode property `White_Space`. -/
def isBlank (c : Char) : Bool :=
  let n := c.toNat
  (9 ≤ n && n ≤ 13) || n == 0x20 || n == 0x85 || n == 0xA0 || n == 0x1680
    || (0x2000 ≤ n && n ≤ 0x200A) || n == 0x2028 || n == 0x2029 || n == 0x202F
    || n == 0x205F || n == 0x3000

/-- A text without the blank characters at its start. -/
def trimStart (s : List Char) : List Char := s.dropWhile isBlank

/-- A text without the blank characters at its end. -/
def trimEnd (s : List Char) : List Char := (s.reverse.dropWhile isBlank).reverse

/-- A text without the blank characters at both ends. -/
def trim (s : List Char) : List Char := trimEnd (trimStart s)

/-- `trim` on strings. -/
def trimString (s : String) : String := String.ofList (trim s.toList)

theorem isBlank_of_isWhitespace {c : Char} (h : c.isWhitespace) :
  isBlank c
  := by
  simp only [Char.isWhitespace, Bool.or_eq_true, decide_eq_true_eq] at h
  rcases h with (((h | h) | h) | h) <;> subst h <;> decide

theorem trim_nil :
  trim [] = []
  := rfl

/-- A text that is not blank at its start is kept. -/
theorem trimStart_eq_self {s : List Char} (h : ∀ c ∈ s.head?, isBlank c = false) :
  trimStart s = s
  := by
  cases s with
  | nil => rfl
  | cons c cs => exact List.dropWhile_cons_of_neg (by simp [h c rfl])

/-- A text that is not blank at its end is kept. -/
theorem trimEnd_eq_self {s : List Char} (h : ∀ c ∈ s.getLast?, isBlank c = false) :
  trimEnd s = s
  := by
  have hreverse : trimStart s.reverse = s.reverse := trimStart_eq_self (by rwa [List.head?_reverse])
  rw [trimEnd, ← trimStart, hreverse, List.reverse_reverse]

theorem trim_eq_self {s : List Char} (hstart : ∀ c ∈ s.head?, isBlank c = false)
    (hstop : ∀ c ∈ s.getLast?, isBlank c = false) :
  trim s = s
  := by
  rw [trim, trimStart_eq_self hstart, trimEnd_eq_self hstop]

theorem length_trim_le (s : List Char) :
  (trim s).length ≤ s.length
  := by
  have hstart := (List.dropWhile_sublist (l := s) isBlank).length_le
  have hstop := (List.dropWhile_sublist (l := (trimStart s).reverse) isBlank).length_le
  rw [List.length_reverse] at hstop
  rw [trim, trimEnd, List.length_reverse]
  exact Nat.le_trans hstop hstart

end MojoToolchain.Text
