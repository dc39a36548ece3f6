/-!
# Occurrences inside a text

`contains`, `splitAtFirst` and `replaceAll` look for a pattern inside a text, from left to
right and without overlap.
-/

namespace MojoToolchain.Text

/-- The pattern occurs somewhere in the text. -/
def contains [BEq α] (pattern : List α) : List α → Bool
  | [] => pattern.isEmpty
  | c :: cs => pattern.isPrefixOf (c :: cs) || contains pattern cs

/-- `contains` on strings. -/
def containsString (pattern text : String) : Bool :=
  contains pattern.toList text.toList

/-- A text as the part before the first `mark` and the part after it. -/
def splitAtFirst [BEq α] (mark : α) : List α → Option (List α × List α)
  | [] => none
  | c :: cs =>
    if c == mark then some ([], cs)
    else (splitAtFirst mark cs).map fun (before, after) => (c :: before, after)

theorem splitAtFirst_eq_none_iff [BEq α] [LawfulBEq α] {mark : α} {s : List α} :
  splitAtFirst mark s = none ↔ mark ∉ s
  := by
  induction s with
  | nil => simp [splitAtFirst]
  | cons c cs ih =>
    rw [splitAtFirst]
    split
    case isTrue h => simp [eq_of_beq h]
    case isFalse h =>
      have hne : mark ≠ c := fun heq => h (beq_iff_eq.mpr heq.symm)
      simp [ih, hne]

theorem splitAtFirst_eq_some [BEq α] [LawfulBEq α] {mark : α} {s before after : List α}
    (h : splitAtFirst mark s = some (before, after)) :
  s = before ++ mark :: after ∧ mark ∉ before
  := by
  induction s generalizing before with
  | nil => cases h
  | cons c cs ih =>
    rw [splitAtFirst] at h
    split at h
    case isTrue hc =>
      cases h
      simp [eq_of_beq hc]
    case isFalse hc =>
      obtain ⟨⟨before', after'⟩, hsplit, heq⟩ := Option.map_eq_some_iff.mp h
      cases heq
      obtain ⟨rfl, hmark⟩ := ih hsplit
      have hne : mark ≠ c := fun heq => hc (beq_iff_eq.mpr heq.symm)
      simp [hmark, hne]

/-- Replaces the leftmost occurrences of `pattern` that do not overlap; `pending` counts the
characters of the last occurrence that are still to be passed over. -/
private def replaceFrom (pattern replacement : List Char) : Nat → List Char → List Char
  | _, [] => []
  | pending + 1, _ :: cs => replaceFrom pattern replacement pending cs
  | 0, c :: cs =>
    if pattern.isPrefixOf (c :: cs) then
      replacement ++ replaceFrom pattern replacement (pattern.length - 1) cs
    else c :: replaceFrom pattern replacement 0 cs

/-- Every leftmost occurrence of a non-empty `pattern`, replaced in one pass: inserted text is
not looked at again. -/
def replaceAll (pattern replacement s : List Char) : List Char :=
  replaceFrom pattern replacement 0 s

/-- `replaceAll` on strings. -/
def replaceAllString (pattern replacement s : String) : String :=
  String.ofList (replaceAll pattern.toList replacement.toList s.toList)

theorem replaceAll_nil (pattern replacement : List Char) :
  replaceAll pattern replacement [] = []
  := rfl

private theorem replaceFrom_append (pattern replacement passed rest : List Char) :
  replaceFrom pattern replacement passed.length (passed ++ rest)
    = replaceFrom pattern replacement 0 rest
  := by
  induction passed with
  | nil => rfl
  | cons c cs ih => exact ih

/-- Where the pattern starts its replacement is written, and the rest is looked at. -/
theorem replaceAll_append {pattern : List Char} (h : pattern ≠ [])
    (replacement rest : List Char) :
  replaceAll pattern replacement (pattern ++ rest)
    = replacement ++ replaceAll pattern replacement rest
  := by
  cases pattern with
  | nil => exact absurd rfl h
  | cons c cs =>
    rw [replaceAll, List.cons_append, replaceFrom, if_pos (by simp)]
    exact congrArg (replacement ++ ·) (replaceFrom_append (c :: cs) replacement cs rest)

/-- Where the pattern does not start a character is kept, and the rest is looked at. -/
theorem replaceAll_cons {pattern cs : List Char} {c : Char} (h : ¬ pattern <+: c :: cs)
    (replacement : List Char) :
  replaceAll pattern replacement (c :: cs) = c :: replaceAll pattern replacement cs
  := by
  rw [replaceAll, replaceFrom, if_neg (by rwa [List.isPrefixOf_iff_prefix])]
  rfl

/-- The pattern itself becomes what is written for it. -/
theorem replaceAll_self {pattern : List Char} (h : pattern ≠ []) (replacement : List Char) :
  replaceAll pattern replacement pattern = replacement
  := by
  simpa [replaceAll_nil] using replaceAll_append h replacement []

/-- Where the pattern does not occur nothing is replaced. -/
theorem replaceAll_of_not_contains {pattern s : List Char} (h : contains pattern s = false)
    (replacement : List Char) :
  replaceAll pattern replacement s = s
  := by
  induction s with
  | nil => rfl
  | cons c cs ih =>
    rw [contains, Bool.or_eq_false_iff] at h
    have hstart : ¬ pattern <+: c :: cs := by simp [← List.isPrefixOf_iff_prefix, h.1]
    rw [replaceAll_cons hstart, ih h.2]

private theorem length_replaceFrom_le (pattern s : List Char) (pending : Nat) :
  (replaceFrom pattern [] pending s).length ≤ s.length
  := by
  induction s generalizing pending with
  | nil => simp [replaceFrom]
  | cons c cs ih =>
    cases pending with
    | zero =>
      rw [replaceFrom]
      split
      · exact Nat.le_succ_of_le (ih _)
      · exact Nat.succ_le_succ (ih 0)
    | succ pending => exact Nat.le_succ_of_le (ih pending)

/-- Where the pattern occurs something is left out when nothing is written for it. -/
theorem length_replaceAll_lt {pattern s : List Char} (hp : pattern ≠ [])
    (h : contains pattern s = true) :
  (replaceAll pattern [] s).length < s.length
  := by
  induction s with
  | nil => simp [contains, hp] at h
  | cons c cs ih =>
    rw [contains, Bool.or_eq_true] at h
    rw [replaceAll, replaceFrom]
    split
    case isTrue => exact Nat.lt_succ_of_le (length_replaceFrom_le _ _ _)
    case isFalse hnot => exact Nat.succ_lt_succ (ih (h.resolve_left hnot))

end MojoToolchain.Text
