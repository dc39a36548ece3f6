import MojoToolchain.Text.Substring

/-!
# Replacing a pattern

`Replaced` says what a text becomes when the leftmost occurrences of a pattern that do not overlap
are replaced in one pass, and `replaceAll` gives just that (`replaced_iff`).  In general the result
may have occurrences of its own, in what was inserted or across a seam.  It has none when the
replacement starts with a character that is not in the pattern and nowhere has the first character
of the pattern (`not_infix_of_replaced`).
-/

namespace MojoToolchain.Text

variable {pattern replacement s t : List Char}

/-- A text and what it becomes when the leftmost occurrences of a pattern that do not overlap are
replaced in one pass. -/
inductive Replaced (pattern replacement : List Char) : List Char → List Char → Prop where
  /-- The pattern does not occur. -/
  | kept {s : List Char} (absent : ¬ pattern <:+: s) : Replaced pattern replacement s s
  /-- The first occurrence of the pattern is replaced, and then those in the text after it. -/
  | replaced {before rest written : List Char} (first : ¬ pattern <:+: before ++ pattern.dropLast)
    (after : Replaced pattern replacement rest written) :
    Replaced pattern replacement (before ++ pattern ++ rest) (before ++ replacement ++ written)

theorem contains_iff :
  contains pattern s = true ↔ pattern <:+: s
  := by
  induction s with
  | nil => simp [contains]
  | cons c cs ih => simp [contains, ih, List.infix_cons_iff]

/-! ### The first occurrence -/

theorem prefix_append_dropLast (before pattern rest : List Char) :
  before ++ pattern.dropLast <+: before ++ pattern ++ rest
  := by
  rw [List.append_assoc]
  apply (List.prefix_append_right_inj before).mpr
  exact pattern.dropLast_prefix.trans (List.prefix_append pattern rest)

/-- A pattern does not start before its first occurrence. -/
theorem not_prefix_of_first {before : List Char} {c : Char}
    (h : ¬ pattern <:+: c :: before ++ pattern.dropLast) (rest : List Char) :
  ¬ pattern <+: c :: before ++ pattern ++ rest
  := by
  intro hstart
  have hshort := prefix_append_dropLast (c :: before) pattern rest
  apply h
  apply List.IsPrefix.isInfix
  apply List.prefix_of_prefix_length_le hstart hshort
  simp only [List.length_append, List.length_cons, List.length_dropLast]
  omega

/-- A pattern that occurs has a first occurrence. -/
theorem exists_first (hpattern : pattern ≠ []) (h : pattern <:+: s) :
  ∃ before rest, s = before ++ pattern ++ rest ∧ ¬ pattern <:+: before ++ pattern.dropLast
  := by
  induction s with
  | nil => exact absurd (List.infix_nil.mp h) hpattern
  | cons c cs ih =>
    by_cases hstart : pattern <+: c :: cs
    · obtain ⟨rest, hrest⟩ := hstart
      refine ⟨[], rest, hrest.symm, fun hinfix => ?_⟩
      have hlength := hinfix.length_le
      have hpos := List.length_pos_iff.mpr hpattern
      simp only [List.nil_append, List.length_dropLast] at hlength
      omega
    · have hlater := (List.infix_cons_iff.mp h).resolve_left hstart
      obtain ⟨before, rest, rfl, hfirst⟩ := ih hlater
      refine ⟨c :: before, rest, rfl, fun hinfix => ?_⟩
      rcases List.infix_cons_iff.mp hinfix with hearly | hinfix
      · exact hstart (hearly.trans (prefix_append_dropLast (c :: before) pattern rest))
      · exact hfirst hinfix

/-- Up to the first occurrence of a pattern everything is kept. -/
theorem replaceAll_first {before : List Char} (hpattern : pattern ≠ [])
    (h : ¬ pattern <:+: before ++ pattern.dropLast) (replacement rest : List Char) :
  replaceAll pattern replacement (before ++ pattern ++ rest)
    = before ++ replacement ++ replaceAll pattern replacement rest
  := by
  induction before with
  | nil => exact replaceAll_append hpattern replacement rest
  | cons c before ih =>
    have hlater : ¬ pattern <:+: before ++ pattern.dropLast := fun hinfix =>
      h (List.infix_cons_iff.mpr (.inr hinfix))
    have hstart := not_prefix_of_first h rest
    simp only [List.cons_append] at hstart ⊢
    rw [replaceAll_cons hstart, ih hlater]

/-! ### The result -/

theorem exists_replaced (hpattern : pattern ≠ []) (replacement s : List Char) :
  ∃ t, Replaced pattern replacement s t
  := by
  by_cases h : pattern <:+: s
  · -- What comes after an occurrence is no tail of the text, but it is shorter.
    obtain ⟨before, rest, hs, hfirst⟩ := exists_first hpattern h
    have hshorter : rest.length < s.length := by
      have hpos := List.length_pos_iff.mpr hpattern
      rw [hs]
      simp only [List.length_append]
      omega
    obtain ⟨written, hwritten⟩ := exists_replaced hpattern replacement rest
    rw [hs]
    exact ⟨_, .replaced hfirst hwritten⟩
  · exact ⟨s, .kept h⟩
termination_by s.length

theorem replaceAll_of_replaced (hpattern : pattern ≠ [])
    (h : Replaced pattern replacement s t) :
  replaceAll pattern replacement s = t
  := by
  induction h with
  | kept absent => exact replaceAll_of_not_contains (by simpa [← contains_iff] using absent) _
  | replaced first _ ih => rw [replaceAll_first hpattern first, ih]

/-- The result of replacing a pattern is what `replaceAll` gives. -/
theorem replaced_iff (hpattern : pattern ≠ []) :
  Replaced pattern replacement s t ↔ replaceAll pattern replacement s = t
  := by
  constructor
  · apply replaceAll_of_replaced hpattern
  · rintro rfl
    obtain ⟨t, ht⟩ := exists_replaced hpattern replacement s
    rwa [replaceAll_of_replaced hpattern ht]

/-! ### Seams -/

/-- A pattern without a certain character that starts before it also ends before it. -/
theorem prefix_of_prefix_append_cons {c : Char} (hc : c ∉ pattern)
    (h : pattern <+: s ++ c :: t) :
  pattern <+: s
  := by
  rcases List.prefix_or_prefix_of_prefix h (List.prefix_append s (c :: t)) with hs | ⟨u, rfl⟩
  · exact hs
  · have hu : u <+: c :: t := (List.prefix_append_right_inj s).mp h
    rcases List.prefix_cons_iff.mp hu with rfl | ⟨_, rfl, -⟩
    · simp
    · simp at hc

/-- It occurs on one side of the character or on the other. -/
theorem infix_append_cons {c : Char} (hc : c ∉ pattern) (h : pattern <:+: s ++ c :: t) :
  pattern <:+: s ∨ pattern <:+: t
  := by
  induction s with
  | nil =>
    rcases List.infix_cons_iff.mp h with hstart | ht
    · exact .inl (prefix_of_prefix_append_cons hc hstart).isInfix
    · exact .inr ht
  | cons a s ih =>
    rcases List.infix_cons_iff.mp h with hstart | hlater
    · exact .inl (prefix_of_prefix_append_cons hc hstart).isInfix
    · exact (ih hlater).imp_left fun hs => List.infix_cons_iff.mpr (.inr hs)

/-- A pattern does not start where its first character is missing. -/
theorem infix_of_infix_append {c : Char} {rest : List Char} (hc : c ∉ s)
    (h : c :: rest <:+: s ++ t) :
  c :: rest <:+: t
  := by
  induction s with
  | nil => exact h
  | cons a s ih =>
    rw [List.mem_cons, not_or] at hc
    rcases List.infix_cons_iff.mp h with hstart | hlater
    · exact absurd (List.cons_prefix_cons.mp hstart).1 hc.1
    · exact ih hc.2 hlater

/-- What is inserted makes no occurrence, neither by itself nor with what stands around it, when it
starts with a character that is not in the pattern and has not the first one of the pattern. -/
theorem not_infix_of_replaced {c d : Char} {others rest : List Char} (hd : d ∉ c :: others)
    (hc : c ∉ d :: rest) (h : Replaced (c :: others) (d :: rest) s t) :
  ¬ c :: others <:+: t
  := by
  induction h with
  | kept absent => exact absent
  | @replaced before _ written first _ ih =>
    intro hinfix
    rw [List.append_assoc, List.cons_append] at hinfix
    rcases infix_append_cons hd hinfix with hbefore | hafter
    · exact first (hbefore.trans (List.infix_append' [] before _))
    · exact ih (infix_of_infix_append (fun hrest => hc (List.mem_cons_of_mem d hrest)) hafter)

end MojoToolchain.Text
