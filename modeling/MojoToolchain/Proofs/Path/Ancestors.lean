import Mathlib.Data.List.DropRight
import MojoToolchain.Proofs.Path.Resolution

/-!
# Going up

The parent of a path is the path without its last component (`parent?_cases`).  So going up ends
at the root or, from a relative path, at the empty path, and what is passed on the way are the
paths that come before the path in its components (`components_rise`).  `ancestors` lists all of
them: its bound is never reached (`getElem?_ancestors`).
-/

namespace MojoToolchain.Path

variable {p q : Path} {pieces : List (List Char)}

/-! ### Pieces -/

theorem componentsOf_concat (pieces : List (List Char)) (last : List Char) :
  componentsOf (pieces ++ [last])
    = componentsOf pieces ++ if isIdle last then [] else [ofPiece last]
  := by
  simp only [componentsOf, List.filter_append, List.map_append]
  cases h : isIdle last <;> simp [h]

theorem ofPiece_ne_root (piece : List Char) :
  ofPiece piece ≠ .root
  := by
  unfold ofPiece
  split <;> simp

theorem root_notMem_componentsOf (pieces : List (List Char)) :
  .root ∉ componentsOf pieces
  := by
  intro h
  obtain ⟨piece, -, hpiece⟩ := List.mem_map.mp h
  exact ofPiece_ne_root piece hpiece

theorem isPrefix_dropIdleEnd (pieces : List (List Char)) :
  dropIdleEnd pieces <+: pieces
  := List.rdropWhile_prefix isIdle pieces

theorem dropIdleEnd_concat (pieces : List (List Char)) (last : List Char) :
  dropIdleEnd (pieces ++ [last]) = if isIdle last then dropIdleEnd pieces else pieces ++ [last]
  := List.rdropWhile_concat isIdle pieces last

theorem componentsOf_dropIdleEnd (pieces : List (List Char)) :
  componentsOf (dropIdleEnd pieces) = componentsOf pieces
  := by
  induction pieces using List.reverseRecOn with
  | nil => rfl
  | append_singleton pieces last ih =>
    rw [dropIdleEnd_concat]
    split
    case isTrue h => rw [ih, componentsOf_concat, if_pos h, List.append_nil]
    case isFalse => rfl

/-- Pieces without the idle ones at their end end in a piece that is not idle. -/
theorem dropIdleEnd_cases (pieces : List (List Char)) :
  dropIdleEnd pieces = []
    ∨ ∃ front last, dropIdleEnd pieces = front ++ [last] ∧ isIdle last = false
  := by
  induction pieces using List.reverseRecOn with
  | nil => exact .inl rfl
  | append_singleton pieces last ih =>
    rw [dropIdleEnd_concat]
    split
    case isTrue => exact ih
    case isFalse h => exact .inr ⟨pieces, last, rfl, by simpa using h⟩

/-- All of the pieces are idle if they stand for nothing. -/
theorem dropIdleEnd_eq_nil (h : componentsOf pieces = []) :
  dropIdleEnd pieces = []
  := by
  rcases dropIdleEnd_cases pieces with hnil | ⟨front, last, hlast, hidle⟩
  · exact hnil
  · rw [← componentsOf_dropIdleEnd, hlast, componentsOf_concat, hidle] at h
    simp at h

/-- A text that a path goes on from with a separator, or at which it ends. -/
def CutFrom (t body : List Char) : Prop := t = [] ∨ t = body ∨ ∃ u, body = t ++ '/' :: u

theorem CutFrom.isPrefix {t body : List Char} (h : CutFrom t body) :
  t <+: body
  := by
  rcases h with rfl | rfl | ⟨u, rfl⟩
  · exact List.nil_prefix
  · exact List.prefix_rfl
  · exact List.prefix_append t _

theorem joinPieces_append {front rest : List (List Char)} (hfront : front ≠ [])
    (hrest : rest ≠ []) :
  joinPieces (front ++ rest) = joinPieces front ++ '/' :: joinPieces rest
  := by
  induction front with
  | nil => contradiction
  | cons piece front ih =>
    cases front with
    | nil =>
      obtain ⟨next, rest, rfl⟩ := List.exists_cons_of_ne_nil hrest
      simp [joinPieces]
    | cons next front => simpa [joinPieces] using ih (List.cons_ne_nil next front)

/-- The first pieces of a text are cut from it. -/
theorem cutFrom_joinPieces {front : List (List Char)} {body : List Char}
    (h : front <+: body.splitOn '/') :
  CutFrom (joinPieces front) body
  := by
  obtain ⟨rest, hrest⟩ := h
  have hbody : joinPieces (front ++ rest) = body := hrest ▸ List.intercalate_splitOn '/'
  by_cases hfront : front = []
  · rw [hfront]
    exact .inl rfl
  by_cases hnil : rest = []
  · rw [hnil, List.append_nil] at hbody
    exact .inr (.inl hbody)
  · exact .inr (.inr ⟨joinPieces rest, by rw [← hbody, joinPieces_append hfront hnil]⟩)

/-! ### Heads -/

theorem headBody_append (s : List Char) :
  (headBody s).1 ++ (headBody s).2 = s
  := by
  fun_cases headBody s <;> rfl

/-- What is cut from the body of a path stays a body behind the head of the path. -/
theorem headBody_of_cutFrom {s head body t : List Char} (hs : headBody s = (head, body))
    (h : CutFrom t body) :
  headBody (head ++ t) = (head, t)
  := by
  fun_cases headBody s with
  | case1 =>
    obtain ⟨rfl, -⟩ := Prod.mk.inj hs
    rfl
  | case2 =>
    obtain ⟨rfl, rfl⟩ := Prod.mk.inj hs
    obtain rfl : t = [] := List.prefix_nil.mp h.isPrefix
    rfl
  | case3 =>
    obtain ⟨rfl, rfl⟩ := Prod.mk.inj hs
    rcases List.prefix_cons_iff.mp h.isPrefix with rfl | ⟨u, rfl, -⟩
    · rfl
    · rfl
  | case4 _ hroot hdot hhere =>
    rw [headBody.eq_4 s hroot hdot hhere] at hs
    obtain ⟨rfl, rfl⟩ := Prod.mk.inj hs
    rcases h with rfl | rfl | ⟨u, rfl⟩
    · rfl
    · exact headBody.eq_4 t hroot hdot hhere
    · -- A text that starts like another path would make the whole one start like it.
      apply headBody.eq_4 t
      · rintro v rfl
        exact hroot _ rfl
      · rintro rfl
        exact hhere _ rfl
      · rintro v rfl
        exact hhere _ rfl

/-- What stands before the body of a path. -/
theorem head_cases (s : List Char) :
  (headBody s).1 = [] ∨ (headBody s).1 = ['/'] ∨ (headBody s).1 = ['.']
  := by
  fun_cases headBody s with
  | case1 => exact .inr (.inl rfl)
  | case2 => exact .inr (.inr rfl)
  | case3 => exact .inr (.inr rfl)
  | case4 => exact .inl rfl

/-! ### Parents -/

/-- A path is the parent of another one: it has all of its components but the last one, and its
text is the start of that of the other one, with nothing idle at the end. -/
structure IsParent (q p : Path) : Prop where
  components : ∃ c, c ≠ .root ∧ p.components = q.components ++ [c]
  isPrefix_chars : q.chars <+: p.chars
  eq_root : q.components = [.root] → q = ⟨"/"⟩
  eq_empty : q.components = [] → q = ⟨""⟩

section

variable {head body : List Char} (hs : headBody p.chars = (head, body))

include hs

theorem components_of_headBody :
  p.components = headComponents head ++ componentsOf (body.splitOn '/')
  := by
  rw [components, hs]
  rfl

theorem parent?_of_idle (hidle : dropIdleEnd (body.splitOn '/') = []) :
  p.parent? = if head == ['.'] then some ⟨""⟩ else none
  := by
  rw [parent?, hs]
  simp only [hidle]

theorem parent?_of_concat {front : List (List Char)} {last : List Char}
    (hpieces : dropIdleEnd (body.splitOn '/') = front ++ [last]) :
  p.parent? = some (ofChars (head ++ joinPieces (dropIdleEnd front)))
  := by
  rw [parent?, hs]
  simp only [hpieces]
  split
  case _ hnil => simp at hnil
  case _ => rw [List.dropLast_concat]

/-- The path of the pieces before the last one that is not idle. -/
theorem isParent_of_concat {front : List (List Char)} {last : List Char}
    (hpieces : dropIdleEnd (body.splitOn '/') = front ++ [last]) (hlast : isIdle last = false) :
  (ofChars (head ++ joinPieces (dropIdleEnd front))).IsParent p
  := by
  have hfirst : dropIdleEnd front <+: body.splitOn '/' := by
    have hfront : front <+: dropIdleEnd (body.splitOn '/') := hpieces ▸ List.prefix_append front _
    exact ((isPrefix_dropIdleEnd front).trans hfront).trans (isPrefix_dropIdleEnd _)
  have hcut := cutFrom_joinPieces hfirst
  have hunparted : ∀ piece ∈ dropIdleEnd front, '/' ∉ piece := fun piece hpiece =>
    not_mem_of_mem_splitOn (hfirst.subset hpiece)
  have hchars : (ofChars (head ++ joinPieces (dropIdleEnd front))).chars
      = head ++ joinPieces (dropIdleEnd front) := String.toList_ofList
  have hcomponents : (ofChars (head ++ joinPieces (dropIdleEnd front))).components
      = headComponents head ++ componentsOf front := by
    rw [components, hchars, headBody_of_cutFrom hs hcut]
    simp only [bodyComponents_joinPieces hunparted, componentsOf_dropIdleEnd]
  have hbare (h : componentsOf front = []) :
      ofChars (head ++ joinPieces (dropIdleEnd front)) = ofChars head := by
    rw [dropIdleEnd_eq_nil h]
    exact congrArg ofChars (List.append_nil head)
  have hhead := head_cases p.chars
  rw [hs] at hhead
  constructor
  · refine ⟨ofPiece last, ofPiece_ne_root last, ?_⟩
    rw [components_of_headBody hs, ← componentsOf_dropIdleEnd, hpieces, componentsOf_concat,
      hcomponents, hlast, List.append_assoc]
    rfl
  · have happend := headBody_append p.chars
    rw [hs] at happend
    rw [hchars, ← happend]
    exact (List.prefix_append_right_inj head).mpr hcut.isPrefix
  · intro h
    rw [hcomponents] at h
    rcases hhead with rfl | rfl | rfl
    · have hroot : .root ∈ componentsOf front := (show componentsOf front = [.root] from h) ▸
        List.mem_cons_self
      exact absurd hroot (root_notMem_componentsOf front)
    · rw [hbare (List.cons.inj h).2]
      rfl
    · simp [headComponents] at h
  · intro h
    rw [hcomponents] at h
    rcases hhead with rfl | rfl | rfl
    · rw [hbare h]
      rfl
    · simp [headComponents] at h
    · simp [headComponents] at h

end

/-- A path that has components other than the root has a parent. -/
theorem parent?_cases (p : Path) :
  (p.parent? = none ∧ (p.components = [] ∨ p.components = [.root]))
    ∨ ∃ q, p.parent? = some q ∧ q.IsParent p
  := by
  cases hs : headBody p.chars with
  | mk head body =>
    rcases dropIdleEnd_cases (body.splitOn '/') with hidle | ⟨front, last, hpieces, hlast⟩
    · have hcomponents := components_of_headBody hs
      rw [← componentsOf_dropIdleEnd, hidle] at hcomponents
      rw [parent?_of_idle hs hidle]
      have hhead := head_cases p.chars
      rw [hs] at hhead
      rcases hhead with rfl | rfl | rfl
      · exact .inl ⟨rfl, .inl hcomponents⟩
      · exact .inl ⟨rfl, .inr hcomponents⟩
      · refine .inr ⟨⟨""⟩, rfl, ⟨.here, by simp, hcomponents⟩, List.nil_prefix, ?_, fun _ => rfl⟩
        intro h
        contradiction
    · exact .inr ⟨_, parent?_of_concat hs hpieces, isParent_of_concat hs hpieces hlast⟩

theorem parent?_eq_none_iff :
  p.parent? = none ↔ p.components = [] ∨ p.components = [.root]
  := by
  rcases parent?_cases p with ⟨hnone, h⟩ | ⟨q, hsome, hparent⟩
  · exact iff_of_true hnone h
  · obtain ⟨c, hc, hcomponents⟩ := hparent.components
    refine iff_of_false (by simp [hsome]) ?_
    rw [hcomponents]
    rintro (h | h)
    · simp at h
    · obtain ⟨-, hroot⟩ := (List.append_eq_singleton_iff.mp h).resolve_right (by simp)
      exact hc (List.singleton_inj.mp hroot)

theorem isParent_of_parent? (h : p.parent? = some q) :
  q.IsParent p
  := by
  rcases parent?_cases p with ⟨hnone, -⟩ | ⟨r, hsome, hparent⟩
  · rw [hnone] at h
    contradiction
  · rw [hsome] at h
    rwa [← Option.some.inj h]

namespace IsParent

theorem isPrefix_components (h : q.IsParent p) :
  q.components <+: p.components
  := by
  obtain ⟨c, -, hcomponents⟩ := h.components
  rw [hcomponents]
  exact List.prefix_append q.components [c]

/-- The text of a parent is shorter. -/
theorem length_lt (h : q.IsParent p) :
  q.chars.length < p.chars.length
  := by
  refine Nat.lt_of_le_of_ne h.isPrefix_chars.length_le ?_
  intro hlength
  -- A path with the same text would have the same components.
  have hpath : q = p := ext_chars (h.isPrefix_chars.eq_of_length hlength)
  obtain ⟨c, -, hcomponents⟩ := h.components
  simp [hpath] at hcomponents

theorem isAbsolute_eq (h : q.IsParent p) :
  q.isAbsolute = p.isAbsolute
  := by
  obtain ⟨c, hc, hcomponents⟩ := h.components
  rw [← contains_root_components, ← contains_root_components, hcomponents]
  simp [Ne.symm hc]

end IsParent

/-! ### Ancestors -/

/-- The path that going up from a path so many times leads to. -/
def rise (p : Path) : Nat → Option Path
  | 0 => some p
  | n + 1 => p.parent?.bind fun q => q.rise n

theorem rise_one (p : Path) :
  p.rise 1 = p.parent?
  := Option.bind_fun_some p.parent?

theorem rise_succ_of_none (h : p.parent? = none) (n : Nat) :
  p.rise (n + 1) = none
  := by
  simp [rise, h]

theorem rise_succ_of_some (h : p.parent? = some q) (n : Nat) :
  p.rise (n + 1) = q.rise n
  := by
  simp [rise, h]

/-- A bound on the length of the text is not reached, as each parent has a shorter one. -/
theorem getElem?_climb {bound : Nat} (hbound : p.chars.length ≤ bound) (n : Nat) :
  (ancestors.climb bound p)[n]? = p.rise (n + 1)
  := by
  induction bound generalizing p n with
  | zero =>
    have hnone : p.parent? = none := by
      have hempty : p.chars = [] := List.length_eq_zero_iff.mp (Nat.le_zero.mp hbound)
      exact parent?_eq_none_iff.mpr (.inl (by rw [components, hempty]; rfl))
    rw [rise_succ_of_none hnone]
    rfl
  | succ bound ih =>
    cases hparent : p.parent? with
    | none =>
      rw [rise_succ_of_none hparent, ancestors.climb, hparent]
      rfl
    | some q =>
      have hlt := (isParent_of_parent? hparent).length_lt
      rw [rise_succ_of_some hparent, ancestors.climb, hparent]
      cases n with
      | zero => rfl
      | succ n => exact ih (by omega) n

/-- `ancestors` lists the paths that going up leads to, and there are no others. -/
theorem getElem?_ancestors (p : Path) (n : Nat) :
  p.ancestors[n]? = p.rise (n + 1)
  := getElem?_climb (Nat.le_refl _) n

/-- Going up for ever leads nowhere. -/
theorem rise_length_ancestors (p : Path) :
  p.rise (p.ancestors.length + 1) = none
  := by
  rw [← getElem?_ancestors]
  exact List.getElem?_eq_none (Nat.le_refl _)

/-- What is further up comes before in the components. -/
theorem components_rise {n : Nat} (h : p.rise n = some q) :
  q.components <+: p.components
  := by
  induction n generalizing p with
  | zero =>
    obtain rfl := Option.some.inj h
    exact List.prefix_rfl
  | succ n ih =>
    obtain ⟨r, hr, hq⟩ := Option.bind_eq_some_iff.mp h
    exact (ih hq).trans (isParent_of_parent? hr).isPrefix_components

theorem rise_add {n : Nat} (h : p.rise n = some q) (m : Nat) :
  p.rise (n + m) = q.rise m
  := by
  induction n generalizing p with
  | zero =>
    obtain rfl := Option.some.inj h
    rw [Nat.zero_add]
  | succ n ih =>
    obtain ⟨r, hr, hq⟩ := Option.bind_eq_some_iff.mp h
    rw [Nat.add_right_comm, rise_succ_of_some hr, ih hq]

theorem isAbsolute_rise {n : Nat} (h : p.rise n = some q) :
  q.isAbsolute = p.isAbsolute
  := by
  induction n generalizing p with
  | zero => rw [Option.some.inj h]
  | succ n ih =>
    obtain ⟨r, hr, hq⟩ := Option.bind_eq_some_iff.mp h
    rw [ih hq, (isParent_of_parent? hr).isAbsolute_eq]

theorem exists_rise {n : Nat} (h : p.rise (n + 1) = some q) :
  ∃ r, p.rise n = some r ∧ r.parent? = some q
  := by
  induction n generalizing p with
  | zero => exact ⟨p, rfl, by rwa [rise_one] at h⟩
  | succ n ih =>
    obtain ⟨s, hs, hq⟩ := Option.bind_eq_some_iff.mp h
    obtain ⟨r, hr, hparent⟩ := ih hq
    exact ⟨r, by rw [rise_succ_of_some hs, hr], hparent⟩

/-- Going up ends at the root or, from a relative path, at the empty path. -/
theorem eq_top {n : Nat} (h : p.rise (n + 1) = some q) (hnone : q.parent? = none) :
  q = if p.isAbsolute then ⟨"/"⟩ else ⟨""⟩
  := by
  obtain ⟨r, -, hr⟩ := exists_rise h
  have hparent := isParent_of_parent? hr
  rw [← isAbsolute_rise h]
  rcases parent?_eq_none_iff.mp hnone with hempty | hroot
  · rw [hparent.eq_empty hempty]
    rfl
  · rw [hparent.eq_root hroot]
    rfl

/-! ### Below a path -/

theorem strip_isSome_iff (rest base : List Component) :
  (below?.strip rest base).isSome ↔ base <+: rest
  := by
  fun_induction below?.strip rest base with
  | case1 => simp
  | case2 => simp
  | case3 a as b bs h ih =>
    obtain rfl := eq_of_beq h
    simpa using ih
  | case4 a as b bs h =>
    have hne : b ≠ a := fun heq => h (beq_iff_eq.mpr heq.symm)
    simp [hne]

theorem startsWith_iff_prefix :
  p.startsWith q ↔ q.components <+: p.components
  := strip_isSome_iff p.components q.components

end MojoToolchain.Path
