import Mathlib.Data.Option.Basic
import MojoToolchain.Version

/-!
# The form of a version

A version is a number, one group or more and any number of suffixes (`Dotted`).  Read character
by character it passes from one part to the next (`Moves`), and `Completes` says what may follow
in each part.  `ahead` goes through a text from its end and finds something for a part exactly if
the text completes it up to the end of a word (`exists_of_length?`, `isSome_length?`).  A version
stops only where it cannot go on, so that what consists of suffixes is taken as a whole
(`length?_eq`).
-/

namespace MojoToolchain.Version

variable {c : Char} {w cs post : List Char}

/-! ### Versions as they are written -/

/-- One character of a kind or more. -/
def Run (kind : Char → Bool) (cs : List Char) : Prop := cs ≠ [] ∧ ∀ c ∈ cs, kind c

/-- The groups of a version, each behind a point. -/
def groupsText (groups : List (List Char)) : List Char := groups.flatMap fun g => '.' :: g

/-- The suffixes of a version, each behind its mark. -/
def suffixesText (suffixes : List (Char × List Char)) : List Char :=
  suffixes.flatMap fun s => s.1 :: s.2

/-- Groups and suffixes of the right form; `digit` says what counts as a digit. -/
structure WellFormed (digit : Char → Bool) (groups : List (List Char))
    (suffixes : List (Char × List Char)) : Prop where
  groups : ∀ g ∈ groups, Run digit g
  suffixes : ∀ s ∈ suffixes, isSuffixMark s.1 ∧ Run isSuffixChar s.2

/-- A number, one group or more, and suffixes. -/
def Dotted (digit : Char → Bool) (w : List Char) : Prop :=
  ∃ number groups suffixes, Run digit number ∧ groups ≠ [] ∧ WellFormed digit groups suffixes
    ∧ w = number ++ (groupsText groups ++ suffixesText suffixes)

/-! ### Versions read character by character -/

/-- The parts of a version, by what stands before a place in it. -/
inductive Part where
  | start
  | number
  | point
  | group
  | mark
  | suffix
  deriving DecidableEq

/-- A character leads from one part of a version to another. -/
inductive Moves : Part → Char → Part → Prop
  | start {c : Char} (hc : Text.isDecimalDigit c) : Moves .start c .number
  | number {c : Char} (hc : Text.isDecimalDigit c) : Moves .number c .number
  | firstPoint : Moves .number '.' .point
  | point {c : Char} (hc : Text.isDecimalDigit c) : Moves .point c .group
  | group {c : Char} (hc : Text.isDecimalDigit c) : Moves .group c .group
  | nextPoint : Moves .group '.' .point
  | firstMark {c : Char} (hc : isSuffixMark c) : Moves .group c .mark
  | mark {c : Char} (hc : isSuffixChar c) : Moves .mark c .suffix
  | suffix {c : Char} (hc : isSuffixChar c) : Moves .suffix c .suffix
  | nextMark {c : Char} (hc : isSuffixMark c) : Moves .suffix c .mark

/-- A version may end here. -/
inductive Final : Part → Prop
  | group : Final .group
  | suffix : Final .suffix

/-- A text completes a version from a part on. -/
inductive Completes : Part → List Char → Prop
  | done {p : Part} (hp : Final p) : Completes p []
  | move {p q : Part} {c : Char} {cs : List Char} (hc : Moves p c q) :
      Completes q cs → Completes p (c :: cs)

namespace Completes

variable {p q : Part}

theorem loop (hloop : ∀ c ∈ w, Moves q c q) (h : Completes q cs) :
  Completes q (w ++ cs)
  := by
  induction w with
  | nil => exact h
  | cons c w ih =>
    rw [List.forall_mem_cons] at hloop
    exact .move hloop.1 (ih hloop.2)

/-- The first character of a run leads to the part in which the others stay. -/
theorem run {kind : Char → Bool} (hfirst : ∀ c, kind c → Moves p c q)
    (hloop : ∀ c, kind c → Moves q c q) (hw : Run kind w) (h : Completes q cs) :
  Completes p (w ++ cs)
  := by
  obtain ⟨hne, hall⟩ := hw
  obtain ⟨c, w, rfl⟩ := List.exists_cons_of_ne_nil hne
  rw [List.forall_mem_cons] at hall
  exact .move (hfirst c hall.1) (h.loop fun d hd => hloop d (hall.2 d hd))

theorem suffixes {suffixes : List (Char × List Char)} (hp : Final p)
    (h : ∀ s ∈ suffixes, isSuffixMark s.1 ∧ Run isSuffixChar s.2) :
  Completes p (suffixesText suffixes)
  := by
  induction suffixes generalizing p with
  | nil => exact .done hp
  | cons s suffixes ih =>
    rw [List.forall_mem_cons] at h
    have hrest : Completes .mark (s.2 ++ suffixesText suffixes) :=
      run (fun _ => .mark) (fun _ => .suffix) h.1.2 (ih .suffix h.2)
    cases hp with
    | group => exact .move (.firstMark h.1.1) hrest
    | suffix => exact .move (.nextMark h.1.1) hrest

theorem groups {groups : List (List Char)} (h : ∀ g ∈ groups, Run Text.isDecimalDigit g)
    (hcs : Completes .group cs) :
  Completes .group (groupsText groups ++ cs)
  := by
  induction groups with
  | nil => exact hcs
  | cons g groups ih =>
    rw [List.forall_mem_cons] at h
    rw [groupsText, List.flatMap_cons, List.append_assoc]
    exact .move .nextPoint (run (fun _ => .point) (fun _ => .group) h.1 (ih h.2))

/-- In a suffix it does not matter whether its mark stands right before. -/
theorem of_mark (h : Completes .mark cs) :
  Completes .suffix cs
  := by
  cases h with
  | done hp => cases hp
  | move hc h =>
    cases hc with
    | mark hc => exact .move (.suffix hc) h

end Completes

/-! ### The two forms agree -/

theorem Dotted.completes (h : Dotted Text.isDecimalDigit w) :
  Completes .start w
  := by
  obtain ⟨number, groups, suffixes, hnumber, hne, hform, rfl⟩ := h
  apply Completes.run (fun _ => .start) (fun _ => .number) hnumber
  obtain ⟨g, groups, rfl⟩ := List.exists_cons_of_ne_nil hne
  have hgroups := hform.groups
  rw [List.forall_mem_cons] at hgroups
  rw [groupsText, List.flatMap_cons, List.append_assoc]
  apply Completes.move .firstPoint
  apply Completes.run (fun _ => .point) (fun _ => .group) hgroups.1
  exact .groups hgroups.2 (.suffixes .group hform.suffixes)

/-- What completes a version, part by part. -/
def Shape : Part → List Char → Prop
  | .start, cs => Dotted Text.isDecimalDigit cs
  | .number, cs => ∃ digits groups suffixes, (∀ c ∈ digits, Text.isDecimalDigit c)
      ∧ groups ≠ [] ∧ WellFormed Text.isDecimalDigit groups suffixes
      ∧ cs = digits ++ (groupsText groups ++ suffixesText suffixes)
  | .point, cs => ∃ digits groups suffixes, Run Text.isDecimalDigit digits
      ∧ WellFormed Text.isDecimalDigit groups suffixes
      ∧ cs = digits ++ (groupsText groups ++ suffixesText suffixes)
  | .group, cs => ∃ digits groups suffixes, (∀ c ∈ digits, Text.isDecimalDigit c)
      ∧ WellFormed Text.isDecimalDigit groups suffixes
      ∧ cs = digits ++ (groupsText groups ++ suffixesText suffixes)
  | .mark, cs => ∃ chars suffixes, Run isSuffixChar chars
      ∧ WellFormed Text.isDecimalDigit [] suffixes ∧ cs = chars ++ suffixesText suffixes
  | .suffix, cs => ∃ chars suffixes, (∀ c ∈ chars, isSuffixChar c)
      ∧ WellFormed Text.isDecimalDigit [] suffixes ∧ cs = chars ++ suffixesText suffixes

theorem WellFormed.nil {digit : Char → Bool} :
  WellFormed digit [] []
  := ⟨List.forall_mem_nil _, List.forall_mem_nil _⟩

theorem WellFormed.group {digit : Char → Bool} {g : List Char} {groups : List (List Char)}
    {suffixes : List (Char × List Char)} (hg : Run digit g)
    (h : WellFormed digit groups suffixes) :
  WellFormed digit (g :: groups) suffixes
  := ⟨List.forall_mem_cons.mpr ⟨hg, h.groups⟩, h.suffixes⟩

theorem WellFormed.suffix {digit : Char → Bool} {s : Char × List Char}
    {groups : List (List Char)} {suffixes : List (Char × List Char)} (hs : isSuffixMark s.1)
    (hrun : Run isSuffixChar s.2) (h : WellFormed digit groups suffixes) :
  WellFormed digit groups (s :: suffixes)
  := ⟨h.groups, List.forall_mem_cons.mpr ⟨⟨hs, hrun⟩, h.suffixes⟩⟩

theorem Completes.shape {p : Part} (h : Completes p w) :
  Shape p w
  := by
  induction h with
  | done hp =>
    cases hp with
    | group => exact ⟨[], [], [], List.forall_mem_nil _, .nil, rfl⟩
    | suffix => exact ⟨[], [], List.forall_mem_nil _, .nil, rfl⟩
  | @move p q c cs hc _ ih =>
    cases hc with
    | start hc =>
      obtain ⟨ds, groups, suffixes, hds, hne, hform, rfl⟩ := ih
      refine ⟨c :: ds, groups, suffixes, ⟨List.cons_ne_nil _ _, ?_⟩, hne, hform, rfl⟩
      exact List.forall_mem_cons.mpr ⟨hc, hds⟩
    | number hc =>
      obtain ⟨ds, groups, suffixes, hds, hne, hform, rfl⟩ := ih
      exact ⟨c :: ds, groups, suffixes, List.forall_mem_cons.mpr ⟨hc, hds⟩, hne, hform, rfl⟩
    | firstPoint =>
      obtain ⟨ds, groups, suffixes, hds, hform, rfl⟩ := ih
      refine ⟨[], ds :: groups, suffixes, List.forall_mem_nil _, List.cons_ne_nil _ _,
        hform.group hds, ?_⟩
      simp [groupsText]
    | point hc =>
      obtain ⟨ds, groups, suffixes, hds, hform, rfl⟩ := ih
      refine ⟨c :: ds, groups, suffixes, ⟨List.cons_ne_nil _ _, ?_⟩, hform, rfl⟩
      exact List.forall_mem_cons.mpr ⟨hc, hds⟩
    | group hc =>
      obtain ⟨ds, groups, suffixes, hds, hform, rfl⟩ := ih
      exact ⟨c :: ds, groups, suffixes, List.forall_mem_cons.mpr ⟨hc, hds⟩, hform, rfl⟩
    | nextPoint =>
      obtain ⟨ds, groups, suffixes, hds, hform, rfl⟩ := ih
      refine ⟨[], ds :: groups, suffixes, List.forall_mem_nil _, hform.group hds, ?_⟩
      simp [groupsText]
    | firstMark hc =>
      obtain ⟨chars, suffixes, hchars, hform, rfl⟩ := ih
      exact ⟨[], [], (c, chars) :: suffixes, List.forall_mem_nil _, hform.suffix hc hchars, rfl⟩
    | mark hc =>
      obtain ⟨chars, suffixes, hchars, hform, rfl⟩ := ih
      refine ⟨c :: chars, suffixes, ⟨List.cons_ne_nil _ _, ?_⟩, hform, rfl⟩
      exact List.forall_mem_cons.mpr ⟨hc, hchars⟩
    | suffix hc =>
      obtain ⟨chars, suffixes, hchars, hform, rfl⟩ := ih
      exact ⟨c :: chars, suffixes, List.forall_mem_cons.mpr ⟨hc, hchars⟩, hform, rfl⟩
    | nextMark hc =>
      obtain ⟨chars, suffixes, hchars, hform, rfl⟩ := ih
      exact ⟨[], (c, chars) :: suffixes, List.forall_mem_nil _, hform.suffix hc hchars, rfl⟩

/-- What completes a version from its start on is a version. -/
theorem completes_start_iff :
  Completes .start w ↔ Dotted Text.isDecimalDigit w
  := ⟨fun h => h.shape, fun h => h.completes⟩

/-! ### What is ahead -/

/-- What is ahead at the start of a text. -/
def ahead (s : List Char) : Ahead := s.foldr Ahead.step .atEnd

/-- No word goes on at the start of a text. -/
def Ends (s : List Char) : Prop := ∀ c ∈ s.head?, Text.isWord c = false

namespace Ahead

/-- How many more characters a version takes in a part. -/
def length? (a : Ahead) : Part → Option Nat
  | .start => a.start
  | .number => a.number
  | .point => a.point
  | .group => a.group
  | .mark => a.mark
  | .suffix => a.suffix

variable {a : Ahead} {p q : Part} {n : Nat}

@[simp]
theorem isSome_more (fits : Bool) (after : Option Nat) :
  (more fits after).isSome = (fits && after.isSome)
  := by
  cases fits <;> simp [more]

theorem more_eq_some_iff {fits : Bool} {after : Option Nat} :
  more fits after = some n ↔ fits ∧ ∃ k, after = some k ∧ k + 1 = n
  := by
  cases fits <;> simp [more, Option.map_eq_some_iff]

theorem more_eq_none_iff {fits : Bool} {after : Option Nat} :
  more fits after = none ↔ (fits → after = none)
  := by
  cases fits <;> simp [more]

/-- Where a character leads to something ahead, something is ahead of it. -/
theorem isSome_step (hc : Moves p c q) (h : (a.length? q).isSome) :
  ((a.step c).length? p).isSome
  := by
  cases hc <;> simp_all [length?, step]

/-- What is ahead of a character is nothing, where no word goes on and the character leads
nowhere, or it is what the character leads to. -/
theorem step_cases (h : (a.step c).length? p = some n) :
  (n = 0 ∧ Final p ∧ Text.isWord c = false ∧ ∀ q, Moves p c q → a.length? q = none)
    ∨ ∃ q k, Moves p c q ∧ a.length? q = some k ∧ k + 1 = n
  := by
  cases p with
  | start =>
    obtain ⟨hc, k, hk⟩ := more_eq_some_iff.mp h
    exact .inr ⟨.number, k, .start hc, hk⟩
  | number =>
    simp only [length?, step, Option.orElse_eq_some, more_eq_some_iff] at h
    rcases h with ⟨hc, k, hk⟩ | ⟨-, hc, k, hk⟩
    · exact .inr ⟨.number, k, .number hc, hk⟩
    · obtain rfl := eq_of_beq hc
      exact .inr ⟨.point, k, .firstPoint, hk⟩
  | point =>
    obtain ⟨hc, k, hk⟩ := more_eq_some_iff.mp h
    exact .inr ⟨.group, k, .point hc, hk⟩
  | group =>
    simp only [length?, step, Option.orElse_eq_some, more_eq_some_iff, more_eq_none_iff] at h
    rcases h with ⟨hc, k, hk⟩ | ⟨hgroup, ⟨hc, k, hk⟩ | ⟨hpoint, ⟨hc, k, hk⟩ | ⟨hmark, hstop⟩⟩⟩
    · exact .inr ⟨.group, k, .group hc, hk⟩
    · obtain rfl := eq_of_beq hc
      exact .inr ⟨.point, k, .nextPoint, hk⟩
    · exact .inr ⟨.mark, k, .firstMark hc, hk⟩
    · rw [Option.ite_none_left_eq_some, Bool.not_eq_true] at hstop
      obtain ⟨hword, hzero⟩ := hstop
      refine .inl ⟨(Option.some.inj hzero).symm, .group, hword, ?_⟩
      intro q hq
      cases hq with
      | group hc => exact hgroup hc
      | nextPoint => exact hpoint rfl
      | firstMark hc => exact hmark hc
  | mark =>
    obtain ⟨hc, k, hk⟩ := more_eq_some_iff.mp h
    exact .inr ⟨.suffix, k, .mark hc, hk⟩
  | suffix =>
    simp only [length?, step, Option.orElse_eq_some, more_eq_some_iff, more_eq_none_iff] at h
    rcases h with ⟨hc, k, hk⟩ | ⟨hsuffix, ⟨hc, k, hk⟩ | ⟨hmark, hstop⟩⟩
    · exact .inr ⟨.suffix, k, .suffix hc, hk⟩
    · exact .inr ⟨.mark, k, .nextMark hc, hk⟩
    · rw [Option.ite_none_left_eq_some, Bool.not_eq_true] at hstop
      obtain ⟨hword, hzero⟩ := hstop
      refine .inl ⟨(Option.some.inj hzero).symm, .suffix, hword, ?_⟩
      intro q hq
      cases hq with
      | suffix hc => exact hsuffix hc
      | nextMark hc => exact hmark hc

/-- At the end of a text only a version that may end has something ahead, and that is nothing. -/
theorem length?_atEnd (p : Part) :
  atEnd.length? p = some n ↔ n = 0 ∧ Final p
  := by
  constructor
  · intro h
    cases p <;> simp_all [atEnd, length?, Final.group, Final.suffix]
  · rintro ⟨rfl, hp⟩
    cases hp <;> rfl

end Ahead

/-! ### How much is ahead -/

variable {p : Part} {n : Nat} {s : List Char}

theorem ahead_cons (c : Char) (s : List Char) :
  ahead (c :: s) = (ahead s).step c
  := rfl

/-- What is ahead completes a version, and the word ends behind it. -/
theorem exists_of_length? (h : (ahead s).length? p = some n) :
  ∃ w post, s = w ++ post ∧ w.length = n ∧ Completes p w ∧ Ends post
  := by
  induction s generalizing p n with
  | nil =>
    obtain ⟨rfl, hp⟩ := Ahead.length?_atEnd p |>.mp h
    exact ⟨[], [], rfl, rfl, .done hp, nofun⟩
  | cons c s ih =>
    rw [ahead_cons] at h
    rcases Ahead.step_cases h with ⟨rfl, hp, hc, -⟩ | ⟨q, k, hc, hk, rfl⟩
    · exact ⟨[], c :: s, rfl, rfl, .done hp, by simpa [Ends] using hc⟩
    · obtain ⟨w, post, rfl, rfl, hw, hpost⟩ := ih hk
      exact ⟨c :: w, post, rfl, rfl, .move hc hw, hpost⟩

theorem isSome_length?_of_final (hp : Final p) (hpost : Ends post) :
  ((ahead post).length? p).isSome
  := by
  cases post with
  | nil => cases hp <;> rfl
  | cons c post =>
    have hc : Text.isWord c = false := hpost c rfl
    rw [ahead_cons]
    cases hp <;> simp [Ahead.length?, Ahead.step, hc]

/-- Something is ahead where a version can be completed up to the end of a word. -/
theorem isSome_length? (h : Completes p w) (hpost : Ends post) :
  ((ahead (w ++ post)).length? p).isSome
  := by
  induction h with
  | done hp => exact isSome_length?_of_final hp hpost
  | move hc _ ih => exact Ahead.isSome_step hc ih

/-- A text at whose start a version can only end. -/
def Apart (post : List Char) : Prop :=
  ∀ c ∈ post.head?, Text.isWord c = false ∧ ∀ p q, ¬ Moves p c q

theorem Apart.ends (h : Apart post) :
  Ends post
  := fun c hc => (h c hc).1

/-- Suffixes that stand apart from what follows are taken as a whole, whatever part of a version
goes on with them. -/
theorem length?_eq (hw : Completes .suffix w) (hpost : Apart post)
    (h : (ahead (w ++ post)).length? p = some n) :
  n = w.length
  := by
  induction w generalizing p n with
  | nil =>
    cases post with
    | nil => exact (Ahead.length?_atEnd p |>.mp h).1
    | cons c post =>
      obtain ⟨-, hmoves⟩ := hpost c rfl
      rcases Ahead.step_cases h with ⟨rfl, -⟩ | ⟨q, k, hc, -⟩
      · rfl
      · exact absurd hc (hmoves p q)
  | cons c w ih =>
    cases hw with
    | @move _ q _ _ hc hrest =>
      have hsuffix : Completes .suffix w := by
        cases hc with
        | suffix => exact hrest
        | nextMark => exact hrest.of_mark
      rw [List.cons_append, ahead_cons] at h
      rcases Ahead.step_cases h with ⟨-, hp, hword, hstop⟩ | ⟨q', k, -, hk, rfl⟩
      · -- The version would stop, but the character leads on.
        exfalso
        cases hc with
        | suffix hc =>
          rw [Text.isWord_of_isAlphanum hc] at hword
          contradiction
        | nextMark hc =>
          have hmark : Moves p c .mark := by
            cases hp with
            | group => exact .firstMark hc
            | suffix => exact .nextMark hc
          have hsome := isSome_length? hrest hpost.ends
          rw [hstop .mark hmark] at hsome
          contradiction
      · rw [ih hsuffix hk, List.length_cons]

end MojoToolchain.Version
