import Mathlib.Data.List.Induction
import MojoToolchain.Proofs.Version.Pattern
import MojoToolchain.Text.Blank

/-!
# Versions that are found

A version stands where no word goes on before it or behind it (`Stands`).  `find?` finds one at
the first place where any stands, and finds none where none stands (`version_found`).  A version
that stands between blanks behind a text without digits is found whole (`find?_embedded`).

The beginning of a word keeps a version from standing, but not the point behind a word: behind
the `v24.` of `v24.6.0` a version stands, which is the tail of what is no version as a whole.
That is how fragments come about, and the only way (`First.cutsToken_iff`).
-/

namespace MojoToolchain.Version

variable {text pre v post s : List Char} {c : Char}

/-! ### Where versions stand -/

/-- No word goes on at the end of a text. -/
def Begins (pre : List Char) : Prop := ∀ c ∈ pre.getLast?, Text.isWord c = false

instance (pre : List Char) : Decidable (Begins pre) :=
  decidable_of_iff (pre.getLast?.any Text.isWord = false) <| by
    rw [Begins]
    cases pre.getLast? <;> simp

/-- A version stands between two texts. -/
structure Stands (pre v post : List Char) : Prop where
  dotted : Dotted Text.isDecimalDigit v
  begins : Begins pre
  ends : Ends post

/-- A version stands in a text that goes on behind `pre`, behind the first part of it. -/
def StandsBehind (pre text mid : List Char) : Prop :=
  ∃ v post, text = mid ++ (v ++ post) ∧ Stands (pre ++ mid) v post

/-- A version stands in a text, and none stands before it. -/
structure First (text pre v post : List Char) : Prop where
  text_eq : text = pre ++ (v ++ post)
  stands : Stands pre v post
  first : ∀ pre', StandsBehind [] text pre' → pre.length ≤ pre'.length

/-! ### Going through a text -/

/-- What is known at the start of a text. -/
def scan (s : List Char) : Scan := s.foldr Scan.step .atEnd

theorem text_scan (s : List Char) :
  (scan s).text = s
  := by
  induction s with
  | nil => rfl
  | cons c s ih => exact congrArg (c :: ·) ih

theorem ahead_scan (s : List Char) :
  (scan s).ahead = ahead s
  := by
  induction s with
  | nil => rfl
  | cons c s ih => exact congrArg (Ahead.step c) ih

/-- The version at the start of a text that goes on behind `pre`. -/
def startBehind (pre s : List Char) : Option (List Char) :=
  if Begins pre then (ahead s).start.map s.take else none

/-- The first version in a text that goes on behind `pre`. -/
def foundBehind (pre s : List Char) : Option (List Char) :=
  if Begins pre then (scan s).first else (scan s).found

theorem find?_eq (text : String) :
  find? text = (foundBehind [] text.toList).map String.ofList
  := rfl

theorem foundBehind_nil (pre : List Char) :
  foundBehind pre [] = none
  := by
  rw [foundBehind]
  split <;> rfl

theorem foundBehind_cons (pre : List Char) (c : Char) (s : List Char) :
  foundBehind pre (c :: s) = (startBehind pre (c :: s) <|> foundBehind (pre ++ [c]) s)
  := by
  have hfound : foundBehind (pre ++ [c]) s = (scan (c :: s)).found := by
    have hbegins : Begins (pre ++ [c]) ↔ Text.isWord c = false := by simp [Begins]
    cases hc : Text.isWord c <;> simp [foundBehind, hbegins, hc, scan, Scan.step]
  rw [hfound, foundBehind, startBehind]
  split
  case isTrue => rw [Scan.first, text_scan, ahead_scan]
  case isFalse => rfl

/-! ### The first version -/

theorem stands_of_startBehind (h : startBehind pre s = some v) :
  ∃ post, s = v ++ post ∧ Stands pre v post
  := by
  rw [startBehind, Option.ite_none_right_eq_some] at h
  obtain ⟨hpre, h⟩ := h
  obtain ⟨n, hn, rfl⟩ := Option.map_eq_some_iff.mp h
  obtain ⟨v, post, rfl, rfl, hv, hpost⟩ := exists_of_length? (p := .start) hn
  refine ⟨post, by simp, ?_⟩
  rw [List.take_left]
  exact ⟨completes_start_iff.mp hv, hpre, hpost⟩

theorem standsBehind_nil_iff :
  StandsBehind pre s [] ↔ (startBehind pre s).isSome
  := by
  constructor
  · rintro ⟨v, post, rfl, hstands⟩
    rw [List.append_nil] at hstands
    rw [startBehind, if_pos hstands.begins, Option.isSome_map]
    exact isSome_length? hstands.dotted.completes hstands.ends
  · intro h
    obtain ⟨v, hv⟩ := Option.isSome_iff_exists.mp h
    obtain ⟨post, rfl, hstands⟩ := stands_of_startBehind hv
    exact ⟨v, post, rfl, by rwa [List.append_nil]⟩

theorem standsBehind_cons_iff {d : Char} {mid : List Char} :
  StandsBehind pre (c :: s) (d :: mid) ↔ c = d ∧ StandsBehind (pre ++ [d]) s mid
  := by
  simp only [StandsBehind, List.cons_append, List.cons.injEq, and_assoc, exists_and_left,
    ← List.append_cons]

theorem not_standsBehind_of_nil {mid : List Char} :
  ¬ StandsBehind pre [] mid
  := by
  intro h
  have hmid : mid = [] := by
    obtain ⟨v, post, hs, -⟩ := h
    exact (List.nil_eq_append_iff.mp hs).1
  rw [hmid, standsBehind_nil_iff, startBehind] at h
  split at h <;> contradiction

theorem foundBehind_eq_none_iff :
  foundBehind pre s = none ↔ ∀ mid, ¬ StandsBehind pre s mid
  := by
  induction s generalizing pre with
  | nil =>
    rw [foundBehind_nil]
    exact iff_of_true rfl fun _ => not_standsBehind_of_nil
  | cons c s ih =>
    rw [foundBehind_cons, Option.orElse_eq_none, ih, ← Option.not_isSome_iff_eq_none,
      ← standsBehind_nil_iff]
    constructor
    · rintro ⟨hnil, hcons⟩ (- | ⟨d, mid⟩) h
      · exact hnil h
      · obtain ⟨rfl, h⟩ := standsBehind_cons_iff.mp h
        exact hcons mid h
    · intro h
      exact ⟨h [], fun mid hmid => h (c :: mid) (standsBehind_cons_iff.mpr ⟨rfl, hmid⟩)⟩

theorem exists_of_foundBehind (h : foundBehind pre s = some v) :
  ∃ mid post, s = mid ++ (v ++ post) ∧ Stands (pre ++ mid) v post
    ∧ ∀ mid', StandsBehind pre s mid' → mid.length ≤ mid'.length
  := by
  induction s generalizing pre with
  | nil =>
    rw [foundBehind_nil] at h
    contradiction
  | cons c s ih =>
    rw [foundBehind_cons, Option.orElse_eq_some] at h
    rcases h with hv | ⟨hnone, h⟩
    · obtain ⟨post, hs, hstands⟩ := stands_of_startBehind hv
      exact ⟨[], post, hs, by rwa [List.append_nil], fun _ _ => Nat.zero_le _⟩
    · obtain ⟨mid, post, rfl, hstands, hfirst⟩ := ih h
      refine ⟨c :: mid, post, rfl, by rwa [List.append_cons], ?_⟩
      rintro (- | ⟨d, mid'⟩) hbehind
      · rw [standsBehind_nil_iff, hnone] at hbehind
        contradiction
      · obtain ⟨rfl, hbehind⟩ := standsBehind_cons_iff.mp hbehind
        exact Nat.succ_le_succ (hfirst mid' hbehind)

/-- A version that is found is the first one that stands in the text. -/
theorem exists_first_of_find? {text v : String} (h : find? text = some v) :
  ∃ pre post, First text.toList pre v.toList post
  := by
  rw [find?_eq] at h
  obtain ⟨v, hv, rfl⟩ := Option.map_eq_some_iff.mp h
  obtain ⟨pre, post, htext, hstands, hfirst⟩ := exists_of_foundBehind hv
  rw [String.toList_ofList]
  exact ⟨pre, post, htext, hstands, hfirst⟩

/-! ### Fragments -/

/-- What stands behind a text goes on a word, or a point behind a word. -/
def CutsToken (pre : List Char) : Prop :=
  ∃ q c, Text.isWord c ∧ (pre = q ++ [c] ∨ pre = q ++ [c, '.'])

/-- Behind a text stand a word that is no number and a point. -/
def EndsInName (pre : List Char) : Prop :=
  ∃ q word, pre = q ++ (word ++ ['.']) ∧ Begins q ∧ Run Text.isWord word
    ∧ ∃ c ∈ word, Text.isDecimalDigit c = false

theorem exists_lastWord (q : List Char) (hc : Text.isWord c) :
  ∃ r word, q ++ [c] = r ++ word ∧ Begins r ∧ Run Text.isWord word
  := by
  induction q using List.reverseRecOn generalizing c with
  | nil => exact ⟨[], [c], rfl, nofun, by simp, by simpa using hc⟩
  | append_singleton q d ih =>
    cases hd : Text.isWord d with
    | true =>
      obtain ⟨r, word, hr, hbegins, -, hword⟩ := ih hd
      refine ⟨r, word ++ [c], by rw [hr, List.append_assoc], hbegins, by simp, ?_⟩
      rw [List.forall_mem_append, List.forall_mem_singleton]
      exact ⟨hword, hc⟩
    | false => exact ⟨q ++ [d], [c], rfl, by simpa [Begins] using hd, by simp, by simpa using hc⟩

theorem Dotted.behind_number {digit : Char → Bool} {number : List Char} (hnumber : Run digit number)
    (h : Dotted digit v) :
  Dotted digit (number ++ '.' :: v)
  := by
  obtain ⟨g, groups, suffixes, hg, -, hform, rfl⟩ := h
  refine ⟨number, g :: groups, suffixes, hnumber, List.cons_ne_nil _ _, hform.group hg, ?_⟩
  simp [groupsText]

/-- The first version of a text is the tail of a longer token exactly if a word that is no number
stands before it, with a point between them. -/
theorem First.cutsToken_iff (h : First text pre v post) :
  CutsToken pre ↔ EndsInName pre
  := by
  constructor
  · rintro ⟨q, c, hc, rfl | rfl⟩
    · have hend := h.stands.begins c (by simp)
      rw [hc] at hend
      contradiction
    · obtain ⟨r, word, hr, hbegins, hword⟩ := exists_lastWord q hc
      rw [List.append_cons, hr, List.append_assoc]
      refine ⟨r, word, rfl, hbegins, hword, ?_⟩
      by_contra hnumber
      -- A number and the point belong to the version, which stands before.
      have hrun : Run Text.isDecimalDigit word := ⟨hword.1, by simpa using hnumber⟩
      have hstands : StandsBehind [] text r := by
        refine ⟨word ++ '.' :: v, post, ?_, h.stands.dotted.behind_number hrun, hbegins,
          h.stands.ends⟩
        rw [h.text_eq, List.append_cons, hr]
        simp
      have hle := h.first r hstands
      have hlength := congrArg List.length hr
      simp only [List.length_append, List.length_cons, List.length_nil] at hle hlength
      have hne := List.length_pos_iff.mpr hword.1
      omega
  · rintro ⟨q, word, rfl, -, ⟨hne, hword⟩, -⟩
    obtain ⟨word, c, rfl⟩ := List.eq_nil_or_concat word |>.resolve_left hne
    refine ⟨q ++ word, c, hword c (by simp), .inr (by simp)⟩

/-- A version is found exactly if one stands in the text, and then it is the first one that
stands there.  It is the tail of a longer token exactly if a word that is no number stands before
it, with a point between them. -/
theorem version_found (text : String) :
  (find? text = none ↔ ∀ pre, ¬ StandsBehind [] text.toList pre)
    ∧ ∀ v, find? text = some v → ∃ pre post, First text.toList pre v.toList post
      ∧ (CutsToken pre ↔ EndsInName pre)
  := by
  constructor
  · rw [find?_eq, Option.map_eq_none_iff, foundBehind_eq_none_iff]
  · intro v h
    obtain ⟨pre, post, hfirst⟩ := exists_first_of_find? h
    exact ⟨pre, post, hfirst, hfirst.cutsToken_iff⟩

theorem version_found_nightly :
  find? "mojo 24.6.0 (4487cd6e)" = some "24.6.0"
    ∧ ∃ pre post, First "mojo 24.6.0 (4487cd6e)".toList pre "24.6.0".toList post
      ∧ (CutsToken pre ↔ EndsInName pre)
  := by
  have h : find? "mojo 24.6.0 (4487cd6e)" = some "24.6.0" := by decide +kernel
  exact ⟨h, (version_found _).2 _ h⟩

/-- Of what is no version, because a letter stands before it, a tail is found. -/
theorem fragment_found :
  find? "v24.6.0" = some "6.0"
    ∧ First "v24.6.0".toList "v24.".toList "6.0".toList [] ∧ CutsToken "v24.".toList
  := by
  have h : find? "v24.6.0" = some "6.0" := by decide +kernel
  obtain ⟨pre, post, hfirst⟩ := exists_first_of_find? h
  have htext : ['v', '2', '4', '.', '6', '.', '0'] = pre ++ (['6', '.', '0'] ++ post) :=
    hfirst.text_eq
  obtain ⟨rfl, rfl⟩ : pre = ['v', '2', '4', '.'] ∧ post = [] := by
    have hlength := congrArg List.length htext
    rcases pre with - | ⟨_, - | ⟨_, - | ⟨_, - | ⟨_, - | ⟨_, pre⟩⟩⟩⟩⟩ <;> grind
  exact ⟨h, hfirst, ['v', '2'], '4', by decide +kernel, .inr rfl⟩

/-! ### Versions between blanks -/

/-- The code points of the blank characters. -/
def blankPoints : List Nat :=
  [9, 10, 11, 12, 13, 0x20, 0x85, 0xA0, 0x1680] ++ List.range' 0x2000 11
    ++ [0x2028, 0x2029, 0x202F, 0x205F, 0x3000]

theorem mem_blankPoints (h : Text.isBlank c) :
  c.toNat ∈ blankPoints
  := by
  simp only [Text.isBlank, Bool.or_eq_true, Bool.and_eq_true, decide_eq_true_eq, beq_iff_eq] at h
  simp only [blankPoints, List.mem_append, List.mem_cons, List.not_mem_nil, List.mem_range'_1]
  omega

/-- Ranges that hold no code point of a blank character hold no blank character. -/
theorem holds_of_isBlank {ranges : Text.Ranges}
    (hranges : blankPoints.all fun n => ranges.all fun r => Nat.blt n r.1 || Nat.blt r.2 n)
    (h : Text.isBlank c) :
  ranges.holds c = false
  := by
  rw [← Bool.not_eq_true, Text.Ranges.holds_iff]
  rintro ⟨r, hr, hlow, hhigh⟩
  have hpoint := List.all_eq_true.mp (List.all_eq_true.mp hranges _ (mem_blankPoints h)) r hr
  simp only [Bool.or_eq_true, Nat.blt_eq] at hpoint
  omega

theorem isWord_of_isBlank (h : Text.isBlank c) :
  Text.isWord c = false
  := holds_of_isBlank (by decide +kernel) h

theorem isDecimalDigit_of_isBlank (h : Text.isBlank c) :
  Text.isDecimalDigit c = false
  := holds_of_isBlank (by decide +kernel) h

/-- A version stands apart from a blank character. -/
theorem not_moves_of_isBlank {p q : Part} (h : Text.isBlank c) :
  ¬ Moves p c q
  := by
  have hdigit := isDecimalDigit_of_isBlank h
  have hchar : isSuffixChar c = false := by
    by_contra hc
    have hword := Text.isWord_of_isAlphanum (Bool.not_eq_false _ ▸ hc)
    rw [isWord_of_isBlank h] at hword
    contradiction
  have hmark : isSuffixMark c = false := by
    by_contra hc
    simp only [isSuffixMark, Bool.not_eq_false, Bool.or_eq_true, beq_iff_eq] at hc
    rcases hc with rfl | rfl <;> exact absurd h (by decide)
  intro hc
  cases hc with
  | firstPoint => exact absurd h (by decide)
  | nextPoint => exact absurd h (by decide)
  | _ => simp_all

theorem apart_of_isBlank (h : ∀ c ∈ post.head?, Text.isBlank c) :
  Apart post
  := fun c hc => ⟨isWord_of_isBlank (h c hc), fun _ _ => not_moves_of_isBlank (h c hc)⟩

/-- The groups of a version are suffixes as well, if its digits may stand in suffixes. -/
theorem Dotted.completes_suffix {digit : Char → Bool} (hdigit : ∀ c, digit c → isSuffixChar c)
    (h : Dotted digit v) :
  Completes .suffix v
  := by
  obtain ⟨number, groups, suffixes, hnumber, -, hform, rfl⟩ := h
  have hgroups : groupsText groups ++ suffixesText suffixes
      = suffixesText (groups.map (fun g => ('.', g)) ++ suffixes) := by
    simp [groupsText, suffixesText, List.flatMap_map]
  rw [hgroups]
  apply Completes.loop fun c hc => .suffix (hdigit c (hnumber.2 c hc))
  apply Completes.suffixes .suffix
  rw [List.forall_mem_append, List.forall_mem_map]
  refine ⟨?_, hform.suffixes⟩
  intro g hg
  obtain ⟨hne, hall⟩ := hform.groups g hg
  exact ⟨rfl, hne, fun c hc => hdigit c (hall c hc)⟩

theorem Dotted.mono {digit digit' : Char → Bool} (hdigit : ∀ c, digit c → digit' c)
    (h : Dotted digit v) :
  Dotted digit' v
  := by
  obtain ⟨number, groups, suffixes, ⟨hne, hall⟩, hgroups, hform, rfl⟩ := h
  refine ⟨number, groups, suffixes, ⟨hne, fun c hc => hdigit c (hall c hc)⟩, hgroups,
    ⟨?_, hform.suffixes⟩, rfl⟩
  intro g hg
  obtain ⟨hne, hall⟩ := hform.groups g hg
  exact ⟨hne, fun c hc => hdigit c (hall c hc)⟩

/-- No version starts in a text without digits. -/
theorem foundBehind_append (hs : ∀ c ∈ s, Text.isDecimalDigit c = false) (pre r : List Char) :
  foundBehind pre (s ++ r) = foundBehind (pre ++ s) r
  := by
  induction s generalizing pre with
  | nil => rw [List.nil_append, List.append_nil]
  | cons c s ih =>
    rw [List.forall_mem_cons] at hs
    have hnone : startBehind pre (c :: (s ++ r)) = none := by
      simp [startBehind, ahead_cons, Ahead.step, Ahead.more, hs.1]
    rw [List.cons_append, foundBehind_cons, hnone, ih hs.2, ← List.append_cons]
    rfl

/-- Between texts in which it cannot begin earlier or end later, a version is taken as a whole. -/
theorem foundBehind_version (hv : Dotted Char.isDigit v) (hpre : Begins pre) (hpost : Apart post) :
  foundBehind pre (v ++ post) = some v
  := by
  have hdecimal : Dotted Text.isDecimalDigit v :=
    hv.mono fun _ => Text.isDecimalDigit_of_isDigit
  have hsuffix : Completes .suffix v := hv.completes_suffix fun c hc => by
    simp [isSuffixChar, Char.isAlphanum, hc]
  obtain ⟨n, hn⟩ :=
    Option.isSome_iff_exists.mp (isSome_length? hdecimal.completes hpost.ends)
  have hstart : startBehind pre (v ++ post) = some v := by
    obtain rfl := length?_eq hsuffix hpost hn
    rw [startBehind, if_pos hpre, show (ahead (v ++ post)).start = some v.length from hn,
      Option.map_some, List.take_left]
  cases v with
  | nil => nomatch hdecimal.completes
  | cons c v =>
    rw [List.cons_append] at hstart ⊢
    rw [foundBehind_cons, hstart]
    rfl

/-- A version of ASCII digits and letters that stands between blanks, or at an end of the text, is
found whole if no digit stands before it. -/
theorem find?_embedded {pre version post : String} (hversion : Dotted Char.isDigit version.toList)
    (hdigits : ∀ c ∈ pre.toList, Text.isDecimalDigit c = false)
    (hpre : ∀ c ∈ pre.toList.getLast?, Text.isBlank c)
    (hpost : ∀ c ∈ post.toList.head?, Text.isBlank c) :
  find? (pre ++ version ++ post) = some version
  := by
  have hbegins : Begins pre.toList := fun c hc => isWord_of_isBlank (hpre c hc)
  rw [find?_eq, String.toList_append, String.toList_append, List.append_assoc,
    foundBehind_append hdigits, List.nil_append,
    foundBehind_version hversion hbegins (apart_of_isBlank hpost), Option.map_some,
    String.ofList_toList]

theorem find?_embedded_nightly :
  find? ("mojo " ++ "25.1.0-rc1" ++ " (0be1d9ff)") = some "25.1.0-rc1"
  := by
  have hversion : Dotted Char.isDigit "25.1.0-rc1".toList := by
    refine ⟨['2', '5'], [['1'], ['0']], [('-', ['r', 'c', '1'])], ?_, by simp, ⟨?_, ?_⟩, rfl⟩
    · simp [Run, Char.isDigit]
    · simp [Run, Char.isDigit]
    · have hsuffix : ['r', 'c', '1'].all isSuffixChar := by decide
      simpa [Run, isSuffixMark] using hsuffix
  have hdigits : "mojo ".toList.all fun c => !Text.isDecimalDigit c := by decide +kernel
  exact find?_embedded hversion (by simpa using hdigits) (by simp [Text.isBlank])
    (by simp [Text.isBlank])

end MojoToolchain.Version
