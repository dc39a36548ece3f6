import MojoToolchain.Descriptor.File

/-!
# Lines of a descriptor file

What is read of a section head and of a property that stands on a line of its own.  The value of a
property is the text after the separator up to the line feed, without blank characters around it,
unless the line ends in a backslash that no other one precedes (`endsOpen`): then it goes on with
the next line.
-/

namespace MojoToolchain.Descriptor

variable {s rest : List Char}

/-! ### Backslashes at the end of a line -/

/-- The number of backslashes at the end of a text. -/
def backslashes (s : List Char) : Nat := (s.reverse.takeWhile (· == '\\')).length

/-- A line that goes on with the next one: its last backslash is not itself taken by another
one. -/
def endsOpen (s : List Char) : Bool := backslashes s % 2 == 1

theorem backslashes_cons (c : Char) (s : List Char) :
  backslashes (c :: s)
    = if backslashes s = s.length ∧ c = '\\' then s.length + 1 else backslashes s
  := by
  unfold backslashes
  rw [List.reverse_cons, List.takeWhile_append, List.length_reverse]
  by_cases hall : (s.reverse.takeWhile (· == '\\')).length = s.length
  · by_cases hc : c = '\\'
    · simp [hall, hc]
    · simp [hall, hc]
  · simp [hall]

theorem backslashes_le (s : List Char) :
  backslashes s ≤ s.length
  := by
  simpa [backslashes] using (List.takeWhile_sublist (l := s.reverse) (· == '\\')).length_le

theorem endsOpen_cons {c : Char} (hc : c ≠ '\\') (s : List Char) :
  endsOpen (c :: s) = endsOpen s
  := by
  simp [endsOpen, backslashes_cons, hc]

/-- A backslash takes the character after it. -/
theorem endsOpen_backslash (c : Char) (s : List Char) :
  endsOpen ('\\' :: c :: s) = endsOpen s
  := by
  have hle := backslashes_le s
  have hparity : backslashes ('\\' :: c :: s) % 2 = backslashes s % 2 := by
    rw [backslashes_cons, backslashes_cons c s, List.length_cons]
    by_cases hall : backslashes s = s.length ∧ c = '\\'
    · rw [if_pos hall, if_pos ⟨rfl, rfl⟩]
      omega
    · rw [if_neg hall, if_neg fun h => by omega]
  rw [endsOpen, hparity, endsOpen]

theorem backslashes_concat (s : List Char) (c : Char) :
  backslashes (s ++ [c]) = if c = '\\' then backslashes s + 1 else 0
  := by
  by_cases hc : c = '\\' <;> simp [backslashes, hc]

/-- Without the backslash at its end a line does not go on. -/
theorem exists_concat_of_endsOpen (h : endsOpen s = true) :
  ∃ u, s = u ++ ['\\'] ∧ endsOpen u = false
  := by
  rcases List.eq_nil_or_concat s with rfl | ⟨u, c, rfl⟩
  · cases h
  · rw [endsOpen, List.concat_eq_append, backslashes_concat] at h
    by_cases hc : c = '\\'
    · refine ⟨u, by rw [hc, List.concat_eq_append], ?_⟩
      rw [if_pos hc, beq_iff_eq] at h
      rw [endsOpen, beq_eq_false_iff_ne]
      omega
    · rw [if_neg hc] at h
      cases h

/-- A line that ends in another character does not go on. -/
theorem endsOpen_concat {c : Char} (hc : c ≠ '\\') (s : List Char) :
  endsOpen (s ++ [c]) = false
  := by
  rw [endsOpen, backslashes_concat, if_neg hc]
  rfl

/-! ### Pieces -/

section

variable {ends : Char → Bool} {c : Char}

theorem readPiece_mark (hc : c ≠ '\\') (hends : ends c = true) (rest : List Char) :
  readPiece ends (c :: rest) = ([], c :: rest)
  := by
  simp [readPiece, hc, hends]

theorem readPiece_cons (hc : c ≠ '\\') (hends : ends c = false) (rest : List Char) :
  readPiece ends (c :: rest) = (c :: (readPiece ends rest).1, (readPiece ends rest).2)
  := by
  simp [readPiece, hc, hends]

theorem readPiece_backslash (hc : c ≠ '\n') (rest : List Char) :
  readPiece ends ('\\' :: c :: rest)
    = ('\\' :: c :: (readPiece ends rest).1, (readPiece ends rest).2)
  := by
  simp [readPiece]

/-- Characters without a mark and without a line feed are passed over, unless the last one is a
backslash that takes what follows. -/
theorem readPiece_append (rest : List Char) :
  ∀ {s : List Char}, (∀ c ∈ s, c ≠ '\n' ∧ ends c = false) → endsOpen s = false →
    readPiece ends (s ++ rest) = (s ++ (readPiece ends rest).1, (readPiece ends rest).2)
  | [], _, _ => rfl
  | [c], hs, hclosed => by
    have hc : c ≠ '\\' := by
      rintro rfl
      cases hclosed
    exact readPiece_cons hc (hs c List.mem_cons_self).2 rest
  | c :: d :: s, hs, hclosed => by
    -- Two characters at once: a backslash takes the one after it, whichever that is.
    obtain ⟨⟨-, hc⟩, htail⟩ := List.forall_mem_cons.mp hs
    obtain ⟨⟨hd, -⟩, hrest⟩ := List.forall_mem_cons.mp htail
    by_cases hslash : c = '\\'
    · subst hslash
      rw [endsOpen_backslash] at hclosed
      rw [List.cons_append, List.cons_append, readPiece_backslash hd,
        readPiece_append rest hrest hclosed]
      rfl
    · rw [endsOpen_cons hslash] at hclosed
      rw [List.cons_append, readPiece_cons hslash hc, readPiece_append rest htail hclosed]
      rfl
termination_by s => s.length

end

/-! ### Properties -/

/-- A text that can stand as a value on a line: it has no line end and is not blank at its ends. -/
structure IsValue (s : List Char) : Prop where
  unbroken : ∀ c ∈ s, endsLine c = false
  start : ∀ c ∈ s.head?, Text.isBlank c = false
  stop : ∀ c ∈ s.getLast?, Text.isBlank c = false

/-- A text that can stand as a key at the start of a line. -/
structure IsKey (s : List Char) : Prop where
  ne_nil : s ≠ []
  unmarked : ∀ c ∈ s, c ≠ '\\' ∧ endsKey c = false
  start : ∀ c ∈ s.head?, Text.isBlank c = false ∧ c ∉ [';', '#', '[']
  stop : ∀ c ∈ s.getLast?, Text.isBlank c = false

theorem ne_feed_of_endsLine {c : Char} (h : endsLine c = false) :
  c ≠ '\n'
  := by
  rintro rfl
  cases h

theorem ne_of_not_isBlank {c : Char} (h : Text.isBlank c = false) :
  isGap c = false ∧ endsLine c = false
  := by
  have hne (d : Char) (hd : Text.isBlank d = true) : c ≠ d := by
    rintro rfl
    cases h.symm.trans hd
  simp [isGap, endsLine, hne ' ' rfl, hne '\t' rfl, hne '\n' rfl, hne '\r' rfl]

theorem IsValue.trimmed_eq (h : IsValue s) :
  trimmed s = String.ofList s
  := congrArg String.ofList (Text.trim_eq_self h.start h.stop)

/-- The space before a value is passed over. -/
theorem IsValue.dropWhile_eq (h : IsValue s) (rest : List Char) :
  (' ' :: s ++ '\n' :: rest).dropWhile (fun c => Text.isBlank c && !endsLine c)
    = s ++ '\n' :: rest
  := by
  rw [List.cons_append, List.dropWhile_cons_of_pos (by decide)]
  cases s with
  | nil => rfl
  | cons c s =>
    have hc := h.start c rfl
    exact List.dropWhile_cons_of_neg (by simp [hc])

/-- A text that ends in a word without backslashes is a value that does not go on, when it can
start one. -/
theorem isValue_append {t : List Char} (hs : ∀ c ∈ s, endsLine c = false)
    (hstart : ∀ c ∈ s.head?, Text.isBlank c = false) (hne : t ≠ [])
    (ht : ∀ c ∈ t, Text.isBlank c = false ∧ c ≠ '\\') :
  IsValue (s ++ t) ∧ endsOpen (s ++ t) = false
  := by
  obtain ⟨u, c, rfl⟩ := (List.eq_nil_or_concat t).resolve_left hne
  rw [List.concat_eq_append] at ht ⊢
  have hlast := ht c (List.mem_append_right _ List.mem_cons_self)
  rw [← List.append_assoc]
  refine ⟨⟨?_, ?_, ?_⟩, endsOpen_concat hlast.2 _⟩
  case refine_1 =>
    rw [List.append_assoc]
    exact List.forall_mem_append.mpr ⟨hs, fun d hd => (ne_of_not_isBlank (ht d hd).1).2⟩
  case refine_2 =>
    intro d hd
    cases s with
    | nil => exact (ht d (List.mem_of_mem_head? hd)).1
    | cons _ _ => exact hstart d hd
  case refine_3 =>
    intro d hd
    rw [List.getLast?_concat, Option.mem_some_iff] at hd
    exact hd ▸ hlast.1

/-- A value that does not go on is read as it is. -/
theorem readValue_of_closed (h : IsValue s) (hclosed : endsOpen s = false) (rest : List Char) :
  (readValue (' ' :: s ++ '\n' :: rest)).1 = String.ofList s
    ∧ (readValue (' ' :: s ++ '\n' :: rest)).2.val = '\n' :: rest
  := by
  have hpiece : readPiece endsLine (s ++ '\n' :: rest) = (s, '\n' :: rest) := by
    rw [readPiece_append _ (fun c hc => ⟨ne_feed_of_endsLine (h.unbroken c hc), h.unbroken c hc⟩)
      hclosed, readPiece_mark (by decide) rfl, List.append_nil]
  simp only [readValue, h.dropWhile_eq, hpiece, h.trimmed_eq, and_self]

/-- A value that goes on where the next line is empty loses its last backslash, and the blank
characters before that. -/
theorem readValue_of_endsOpen (h : IsValue s) (hopen : endsOpen s = true) (rest : List Char) :
  (readValue (' ' :: s ++ '\n' :: '\n' :: rest)).1 = trimmed s.dropLast
    ∧ (readValue (' ' :: s ++ '\n' :: '\n' :: rest)).2.val = '\n' :: rest
  := by
  obtain ⟨u, rfl, hclosed⟩ := exists_concat_of_endsOpen hopen
  have hu : ∀ c ∈ u, c ≠ '\n' ∧ endsLine c = false := by
    intro c hc
    have hline := h.unbroken c (List.mem_append_left _ hc)
    exact ⟨ne_feed_of_endsLine hline, hline⟩
  -- The backslash takes the first line feed, and the second one ends the value.
  have hnext : readPiece endsLine ('\\' :: '\n' :: '\n' :: rest) = ([], '\n' :: rest) :=
    readPiece_mark (by decide) rfl rest
  have hpiece : readPiece endsLine (u ++ ['\\'] ++ '\n' :: '\n' :: rest) = (u, '\n' :: rest) := by
    rw [List.append_assoc, List.singleton_append, readPiece_append _ hu hclosed, hnext,
      List.append_nil]
  simp only [readValue, h.dropWhile_eq, hpiece, List.dropLast_concat, and_self]

/-- The space after a key is dropped. -/
theorem IsKey.trimmed_eq (h : IsKey s) :
  trimmed (s ++ [' ']) = String.ofList s
  := by
  have hstart : Text.trimStart (s ++ [' ']) = s ++ [' '] := by
    obtain ⟨c, rest, rfl⟩ := List.exists_cons_of_ne_nil h.ne_nil
    exact List.dropWhile_cons_of_neg (by simp [(h.start c rfl).1])
  have hend : Text.trimEnd (s ++ [' ']) = Text.trimEnd s := by
    rw [Text.trimEnd, List.reverse_append]
    rfl
  rw [trimmed, Text.trim, hstart, hend, Text.trimEnd_eq_self h.stop]

/-- A text without a mark and without backslashes is read up to the mark after it. -/
theorem readPiece_unmarked {ends : Char → Bool} {mark : Char}
    (hs : ∀ c ∈ s, c ≠ '\\' ∧ ends c = false) (hmark : mark ≠ '\\' ∧ ends mark = true)
    (rest : List Char) :
  readPiece ends (s ++ mark :: rest) = (s, mark :: rest)
  := by
  induction s with
  | nil => exact readPiece_mark hmark.1 hmark.2 rest
  | cons c s ih =>
    obtain ⟨⟨hslash, hc⟩, hs⟩ := List.forall_mem_cons.mp hs
    rw [List.cons_append, readPiece_cons hslash hc, ih hs]

/-- A property on a line is read as its key and what is read of the value. -/
theorem readProperty_line {key : List Char} (hkey : IsKey key) (text rest : List Char) :
  ∃ u, readProperty text (key ++ [' '] ++ '=' :: rest)
      = .property (String.ofList key) (readValue rest).1 u
    ∧ u.val = (readValue rest).2.val
  := by
  have hspace : ∀ c ∈ [' '], c ≠ '\\' ∧ endsKey c = false := by simp [endsKey]
  have hpiece : readPiece endsKey (key ++ [' '] ++ '=' :: rest) = (key ++ [' '], '=' :: rest) :=
    readPiece_unmarked (List.forall_mem_append.mpr ⟨hkey.unmarked, hspace⟩) (by decide) rest
  have hempty : (String.ofList key).isEmpty = false := by simp [hkey.ne_nil]
  unfold readProperty
  split
  case h_1 h =>
    cases hpiece.symm.trans h
  case h_2 piece mark r h =>
    cases hpiece.symm.trans h
    simp only [hkey.trimmed_eq, hempty]
    exact ⟨_, rfl, rfl⟩

/-! ### Lines -/

/-- What is not blank is not skipped. -/
theorem skipBlank_eq_self (h : ∀ c ∈ s.head?, Text.isBlank c = false) :
  skipBlank s = s
  := by
  cases s with
  | nil => rfl
  | cons c s =>
    have hc := h c rfl
    simp [skipBlank, (ne_of_not_isBlank hc).2, hc]

theorem skipBlank_feed (h : ∀ c ∈ s.head?, Text.isBlank c = false) :
  skipBlank ('\n' :: s) = s
  := by
  have hgap : ∀ c ∈ s.head?, c ≠ ' ' ∧ c ≠ '\t' := fun c hc => by
    simpa [isGap] using (ne_of_not_isBlank (h c hc)).1
  rw [skipBlank, if_pos (by decide), skipBlank_eq_self h]
  · rintro r rfl
    exact (hgap ' ' rfl).1 rfl
  · rintro r rfl
    exact (hgap '\t' rfl).2 rfl

variable {text r : List Char} {done : List Section}

/-- What does not start as a comment or a section does is read as a property. -/
theorem readFrom_property {c : Char} {key value : String}
    {u : { r' : List Char // r'.length < (c :: r).length }}
    (hc : Text.isBlank c = false ∧ c ∉ [';', '#', '['])
    (h : readProperty text (c :: r) = .property key value u) :
  readFrom text done (c :: r) = readFrom text (addProperty key value done) (skipBlank u.val)
  := by
  obtain ⟨hgap, hline⟩ := ne_of_not_isBlank hc.1
  obtain ⟨hcomment, hhash, hsection⟩ : c ≠ ';' ∧ c ≠ '#' ∧ c ≠ '[' := by simpa using hc.2
  rw [readFrom]
  simp [hcomment, hhash, hsection, hgap, hline, h]

/-- The head of a section is read, and what follows it on the next line. -/
theorem readFrom_section {name : List Char} (hname : ∀ c ∈ name, c ≠ '\\' ∧ (c == ']') = false)
    (hs : ∀ c ∈ s.head?, Text.isBlank c = false) :
  readFrom text done ('[' :: name ++ ']' :: '\n' :: s)
    = readFrom text (⟨some (trimmed name), []⟩ :: done) s
  := by
  have hpiece : readPiece (· == ']') (name ++ ']' :: '\n' :: s) = (name, ']' :: '\n' :: s) :=
    readPiece_unmarked hname (by decide) _
  have hread : ∃ u, readName text (name ++ ']' :: '\n' :: s) = .ok (trimmed name, u)
      ∧ u.val = '\n' :: s := by
    unfold readName
    split
    case h_1 h => cases hpiece.symm.trans h
    case h_2 h =>
      cases hpiece.symm.trans h
      exact ⟨_, rfl, rfl⟩
  obtain ⟨u, hread, hu⟩ := hread
  rw [List.cons_append, readFrom, if_neg (by decide), if_pos (by decide), hread]
  simp only [hu, skipBlank_feed hs]

/-- A property is read from its key on. -/
theorem readFrom_key {key : List Char} (hkey : IsKey key) (rest : List Char) :
  readFrom text done (key ++ [' '] ++ '=' :: rest)
    = readFrom text (addProperty (String.ofList key) (readValue rest).1 done)
      (skipBlank (readValue rest).2.val)
  := by
  obtain ⟨u, hproperty, hu⟩ := readProperty_line hkey text rest
  obtain ⟨c, r, rfl⟩ := List.exists_cons_of_ne_nil hkey.ne_nil
  rw [← hu]
  exact readFrom_property (hkey.start c rfl) hproperty

/-- The line of a property. -/
def propertyLine (key value : String) : List Char := (key ++ " = " ++ value ++ "\n").toList

theorem propertyLine_append (key value : String) (rest : List Char) :
  propertyLine key value ++ rest
    = key.toList ++ [' '] ++ '=' :: (' ' :: value.toList ++ '\n' :: rest)
  := by
  simp [propertyLine]

/-- A line is read as the property that it says. -/
theorem readFrom_line {key value : String} (hkey : IsKey key.toList) (hvalue : IsValue value.toList)
    (hclosed : endsOpen value.toList = false) (rest : List Char) :
  readFrom text done (propertyLine key value ++ rest)
    = readFrom text (addProperty key value done) (skipBlank ('\n' :: rest))
  := by
  obtain ⟨hread, hrest⟩ := readValue_of_closed hvalue hclosed rest
  rw [propertyLine_append, readFrom_key hkey, hread, hrest, String.ofList_toList,
    String.ofList_toList]

/-- What is read of a value whose line has an empty one after it: one that goes on loses its last
backslash, and the blank characters before that. -/
def readBack (value : String) : String :=
  if endsOpen value.toList then trimmed value.toList.dropLast else value

theorem readBack_eq_self_iff {value : String} :
  readBack value = value ↔ endsOpen value.toList = false
  := by
  unfold readBack
  split
  case isTrue hopen =>
    obtain ⟨u, hu, -⟩ := exists_concat_of_endsOpen hopen
    have hle : (Text.trim u).length ≤ u.length := Text.length_trim_le u
    refine iff_of_false (fun h => ?_) (by simp [hopen])
    have hlength : (Text.trim u).length = u.length + 1 := by
      simpa [hu, trimmed] using congrArg (fun v : String => v.toList.length) h
    omega
  case isFalse hclosed => simpa using hclosed

/-- Before an empty line a property is read, whether its value goes on or not. -/
theorem readFrom_line_feed {key value : String} (hkey : IsKey key.toList)
    (hvalue : IsValue value.toList) (rest : List Char) :
  readFrom text done (propertyLine key value ++ '\n' :: rest)
    = readFrom text (addProperty key (readBack value) done) (skipBlank ('\n' :: rest))
  := by
  unfold readBack
  split
  case isTrue hopen =>
    obtain ⟨hread, hrest⟩ := readValue_of_endsOpen hvalue hopen rest
    rw [propertyLine_append, readFrom_key hkey, hread, hrest, String.ofList_toList]
  case isFalse hclosed =>
    rw [readFrom_line hkey hvalue (Bool.eq_false_iff.mpr hclosed)]
    rfl

/-- The lines of properties. -/
def propertyLines (properties : List (String × String)) : List Char :=
  properties.flatMap fun p => propertyLine p.1 p.2

theorem head_propertyLines {properties : List (String × String)}
    (h : ∀ p ∈ properties, IsKey p.1.toList) :
  ∀ c ∈ (propertyLines properties).head?, Text.isBlank c = false
  := by
  cases properties with
  | nil => simp [propertyLines]
  | cons p rest =>
    have hp := h p List.mem_cons_self
    obtain ⟨c, r, hchars⟩ := List.exists_cons_of_ne_nil hp.ne_nil
    rw [propertyLines, List.flatMap_cons, propertyLine_append, hchars]
    rintro _ ⟨⟩
    exact (hp.start c (by rw [hchars]; rfl)).1

/-- Lines are read as the properties that they say, in order. -/
theorem readFrom_lines {properties : List (String × String)}
    (h : ∀ p ∈ properties, IsKey p.1.toList ∧ IsValue p.2.toList ∧ endsOpen p.2.toList = false)
    (last : Section) :
  readFrom text (last :: done) (propertyLines properties)
    = .ok (done.reverse ++ [{ last with properties := last.properties ++ properties }])
  := by
  induction properties generalizing last with
  | nil => simp [propertyLines, readFrom]
  | cons p rest ih =>
    obtain ⟨⟨hkey, hvalue, hclosed⟩, hrest⟩ := List.forall_mem_cons.mp h
    have hstart := head_propertyLines fun q hq => (hrest q hq).1
    rw [propertyLines, List.flatMap_cons, ← propertyLines, readFrom_line hkey hvalue hclosed,
      skipBlank_feed hstart, addProperty, ih hrest, List.append_assoc]
    rfl

end MojoToolchain.Descriptor
