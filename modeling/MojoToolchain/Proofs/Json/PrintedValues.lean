import MojoToolchain.Json.Typed
import MojoToolchain.Proofs.Json.PrintedLiterals

/-!
# Written values are read back

A reader for values of a known form reads back what is written for a value (`ReadsBack`), behind
any white space: a value that is no container, an optional value, and a list, if the reader for
its items does.
-/

namespace MojoToolchain.Json

variable {α β : Type} {level : Nat}

/-- A value other than `null` may begin with a character, but white space and the end of a list do
not. -/
def Opens (c : Char) : Prop := isSpace c = false ∧ c ≠ ']' ∧ c ≠ 'n'

instance : DecidablePred Opens := fun c =>
  inferInstanceAs (Decidable (isSpace c = false ∧ c ≠ ']' ∧ c ≠ 'n'))

/-- A reader reads a text as a value, behind white space and where the text does not go on with a
number. -/
structure ReadsBack (read : Typed α) (written : List Char) (a : α) : Prop where
  opens : ∃ c cs, written = c :: cs ∧ Opens c
  reads : ∀ s r, skipSpace s = written ++ r → EndsNumber r → Reads read s a r

/-! ### White space -/

/-- A text that a reader reads up to white space is read to its end. -/
theorem Reads.readWhole {read : Typed α} {s r : List Char} {a : α} (h : Reads read s a r)
    (hr : skipSpace r = []) :
  Json.readWhole read s = .ok a
  := by
  obtain ⟨x, hx, rfl⟩ := h
  simp only [Json.readWhole, hx, Bind.bind, Except.bind, hr]

@[simp]
theorem skipSpace_cons {c : Char} (hc : isSpace c = false) (s : List Char) :
  skipSpace (c :: s) = c :: s
  := by
  simp [skipSpace, hc]

@[simp]
theorem skipSpace_newLine (level : Nat) (s : List Char) :
  skipSpace (newLine level ++ s) = skipSpace s
  := by
  apply List.dropWhile_append_of_pos
  intro c hc
  obtain rfl | hc := List.mem_cons.1 hc
  · rfl
  · rw [List.eq_of_mem_replicate hc]
    rfl

theorem endsNumber_cons {c : Char} (h : c ∈ [',', '\n']) (r : List Char) :
  EndsNumber (c :: r)
  := by
  intro c' t h'
  obtain rfl := (List.cons.inj h').1
  simp only [List.mem_cons, List.not_mem_nil, or_false] at h
  obtain rfl | rfl := h
  · decide
  · decide

namespace ReadsBack

variable {read : Typed α} {written : List Char} {a : α}

/-- What follows white space when a written value does. -/
theorem skipSpace_append (h : ReadsBack read written a) (r : List Char) :
  skipSpace (written ++ r) = written ++ r
  := by
  obtain ⟨c, cs, rfl, hc, -⟩ := h.opens
  exact skipSpace_cons hc _

theorem map (h : ReadsBack read written a) (f : α → β) :
  ReadsBack (fun s => do let (a, r) ← read s; .ok (f a, r)) written (f a)
  where
  opens := h.opens
  reads s r hs hr := by
    obtain ⟨x, hx, hx'⟩ := h.reads s r hs hr
    refine ⟨x, ?_, hx'⟩
    simp only [hx, Bind.bind, Except.bind]

/-! ### Values that are no containers -/

theorem scalar {shape : Shape} {accept : Json → Except Mismatch α} {v : Json}
    (hopens : ∃ c cs, written = c :: cs ∧ Opens c ∧ c ∉ ['[', '\x7b'])
    (hread : ∀ r, EndsNumber r → Reads readScalar (written ++ r) v r) (haccept : accept v = .ok a) :
  ReadsBack (Typed.scalar shape accept) written a
  := by
  obtain ⟨c, cs, rfl, hc, hne⟩ := hopens
  simp only [List.mem_cons, List.not_mem_nil, or_false, not_or] at hne
  refine ⟨⟨c, cs, rfl, hc⟩, ?_⟩
  intro s r hs hr
  obtain ⟨x, hx, hx'⟩ : Reads readScalar (skipSpace s) v r := by
    rw [hs]
    exact hread r hr
  simp only [Reads, Typed.scalar]
  split
  case h_1 h => exact absurd (List.cons.inj (hs.symm.trans h)).1 hne.1
  case h_2 h => exact absurd (List.cons.inj (hs.symm.trans h)).1 hne.2
  case h_3 =>
    simp only [hx, Bind.bind, Except.bind, haccept]
    exact ⟨_, rfl, hx'⟩

theorem text (shape : Shape) (s : String) :
  ReadsBack (Typed.text shape) (quoted s) s
  := by
  apply scalar (v := .string s)
  · exact ⟨'"', _, rfl, by decide, by decide⟩
  · exact fun r _ => reads_string s r
  · rfl

theorem boolean (b : Bool) :
  ReadsBack Typed.boolean (scalarText (.bool b)) b
  := by
  apply scalar (v := .bool b)
  · cases b with
    | false => exact ⟨'f', _, rfl, by decide, by decide⟩
    | true => exact ⟨'t', _, rfl, by decide, by decide⟩
  · exact fun r _ => reads_bool b r
  · rfl

theorem unsigned {bits n : Nat} (hbits : n < 1 <<< bits) (hn : n ≤ maxInteger) (level : Nat) :
  ReadsBack (Typed.unsigned bits) (prettyAt level (.natural n)) n
  := by
  have hwritten : prettyAt level (.natural n) = Nat.toDigits 10 n := by
    simp [prettyAt, natural, scalarText, integerText]
  rw [hwritten]
  apply scalar (v := .natural n)
  · obtain ⟨c, cs, hdigits, hc⟩ := exists_toDigits n
    have hspace : isSpace c = false := by simp [isSpace, ne_of_isDigit hc]
    refine ⟨c, cs, hdigits, ⟨hspace, ne_of_isDigit hc rfl, ne_of_isDigit hc rfl⟩, ?_⟩
    simp [ne_of_isDigit hc]
  · exact fun r hr => reads_natural hn hr
  · exact toUnsigned_natural hbits

/-! ### Optional values and lists -/

theorem optional (h : ReadsBack read written a) :
  ReadsBack read.optional written (some a)
  where
  opens := h.opens
  reads s r hs hr := by
    obtain ⟨c, cs, rfl, -, -, hn⟩ := h.opens
    obtain ⟨x, hx, hx'⟩ := h.reads s r hs hr
    simp only [Reads, Typed.optional]
    split
    case h_1 h => exact absurd (List.cons.inj (hs.symm.trans h)).1 hn
    case h_2 =>
      simp only [hx, Bind.bind, Except.bind]
      exact ⟨x, rfl, hx'⟩

end ReadsBack

/-! ### Lists -/

namespace Reads

section

variable {item : Typed α} {a : α} {as : List α} {s t u r : List Char}

theorem lastItem (h : Reads item s a t) (ht : skipSpace t = ']' :: r) :
  Reads (readItems item) s [a] r
  := by
  obtain ⟨x, hx, rfl⟩ := h
  rw [Reads, readItems]
  simp only [hx, Bind.bind, Except.bind]
  split
  case h_1 h => cases ht.symm.trans h
  case h_2 h =>
    cases ht.symm.trans h
    exact ⟨_, rfl, rfl⟩
  case h_3 h => cases ht.symm.trans h
  case h_4 h _ => exact absurd ht (h r)

theorem moreItems {c : Char} {cs : List Char} (h : Reads item s a t)
    (ht : skipSpace t = ',' :: u) (hu : skipSpace u = c :: cs) (hc : c ≠ ']')
    (hrest : Reads (readItems item) u as r) :
  Reads (readItems item) s (a :: as) r
  := by
  obtain ⟨x, hx, rfl⟩ := h
  obtain ⟨y, hy, rfl⟩ := hrest
  rw [Reads, readItems]
  simp only [hx, Bind.bind, Except.bind]
  split
  case h_1 h => cases ht.symm.trans h
  case h_2 h => cases ht.symm.trans h
  case h_3 h =>
    cases ht.symm.trans h
    simp only [Rest.val_trans, Rest.val_afterSpace]
    split
    case h_1 h => cases hu.symm.trans h
    case h_2 h => exact absurd (List.cons.inj (hu.symm.trans h)).1 hc
    case h_3 =>
      rw [hy]
      exact ⟨_, rfl, rfl⟩
  case h_4 h => exact absurd ht (h u)

theorem emptyList (hs : skipSpace s = '[' :: t) (ht : skipSpace t = ']' :: r) :
  Reads (Typed.list item) s [] r
  := by
  simp only [Reads, Typed.list]
  split
  case h_1 h =>
    cases hs.symm.trans h
    rw [readList]
    split
    case h_1 h => cases ht.symm.trans h
    case h_2 h =>
      cases ht.symm.trans h
      exact ⟨_, rfl, rfl⟩
    case h_3 h => exact absurd ht (h r)
  case h_2 h => exact absurd hs (h t)

theorem list {c : Char} {cs : List Char} (hs : skipSpace s = '[' :: t)
    (ht : skipSpace t = c :: cs) (hc : c ≠ ']') (h : Reads (readItems item) t as r) :
  Reads (Typed.list item) s as r
  := by
  obtain ⟨x, hx, rfl⟩ := h
  simp only [Reads, Typed.list]
  split
  case h_1 h =>
    cases hs.symm.trans h
    rw [readList]
    split
    case h_1 h => cases ht.symm.trans h
    case h_2 h => exact absurd (List.cons.inj (ht.symm.trans h)).1 hc
    case h_3 =>
      simp only [hx, Bind.bind, Except.bind]
      exact ⟨_, rfl, rfl⟩
  case h_2 h => exact absurd hs (h t)

end

end Reads

theorem skipSpace_close {c : Char} (hc : isSpace c = false) (level : Nat) (r : List Char) :
  skipSpace (newLine level ++ c :: r) = c :: r
  := by
  rw [skipSpace_newLine, skipSpace_cons hc]

/-- Written items do not start with a closing bracket. -/
theorem ReadsBack.exists_skipSpace_items {item : Typed α} {v : Json} {a : α}
    (h : ReadsBack item (prettyAt level v) a) (rest : List Json) (r : List Char) :
  ∃ c cs, skipSpace (prettyItems level (v :: rest) ++ r) = c :: cs ∧ c ≠ ']'
  := by
  obtain ⟨c, cs, hc, hspace, hne, -⟩ := h.opens
  cases rest with
  | nil => simp [prettyItems, hc, hspace, hne]
  | cons next rest => simp [prettyItems, hc, hspace, hne]

/-- Items are read back up to the closing bracket. -/
theorem reads_items {item : Typed α} {json : α → Json} {a : α} {as : List α}
    (h : ∀ b ∈ a :: as, ReadsBack item (prettyAt level (json b)) b) (outer : Nat)
    (r : List Char) :
  Reads (readItems item)
    (prettyItems level ((a :: as).map json) ++ (newLine outer ++ ']' :: r)) (a :: as) r
  := by
  have ha := h a List.mem_cons_self
  induction as generalizing a with
  | nil =>
    apply Reads.lastItem (t := newLine outer ++ ']' :: r)
    · apply ha.reads
      · simp [prettyItems, ha.skipSpace_append]
      · exact endsNumber_cons (by decide) _
    · exact skipSpace_close rfl outer r
  | cons b rest ih =>
    have hb : ∀ b' ∈ b :: rest, ReadsBack item (prettyAt level (json b')) b' :=
      fun b' hb' => h b' (List.mem_cons_of_mem a hb')
    obtain ⟨c, cs, hnext, hc⟩ := (hb b List.mem_cons_self).exists_skipSpace_items
      (rest.map json) (newLine outer ++ ']' :: r)
    refine Reads.moreItems ?_ (skipSpace_cons rfl _) hnext hc (ih hb (hb b List.mem_cons_self))
    apply ha.reads
    · simp [prettyItems, ha.skipSpace_append]
    · exact endsNumber_cons (by decide) _

/-- A list is read back when its items are. -/
theorem ReadsBack.list {item : Typed α} {json : α → Json} {as : List α}
    (h : ∀ a ∈ as, ReadsBack item (prettyAt (level + 1) (json a)) a) :
  ReadsBack (Typed.list item) (prettyAt level (.array (as.map json))) as
  := by
  cases as with
  | nil =>
    refine ⟨⟨'[', _, rfl, by decide⟩, ?_⟩
    intro s r hs hr
    exact Reads.emptyList hs (skipSpace_cons rfl r)
  | cons a as =>
    refine ⟨⟨'[', _, rfl, by decide⟩, ?_⟩
    intro s r hs hr
    obtain ⟨c, cs, hnext, hc⟩ := (h a List.mem_cons_self).exists_skipSpace_items
      (as.map json) (newLine level ++ ']' :: r)
    refine Reads.list ?_ hnext hc (reads_items h level r)
    rw [hs]
    simp [prettyAt]

end MojoToolchain.Json
