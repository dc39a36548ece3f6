import MojoToolchain.Json.Printer
import MojoToolchain.Json.Reader

/-!
# Written literals are read back

A string literal that was written for a text is read as the text, whatever characters the text has
(`reads_string`), and the digits of a natural number of 64 bits are read as the number
(`reads_natural`).
-/

namespace MojoToolchain.Json

variable {α : Type} {r : List Char}

/-- A reader reads a value at the start of a text, and leaves a text. -/
def Reads (read : (s : List Char) → Reading α s) (s : List Char) (a : α) (r : List Char) : Prop :=
  ∃ x : Rest s, read s = .ok (a, x) ∧ x.val = r

/-! ### String literals -/

theorem hexValue?_hexDigit (n : Nat) :
  hexValue? (hexDigit n) = some (n % 16)
  := by
  have h : ∀ m < 16, hexValue? (Nat.digitChar m) = some m := by decide
  exact h (n % 16) (Nat.mod_lt n (by decide))

/-- The code of a control character is read back. -/
theorem readUnicode_code {c : Char} (hc : c.toNat < 32) (r : List Char) :
  Reads readUnicode ('0' :: '0' :: hexDigit (c.toNat / 16) :: hexDigit c.toNat :: r) c r
  := by
  have hzero : hexValue? '0' = some 0 := rfl
  have hcode : ((0 * 16 + 0) * 16 + c.toNat / 16 % 16) * 16 + c.toNat % 16 = c.toNat := by omega
  simp only [Reads, readUnicode, readHex, hzero, hexValue?_hexDigit, hcode, Bind.bind, Except.bind]
  rw [if_neg (by simp; omega), if_pos (by simp; omega), Char.ofNat_toNat]
  exact ⟨_, rfl, rfl⟩

theorem readStringFrom_simple {e c : Char} (h : simpleEscape? e = some c) (read r : List Char) :
  readStringFrom read ('\\' :: e :: r) = readStringFrom (c :: read) r
  := by
  have hu : e ≠ 'u' := by
    rintro rfl
    cases h
  rw [readStringFrom, h]
  exact hu

theorem readStringFrom_code {c : Char} (hc : c.toNat < 32) (read r : List Char) :
  readStringFrom read
      ('\\' :: 'u' :: '0' :: '0' :: hexDigit (c.toNat / 16) :: hexDigit c.toNat :: r)
    = readStringFrom (c :: read) r
  := by
  obtain ⟨x, hx, hr⟩ := readUnicode_code hc r
  rw [readStringFrom, hx]
  simp only [hr]

theorem readStringFrom_char {c : Char} (hquote : c ≠ '"') (hslash : c ≠ '\\')
    (hc : ¬ c.toNat < 32) (read r : List Char) :
  readStringFrom read (c :: r) = readStringFrom (c :: read) r
  := by
  rw [readStringFrom, if_neg hc]
  all_goals simp [hquote, hslash]

/-- What is written for a character: an escape of one letter, an escape of its code, or the
character itself. -/
theorem escape_cases (c : Char) :
  (∃ e, escape c = ['\\', e] ∧ simpleEscape? e = some c)
    ∨ (c.toNat < 32
        ∧ escape c = ['\\', 'u', '0', '0', hexDigit (c.toNat / 16), hexDigit c.toNat])
    ∨ (c ≠ '"' ∧ c ≠ '\\' ∧ ¬ c.toNat < 32 ∧ escape c = [c])
  := by
  by_cases hsimple : c ∈ ['"', '\\', '\x08', '\t', '\n', '\x0c', '\r']
  · left
    simp only [List.mem_cons, List.not_mem_nil, or_false] at hsimple
    obtain rfl | rfl | rfl | rfl | rfl | rfl | rfl := hsimple
    all_goals exact ⟨_, rfl, rfl⟩
  · right
    simp only [List.mem_cons, List.not_mem_nil, or_false, not_or] at hsimple
    obtain ⟨hquote, hslash, hb, ht, hn, hf, hr⟩ := hsimple
    by_cases hc : c.toNat < 32
    · left
      simp [escape, hquote, hslash, hb, ht, hn, hf, hr, hc]
    · right
      simp [escape, hquote, hslash, hb, ht, hn, hf, hr, hc]

/-- A character is read back from what is written for it. -/
theorem readStringFrom_escape (read : List Char) (c : Char) (r : List Char) :
  readStringFrom read (escape c ++ r) = readStringFrom (c :: read) r
  := by
  obtain ⟨e, hescape, he⟩ | ⟨hc, hescape⟩ | ⟨hquote, hslash, hc, hescape⟩ := escape_cases c
  · rw [hescape]
    exact readStringFrom_simple he read r
  · rw [hescape]
    exact readStringFrom_code hc read r
  · rw [hescape]
    exact readStringFrom_char hquote hslash hc read r

theorem readStringFrom_flatMap_escape (read cs r : List Char) :
  readStringFrom read (cs.flatMap escape ++ '"' :: r) = .ok (read.reverse ++ cs, r)
  := by
  induction cs generalizing read with
  | nil => simp [readStringFrom]
  | cons c cs ih => simp [readStringFrom_escape, ih]

theorem quoted_append (text : String) (r : List Char) :
  quoted text ++ r = '"' :: (text.toList.flatMap escape ++ '"' :: r)
  := by
  simp [quoted]

theorem readString_flatMap_escape (text : String) (r : List Char) :
  ∃ x, readString (text.toList.flatMap escape ++ '"' :: r) = .ok (text, x) ∧ x.val = r
  := by
  have hread : readStringFrom [] (text.toList.flatMap escape ++ '"' :: r) = .ok (text.toList, r) :=
    readStringFrom_flatMap_escape [] text.toList r
  rw [readString]
  split
  case h_1 stop h =>
    rw [hread] at h
    cases h
  case h_2 chars rest h =>
    rw [hread] at h
    cases h
    rw [String.ofList_toList]
    exact ⟨_, rfl, rfl⟩

/-- A key is read back. -/
theorem reads_key (key : String) (r : List Char) :
  Reads readKey (quoted key ++ r) key r
  := by
  rw [quoted_append]
  exact readString_flatMap_escape key r

/-- A string literal is read back. -/
theorem reads_string (text : String) (r : List Char) :
  Reads readScalar (quoted text ++ r) (.string text) r
  := by
  obtain ⟨x, hx, hr⟩ := readString_flatMap_escape text r
  rw [quoted_append, Reads, readScalar, hx]
  exact ⟨x, rfl, hr⟩

/-! ### Words -/

theorem readWord_append (word r : List Char) :
  readWord word (word ++ r) = .ok r
  := by
  induction word with
  | nil => rfl
  | cons c cs ih => simp [readWord, ih]

theorem readWordAs_append (word : String) (value : Json) (c : Char) (r : List Char) :
  ∃ x, readWordAs word value c (word.toList ++ r) = .ok (value, x) ∧ x.val = r
  := by
  rw [readWordAs]
  split
  case h_1 stop h =>
    rw [readWord_append] at h
    cases h
  case h_2 rest h =>
    rw [readWord_append] at h
    cases h
    exact ⟨_, rfl, rfl⟩

/-- A truth value is read back. -/
theorem reads_bool (b : Bool) (r : List Char) :
  Reads readScalar (scalarText (.bool b) ++ r) (.bool b) r
  := by
  cases b with
  | false => exact readWordAs_append "alse" (.bool false) 'f' r
  | true => exact readWordAs_append "rue" (.bool true) 't' r

/-! ### Natural numbers -/

/-- A text does not go on with a number. -/
def EndsNumber (r : List Char) : Prop :=
  ∀ c t, r = c :: t → c.isDigit = false ∧ c ≠ '.' ∧ c ≠ 'e' ∧ c ≠ 'E'

theorem spanDigits_append {digits : List Char} (hdigits : ∀ c ∈ digits, c.isDigit)
    (hr : EndsNumber r) :
  spanDigits (digits ++ r) = (digits, r)
  := by
  have hspan : r.takeWhile Char.isDigit = [] ∧ r.dropWhile Char.isDigit = r := by
    cases r with
    | nil => exact ⟨rfl, rfl⟩
    | cons c t => simp [(hr c t rfl).1]
  rw [spanDigits, List.takeWhile_append_of_pos hdigits, List.dropWhile_append_of_pos hdigits,
    hspan.1, hspan.2, List.append_nil]

theorem le_ofDigitChars (digits : List Char) (n : Nat) :
  n ≤ Nat.ofDigitChars 10 digits n
  := by
  induction digits generalizing n with
  | nil => exact Nat.le_refl n
  | cons c cs ih =>
    rw [Nat.ofDigitChars_cons]
    have := ih (10 * n + (c.toNat - '0'.toNat))
    omega

/-- The digits of a number that 64 bits hold all fit. -/
theorem pushDigits_eq (digits : List Char) (n : Nat)
    (h : Nat.ofDigitChars 10 digits n ≤ maxInteger) :
  pushDigits n digits = (Nat.ofDigitChars 10 digits n, digits.length)
  := by
  induction digits generalizing n with
  | nil => rfl
  | cons c cs ih =>
    have hstep : n * 10 + digitValue c = 10 * n + (c.toNat - '0'.toNat) := by
      rw [Nat.mul_comm]
      rfl
    rw [Nat.ofDigitChars_cons, ← hstep] at h ⊢
    have hle := Nat.le_trans (le_ofDigitChars cs _) h
    rw [pushDigits, if_neg (Nat.not_lt.2 hle), ih _ h]
    rfl

theorem head?_toDigits {n : Nat} (h : 0 < n) :
  (Nat.toDigits 10 n).head? ≠ some '0'
  := by
  induction n using Nat.strongRecOn with
  | ind n ih =>
    by_cases hn : n < 10
    · have hdigit : ∀ m < 10, 0 < m → Nat.digitChar m ≠ '0' := by decide
      rw [Nat.toDigits_of_lt_base hn]
      simpa using hdigit n hn h
    · have hhead := ih (n / 10) (by omega) (by omega)
      rw [Nat.toDigits_of_base_le (by decide) (Nat.le_of_not_lt hn)]
      cases hdigits : Nat.toDigits 10 (n / 10) with
      | nil => exact absurd hdigits Nat.toDigits_ne_nil
      | cons c cs =>
        rw [hdigits] at hhead
        exact hhead

/-- Only the number zero starts with the digit zero. -/
theorem toDigits_ne_zero_cons (n : Nat) (c : Char) (cs : List Char) :
  Nat.toDigits 10 n ≠ '0' :: c :: cs
  := by
  intro h
  obtain rfl | hn := Nat.eq_zero_or_pos n
  · cases h
  · apply head?_toDigits hn
    rw [h]
    rfl

theorem readUnsignedNumber_toDigits {n : Nat} (hn : n ≤ maxInteger) (hr : EndsNumber r) :
  readUnsignedNumber false (Nat.toDigits 10 n ++ r) = .ok (.natural n, r)
  := by
  have hdigits : ∀ c ∈ Nat.toDigits 10 n, c.isDigit :=
    fun c hc => Nat.isDigit_of_mem_toDigits (by decide) (by decide) hc
  have hpush : pushDigits 0 (Nat.toDigits 10 n) = (n, (Nat.toDigits 10 n).length) := by
    rw [pushDigits_eq, Nat.ofDigitChars_ten_toDigits]
    rw [Nat.ofDigitChars_ten_toDigits]
    exact hn
  rw [readUnsignedNumber, spanDigits_append hdigits hr]
  split
  case h_1 h => exact absurd (Prod.mk.inj h).1 Nat.toDigits_ne_nil
  case h_2 h => exact absurd (Prod.mk.inj h).1 Nat.toDigits_ne_nil
  case h_3 h => exact absurd (Prod.mk.inj h).1 (toDigits_ne_zero_cons n _ _)
  case h_4 h =>
    obtain ⟨rfl, rfl⟩ := Prod.mk.inj h
    simp only [hpush, Int.sub_self]
    split
    · exact absurd rfl (hr _ _ rfl).2.1
    · exact absurd rfl (hr _ _ rfl).2.2.1
    · exact absurd rfl (hr _ _ rfl).2.2.2
    · rfl

theorem ne_of_isDigit {c e : Char} (hc : c.isDigit) (he : e.isDigit = false) :
  c ≠ e
  := by
  rintro rfl
  rw [hc] at he
  cases he

theorem exists_toDigits (n : Nat) :
  ∃ c cs, Nat.toDigits 10 n = c :: cs ∧ c.isDigit
  := by
  cases h : Nat.toDigits 10 n with
  | nil => exact absurd h Nat.toDigits_ne_nil
  | cons c cs =>
    refine ⟨c, cs, rfl, ?_⟩
    apply Nat.isDigit_of_mem_toDigits (b := 10) (n := n) (by decide) (by decide)
    rw [h]
    exact List.mem_cons_self

/-- A natural number of 64 bits is read back where the text does not go on with it. -/
theorem reads_natural {n : Nat} (hn : n ≤ maxInteger) (hr : EndsNumber r) :
  Reads readScalar (Nat.toDigits 10 n ++ r) (.natural n) r
  := by
  have hread := readUnsignedNumber_toDigits hn hr
  obtain ⟨c, cs, hdigits, hc⟩ := exists_toDigits n
  rw [hdigits, List.cons_append] at hread
  have hnumber : readNumber (c :: (cs ++ r)) = .ok (.natural n, r) := by
    rw [readNumber, hread]
    exact fun _ h => ne_of_isDigit hc rfl (List.cons.inj h).1
  rw [hdigits, List.cons_append, Reads, readScalar, hc, Bool.or_true, if_pos rfl, readNumberAt]
  · split
    case h_1 h =>
      rw [hnumber] at h
      cases h
    case h_2 h =>
      rw [hnumber] at h
      cases h
      exact ⟨_, rfl, rfl⟩
  all_goals exact ne_of_isDigit hc rfl

end MojoToolchain.Json
