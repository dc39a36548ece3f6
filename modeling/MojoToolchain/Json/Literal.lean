import MojoToolchain.Json.Fault
import MojoToolchain.Json.Rest

/-!
# Literals of a JSON text

Readers for what a JSON text is made of below its containers: white space, words, numbers and
string literals.
-/

namespace MojoToolchain.Json

/-- The outcome of reading an `α` from `s`. -/
abbrev Reading (α : Type) (s : List Char) := Except Stop (α × Rest s)

/-! ### White space and words -/

/-- The white space of JSON. -/
def isSpace (c : Char) : Bool := c == ' ' || c == '\n' || c == '\t' || c == '\r'

/-- A text without the white space at its start. -/
def skipSpace (s : List Char) : List Char := s.dropWhile isSpace

theorem length_skipSpace_le (s : List Char) :
  (skipSpace s).length ≤ s.length
  := by
  unfold skipSpace
  exact (List.dropWhile_sublist isSpace).length_le

/-- The text after white space and one more character. -/
theorem lt_of_skipSpace_eq {s : List Char} {c : Char} {r : List Char}
    (h : skipSpace s = c :: r) :
  r.length < s.length
  := by
  have := length_skipSpace_le s
  rw [h] at this
  simp at this
  omega

/-- What is left after white space. -/
def Tail.afterSpace (s : List Char) : Tail s := ⟨skipSpace s, length_skipSpace_le s⟩

/-- What is left after white space and one more character. -/
def Rest.afterSpace {s : List Char} {c : Char} {r : List Char} (h : skipSpace s = c :: r) :
    Rest s :=
  ⟨r, lt_of_skipSpace_eq h⟩

@[simp]
theorem Tail.val_afterSpace (s : List Char) : (Tail.afterSpace s).val = skipSpace s := rfl

@[simp]
theorem Rest.val_afterSpace {s : List Char} {c : Char} {r : List Char}
    (h : skipSpace s = c :: r) :
  (Rest.afterSpace h).val = r
  := rfl

/-- Reads the letters of a word that its first letter has announced. -/
def readWord : List Char → List Char → Except Stop (List Char)
  | [], s => .ok s
  | _ :: _, [] => .error (.before .endInValue [])
  | w :: ws, c :: s => if w == c then readWord ws s else .error (.next .expectedWord (c :: s))

theorem length_le_of_readWord {word s r : List Char} (h : readWord word s = .ok r) :
  r.length ≤ s.length
  := by
  induction word generalizing s with
  | nil => simp_all [readWord]
  | cons w ws ih =>
    cases s with
    | nil => simp [readWord] at h
    | cons c s =>
      by_cases hc : w = c
      · simp only [readWord, hc, beq_self_eq_true, if_true] at h
        have := ih h
        simp
        omega
      · simp [readWord, hc] at h

/-! ### Numbers -/

/-- The greatest integer of 64 bits. -/
def maxInteger : Nat := UInt64.size - 1

/-- The magnitude of the least signed integer of 64 bits. -/
def maxNegative : Nat := UInt64.size / 2

/-- The value of a digit. -/
def digitValue (c : Char) : Nat := c.toNat - 48

/-- The digits at the start of a text, and the text after them. -/
def spanDigits (s : List Char) : List Char × List Char :=
  (s.takeWhile Char.isDigit, s.dropWhile Char.isDigit)

/-- Appends digits to a significand until one does not fit; the significand, and the number of
digits that fitted. -/
def pushDigits (significand : Nat) : List Char → Nat × Nat
  | [] => (significand, 0)
  | c :: cs =>
    if maxInteger < significand * 10 + digitValue c then (significand, 0)
    else
      let (total, count) := pushDigits (significand * 10 + digitValue c) cs
      (total, count + 1)

/-- The greatest exponent, that of the signed integers of 32 bits. -/
def maxExponent : Nat := 2147483647

/-- Reads the digits of an exponent; there is no number for one above `maxExponent`, and then the
text that is left starts after the digit that was too much. -/
def readExponentDigits (exponent : Nat) : List Char → Option Nat × List Char
  | [] => (some exponent, [])
  | c :: s =>
    if c.isDigit then
      let larger := exponent * 10 + digitValue c
      if maxExponent < larger then (none, s) else readExponentDigits larger s
    else (some exponent, c :: s)

/-- A double with the sign asked for. -/
def signed (negative : Bool) (magnitude : Nat) : Json := double ⟨negative, magnitude⟩

/-- The double `significand * 10 ^ exponent`, when it is finite. -/
def scaled (negative : Bool) (significand : Nat) (exponent : Int) (rest : List Char) :
    Except Stop (Json × List Char) :=
  match Double.scale (Double.ofNat significand).magnitude exponent with
  | some magnitude => .ok (signed negative magnitude, rest)
  | none => .error (.before .numberOutOfRange rest)

/-- Reads an exponent, its `e` already read. -/
def readExponent (negative : Bool) (significand : Nat) (exponent : Int) (s : List Char) :
    Except Stop (Json × List Char) :=
  let (down, s) :=
    match s with
    | '+' :: r => (false, r)
    | '-' :: r => (true, r)
    | s => (false, s)
  match s with
  | [] => .error (.before .endInValue [])
  | c :: r =>
    if !c.isDigit then .error (.next .invalidNumber (c :: r))
    else
      match readExponentDigits (digitValue c) r with
      | (some power, rest) =>
        scaled negative significand (if down then exponent - power else exponent + power) rest
      | (none, rest) =>
        if significand != 0 && !down then .error (.before .numberOutOfRange rest)
        else .ok (signed negative 0, (spanDigits rest).2)

/-- Reads what may follow the digits of a number: an exponent. -/
def readTail (negative : Bool) (significand : Nat) (exponent : Int) (s : List Char) :
    Except Stop (Json × List Char) :=
  match s with
  | 'e' :: r => readExponent negative significand exponent r
  | 'E' :: r => readExponent negative significand exponent r
  | s => scaled negative significand exponent s

/-- Reads a fraction, its point already read, and what follows. -/
def readFraction (negative : Bool) (significand : Nat) (exponent : Int) (s : List Char) :
    Except Stop (Json × List Char) :=
  match spanDigits s with
  | ([], []) => .error (.before .endInValue [])
  | ([], rest) => .error (.next .invalidNumber rest)
  | (digits, rest) =>
    let (total, count) := pushDigits significand digits
    readTail negative total (exponent - count) rest

/-- The value of an integer literal that 64 bits hold: `-0` and what lies below the signed
integers are doubles. -/
def wholeNumber (negative : Bool) (n : Nat) : Json :=
  if !negative then integer n
  else if 0 < n && n ≤ maxNegative then integer (-(n : Int))
  else double (Double.ofNat n).neg

/-- Reads a number, its sign already read. -/
def readUnsignedNumber (negative : Bool) (s : List Char) : Except Stop (Json × List Char) :=
  match spanDigits s with
  | ([], []) => .error (.before .endInValue [])
  | ([], rest) => .error (.next .invalidNumber rest)
  | ('0' :: d :: ds, rest) => .error (.next .invalidNumber (d :: ds ++ rest))
  | (digits, rest) =>
    let (total, count) := pushDigits 0 digits
    let dropped : Int := (digits.length : Int) - (count : Int)
    match rest with
    | '.' :: r => readFraction negative total dropped r
    | 'e' :: r => readExponent negative total dropped r
    | 'E' :: r => readExponent negative total dropped r
    | r =>
      if dropped == 0 then .ok (wholeNumber negative total, r)
      else scaled negative total dropped r

/-- Reads a number. -/
def readNumber (s : List Char) : Except Stop (Json × List Char) :=
  match s with
  | '-' :: r => readUnsignedNumber true r
  | s => readUnsignedNumber false s

/-! ### String literals -/

/-- The value of a hexadecimal digit. -/
def hexValue? (c : Char) : Option Nat :=
  if c.isDigit then some (c.toNat - 48)
  else if 'a' ≤ c && c ≤ 'f' then some (c.toNat - 87)
  else if 'A' ≤ c && c ≤ 'F' then some (c.toNat - 55)
  else none

/-- The character of a two-character escape. -/
def simpleEscape? : Char → Option Char
  | '"' => some '"'
  | '\\' => some '\\'
  | '/' => some '/'
  | 'b' => some '\x08'
  | 'f' => some '\x0c'
  | 'n' => some '\n'
  | 'r' => some '\r'
  | 't' => some '\t'
  | _ => none

/-- Reads four hexadecimal digits. -/
def readHex (s : List Char) : Reading Nat s :=
  match s with
  | a :: b :: c :: d :: r =>
    match hexValue? a, hexValue? b, hexValue? c, hexValue? d with
    | some v, some w, some x, some y =>
      .ok (((v * 16 + w) * 16 + x) * 16 + y, (((Rest.after d r).cons c).cons b).cons a)
    | _, _, _, _ => short (a :: b :: c :: d :: r)
  | s => short s
where
  /-- Four bytes that are no digits, or fewer than four. -/
  short {α : Type} (s : List Char) : Except Stop α :=
    if byteLength s < 4 then .error (.before .endInString []) else .error ⟨.invalidEscape, s, 4⟩

/-- Reads the rest of an escape that starts with `\u`: a code point, or a pair of surrogates. -/
def readUnicode (s : List Char) : Reading Char s := do
  let (high, r) ← readHex s
  if 0xDC00 ≤ high && high ≤ 0xDFFF then .error (.before .loneSurrogate r.val)
  else if high < 0xD800 || 0xDBFF < high then .ok (Char.ofNat high, r)
  else
    match h : r.val with
    | [] => .error (.before .endInString [])
    | '\\' :: [] => .error (.before .endInString [])
    | '\\' :: 'u' :: t =>
      let (low, u) ← readHex t
      if low < 0xDC00 || 0xDFFF < low then .error (.before .loneSurrogate u.val)
      else
        .ok (Char.ofNat ((high - 0xD800) * 1024 + (low - 0xDC00) + 0x10000),
          r.trans (.ofEq h ((u.cons 'u').cons '\\')))
    | '\\' :: t => .error (.next .unfinishedSurrogate t)
    | t => .error (.next .unfinishedSurrogate t)

/-- Reads the characters of a string literal up to its closing quote; `read` holds the
characters before, the last one first. -/
def readStringFrom (read : List Char) (s : List Char) : Except Stop (List Char × List Char) :=
  match s with
  | [] => .error (.before .endInString [])
  | '"' :: r => .ok (read.reverse, r)
  | '\\' :: 'u' :: r =>
    match readUnicode r with
    | .error stop => .error stop
    | .ok (c, t) => readStringFrom (c :: read) t.val
  | '\\' :: e :: r =>
    match simpleEscape? e with
    | some c => readStringFrom (c :: read) r
    | none => .error (.next .invalidEscape (e :: r))
  | ['\\'] => .error (.before .endInString [])
  | c :: r =>
    if c.toNat < 32 then .error (.next .controlCharacter (c :: r))
    else readStringFrom (c :: read) r
termination_by s.length
decreasing_by
  · exact ((t.cons 'u').cons '\\').property
  · exact ((Rest.after e r).cons '\\').property
  · exact (Rest.after c r).property

/-! ### Progress -/

theorem length_le_of_readString {read s cs r : List Char}
    (h : readStringFrom read s = .ok (cs, r)) :
  r.length < s.length
  := by
  fun_induction readStringFrom read s <;> simp_all <;> omega

theorem length_spanDigits (s : List Char) :
  (spanDigits s).2.length ≤ s.length
  := (List.dropWhile_sublist _).length_le

theorem length_lt_of_spanDigits {s digits rest : List Char}
    (h : spanDigits s = (digits, rest)) (hd : digits ≠ []) :
  rest.length < s.length
  := by
  have hs : digits ++ rest = s := by
    simp only [spanDigits, Prod.mk.injEq] at h
    rw [← h.1, ← h.2, List.takeWhile_append_dropWhile]
  rw [← hs]
  simp [List.length_pos_iff.mpr hd]

theorem length_readExponentDigits (n : Nat) (s : List Char) :
  (readExponentDigits n s).2.length ≤ s.length
  := by
  induction s generalizing n with
  | nil => simp [readExponentDigits]
  | cons c s ih =>
    simp only [readExponentDigits]
    split
    · split
      · simp
      · have := ih (n * 10 + digitValue c)
        simp
        omega
    · simp

theorem rest_of_scaled {negative : Bool} {significand : Nat} {exponent : Int}
    {rest r : List Char} {v : Json} (h : scaled negative significand exponent rest = .ok (v, r)) :
  r = rest
  := by
  unfold scaled at h
  split at h
  · simp_all
  · simp at h

theorem length_lt_of_readExponent {negative : Bool} {significand : Nat} {exponent : Int}
    {s r : List Char} {v : Json} (h : readExponent negative significand exponent s = .ok (v, r)) :
  r.length < s.length
  := by
  have key : ∀ (down : Bool) (t : List Char), t.length ≤ s.length →
      (match t with
        | [] => .error (.before .endInValue [])
        | c :: r =>
          if !c.isDigit then .error (.next .invalidNumber (c :: r))
          else
            match readExponentDigits (digitValue c) r with
            | (some power, rest) =>
              scaled negative significand (if down then exponent - power else exponent + power)
                rest
            | (none, rest) =>
              if significand != 0 && !down then .error (.before .numberOutOfRange rest)
              else .ok (signed negative 0, (spanDigits rest).2)) = Except.ok (v, r) →
      r.length < s.length := by
    intro down t ht h
    cases t with
    | nil => simp at h
    | cons c t =>
      simp only at h
      split at h
      · simp at h
      · have hl := length_readExponentDigits (digitValue c) t
        split at h
        · rename_i heq
          have := rest_of_scaled h
          simp_all
          omega
        · rename_i rest heq
          split at h
          · simp at h
          · simp only [Except.ok.injEq, Prod.mk.injEq] at h
            have := length_spanDigits rest
            simp_all
            omega
  unfold readExponent at h
  split at h
  rename_i down t heq
  split at heq
  · simp only [Prod.mk.injEq] at heq
    exact key down t (by simp [← heq.2]) h
  · simp only [Prod.mk.injEq] at heq
    exact key down t (by simp [← heq.2]) h
  · simp only [Prod.mk.injEq] at heq
    exact key down t (by simp [← heq.2]) h

theorem length_le_of_readTail {negative : Bool} {significand : Nat} {exponent : Int}
    {s r : List Char} {v : Json} (h : readTail negative significand exponent s = .ok (v, r)) :
  r.length ≤ s.length
  := by
  unfold readTail at h
  split at h
  · have := length_lt_of_readExponent h
    simp only [List.length_cons]
    omega
  · have := length_lt_of_readExponent h
    simp only [List.length_cons]
    omega
  · exact Nat.le_of_eq (congrArg List.length (rest_of_scaled h))

theorem length_lt_of_readFraction {negative : Bool} {significand : Nat} {exponent : Int}
    {s r : List Char} {v : Json} (h : readFraction negative significand exponent s = .ok (v, r)) :
  r.length < s.length
  := by
  unfold readFraction at h
  split at h
  · simp at h
  · simp at h
  · rename_i digits rest _ hne heq
    have h₁ := length_lt_of_spanDigits heq hne
    have h₂ := length_le_of_readTail h
    omega

theorem length_lt_of_readUnsignedNumber {negative : Bool} {s r : List Char} {v : Json}
    (h : readUnsignedNumber negative s = .ok (v, r)) :
  r.length < s.length
  := by
  unfold readUnsignedNumber at h
  split at h
  · simp at h
  · simp at h
  · simp at h
  · rename_i digits rest _ hne _ heq
    have h₁ := length_lt_of_spanDigits heq hne
    simp only at h
    split at h
    · have h₂ := length_lt_of_readFraction h
      simp at h₁
      omega
    · have h₂ := length_lt_of_readExponent h
      simp at h₁
      omega
    · have h₂ := length_lt_of_readExponent h
      simp at h₁
      omega
    · split at h
      · simp_all
      · rw [rest_of_scaled h]
        exact h₁

theorem length_lt_of_readNumber {s r : List Char} {v : Json} (h : readNumber s = .ok (v, r)) :
  r.length < s.length
  := by
  unfold readNumber at h
  split at h
  · have := length_lt_of_readUnsignedNumber h
    simp
    omega
  · exact length_lt_of_readUnsignedNumber h

end MojoToolchain.Json
