import MojoToolchain.Proofs.Json.Grammar

/-!
# Passes over words and string literals

What a pass over the characters of a text does to a token follows from what it does to single
characters: a pass that keeps each character of words keeps words, and one that keeps what stands
between quotes keeps string literals (`KeepsLiterals`).
-/

namespace MojoToolchain.Json.Grammar

/-! ### Words -/

/-- The characters that numbers and names are made of. -/
def isWordChar (c : Char) : Bool := c.isAlphanum || c == '-' || c == '+' || c == '.'

theorem ne_of_isWordChar {c e : Char} (hc : isWordChar c) (he : isWordChar e = false) :
  c ≠ e
  := by
  rintro rfl
  rw [hc] at he
  contradiction

/-- A pass over texts that keeps each character of words keeps words. -/
theorem append_of_isWordChar {pass : List Char → List Char}
    (hpass : ∀ c s, isWordChar c → pass (c :: s) = c :: pass s) {cs : List Char}
    (hcs : ∀ c ∈ cs, isWordChar c) (s : List Char) :
  pass (cs ++ s) = cs ++ pass s
  := by
  induction cs with
  | nil => rfl
  | cons c cs ih =>
    rw [List.forall_mem_cons] at hcs
    rw [List.cons_append, hpass c _ hcs.1, ih hcs.2]
    rfl

theorem isWordChar_of_isDigit {c : Char} (h : c.isDigit) :
  isWordChar c
  := by
  delta isWordChar Char.isAlphanum
  simp [h]

theorem Digits.isWordChar {cs : List Char} (h : Digits cs) :
  ∀ c ∈ cs, isWordChar c
  := by
  intro c hc
  apply isWordChar_of_isDigit
  exact List.all_eq_true.mp h.2 c hc

theorem Fraction.isWordChar {cs : List Char} (h : Fraction cs) :
  ∀ c ∈ cs, isWordChar c
  := by
  rcases h with rfl | ⟨ds, hds, rfl⟩
  · simp
  · rw [List.forall_mem_cons]
    exact ⟨by decide, hds.isWordChar⟩

theorem isWordChar_of_sign {sign : List Char} (h : sign ∈ [[], ['+'], ['-']]) :
  ∀ c ∈ sign, isWordChar c
  := by
  simp only [List.mem_cons, List.not_mem_nil, or_false] at h
  rcases h with rfl | rfl | rfl
  · simp
  · simp [isWordChar]
  · simp [isWordChar]

theorem Exponent.isWordChar {cs : List Char} (h : Exponent cs) :
  ∀ c ∈ cs, isWordChar c
  := by
  rcases h with rfl | ⟨e, he, sign, hsign, ds, hds, rfl⟩
  · simp
  · rw [List.forall_mem_cons, List.forall_mem_append]
    refine ⟨?_, isWordChar_of_sign hsign, hds.isWordChar⟩
    simp only [List.mem_cons, List.not_mem_nil, or_false] at he
    rcases he with rfl | rfl <;> rfl

theorem Number.isWordChar {cs : List Char} (h : Number cs) :
  ∀ c ∈ cs, isWordChar c
  := by
  obtain ⟨sign, hsign, whole, fraction, exponent, hwhole, hfraction, hexponent, rfl⟩ := h
  rw [List.forall_mem_append, List.forall_mem_append, List.forall_mem_append]
  refine ⟨?_, hwhole.1.isWordChar, hfraction.isWordChar, hexponent.isWordChar⟩
  apply isWordChar_of_sign
  simp only [List.mem_cons, List.not_mem_nil, or_false] at hsign ⊢
  rcases hsign with rfl | rfl
  · exact .inl rfl
  · exact .inr (.inr rfl)

theorem Number.ne_nil {cs : List Char} (h : Number cs) :
  cs ≠ []
  := by
  obtain ⟨sign, -, whole, fraction, exponent, hwhole, -, -, rfl⟩ := h
  simp [hwhole.1.1]

namespace Word

theorem isWordChar_of_mem (w : Word) :
  ∀ c ∈ w.chars, isWordChar c
  := by
  rcases w.wellFormed with h | h
  · have hnames : names.all (fun cs => cs.all isWordChar) := by decide
    exact List.all_eq_true.mp (List.all_eq_true.mp hnames w.chars h)
  · exact h.isWordChar

theorem ne_nil (w : Word) :
  w.chars ≠ []
  := by
  rcases w.wellFormed with h | h
  · intro hw
    rw [hw] at h
    revert h
    decide
  · exact h.ne_nil

end Word

/-! ### String literals -/

/-- A text that a closing quote may follow: it holds no quote but behind a backslash. -/
inductive Quoted : List Char → Prop
  | nil : Quoted []
  | char {c : Char} {cs : List Char} (hquote : c ≠ '"') (hbackslash : c ≠ '\\') :
      Quoted cs → Quoted (c :: cs)
  | pair {c : Char} {cs : List Char} : Quoted cs → Quoted ('\\' :: c :: cs)

theorem Quoted.hexDigit {c : Char} {cs : List Char} (hc : isHexDigit c) (h : Quoted cs) :
  Quoted (c :: cs)
  := by
  apply Quoted.char _ _ h
  · rintro rfl
    exact absurd hc (by decide)
  · rintro rfl
    exact absurd hc (by decide)

theorem Body.quoted {cs : List Char} (h : Body cs) :
  Quoted cs
  := by
  induction h with
  | nil => exact .nil
  | char _ hquote hbackslash _ ih => exact .char hquote hbackslash ih
  | escape _ _ ih => exact .pair ih
  | unicode hdigits _ ih =>
    simp only [List.forall_mem_cons] at hdigits
    obtain ⟨ha, hb, hc, hd, -⟩ := hdigits
    exact .pair (.hexDigit ha (.hexDigit hb (.hexDigit hc (.hexDigit hd ih))))

/-- A pass over texts keeps string literals: `inside` is what it does inside of a literal, and
`outside` is what it does after one. -/
structure KeepsLiterals (inside outside : List Char → List Char) : Prop where
  nil : inside [] = []
  quote (s : List Char) : inside ('"' :: s) = '"' :: outside s
  char (c : Char) (s : List Char) (hquote : c ≠ '"') (hbackslash : c ≠ '\\') :
    inside (c :: s) = c :: inside s
  pair (c : Char) (s : List Char) : inside ('\\' :: c :: s) = '\\' :: c :: inside s
  backslash : inside ['\\'] = ['\\']

namespace KeepsLiterals

variable {inside outside : List Char → List Char}

theorem append (h : KeepsLiterals inside outside) {cs : List Char} (hcs : Quoted cs)
    (s : List Char) :
  inside (cs ++ '"' :: s) = cs ++ '"' :: outside s
  := by
  induction hcs with
  | nil => exact h.quote s
  | char hquote hbackslash _ ih =>
    rw [List.cons_append, h.char _ _ hquote hbackslash, ih]
    rfl
  | pair _ ih =>
    rw [List.cons_append, List.cons_append, h.pair, ih]
    rfl

/-- The first character of a text stays. -/
theorem exists_inside_cons (h : KeepsLiterals inside outside) (c : Char) (r : List Char) :
  ∃ u, inside (c :: r) = c :: u
  := by
  by_cases hquote : c = '"'
  · rw [hquote]
    exact ⟨_, h.quote r⟩
  by_cases hbackslash : c = '\\'
  · rw [hbackslash]
    cases r with
    | nil => exact ⟨_, h.backslash⟩
    | cons e r => exact ⟨_, h.pair e r⟩
  · exact ⟨_, h.char c r hquote hbackslash⟩

theorem exists_cons (h : KeepsLiterals inside outside) {s u : List Char} {c : Char}
    (hs : inside s = c :: u) :
  ∃ r, s = c :: r
  := by
  cases s with
  | nil => simp [h.nil] at hs
  | cons e r =>
    obtain ⟨v, hv⟩ := h.exists_inside_cons e r
    rw [hv] at hs
    exact ⟨r, by rw [(List.cons.inj hs).1]⟩

theorem eq_append (h : KeepsLiterals inside outside) {cs s u : List Char} (hcs : Quoted cs)
    (hs : inside s = cs ++ '"' :: u) :
  ∃ r, s = cs ++ '"' :: r ∧ outside r = u
  := by
  induction hcs generalizing s with
  | nil =>
    obtain ⟨r, rfl⟩ := h.exists_cons hs
    rw [h.quote] at hs
    exact ⟨r, rfl, (List.cons.inj hs).2⟩
  | char hquote hbackslash _ ih =>
    obtain ⟨r, rfl⟩ := h.exists_cons hs
    rw [h.char _ _ hquote hbackslash] at hs
    obtain ⟨r, rfl, hr⟩ := ih (List.cons.inj hs).2
    exact ⟨r, rfl, hr⟩
  | pair _ ih =>
    obtain ⟨r, rfl⟩ := h.exists_cons hs
    cases r with
    | nil => simp [h.backslash] at hs
    | cons e r =>
      rw [h.pair, List.cons_append, List.cons_append, List.cons.injEq, List.cons.injEq] at hs
      obtain ⟨-, rfl, hs⟩ := hs
      obtain ⟨r, rfl, hr⟩ := ih hs
      exact ⟨r, rfl, hr⟩

end KeepsLiterals

end MojoToolchain.Json.Grammar
