import MojoToolchain.Json.Commented
import MojoToolchain.Proofs.Json.Spelling

/-!
# Deleting comments

A text without its comments spells the same tokens (`Spelled.dropComments`).  Conversely a text
spells the tokens that it spells without its comments, if the dialect also permits block comments
inside numbers and names and one that is not closed (`Spelled.of_dropComments`): a block comment
goes without leaving a blank, and nothing looks for its end.
-/

namespace MojoToolchain.Json.Grammar

attribute [simp] dropCommentsAt

variable {d : Dialect} {s t : List Char}

/-! ### Comments -/

/-- The line feeds of a text. -/
def lineFeeds (t : List Char) : List Char := t.filter (· == '\n')

theorem isSpace_of_mem_lineFeeds {c : Char} (h : c ∈ lineFeeds t) :
  isSpace c
  := by
  rw [lineFeeds, List.mem_filter, beq_iff_eq] at h
  rw [h.2]
  rfl

/-- A text that holds no line feed goes without a trace. -/
theorem lineFeeds_eq_nil_iff :
  lineFeeds t = [] ↔ '\n' ∉ t
  := by
  rw [lineFeeds, List.filter_eq_nil_iff]
  constructor
  · intro h hn
    exact h '\n' hn rfl
  · intro h c hc heq
    exact h (eq_of_beq heq ▸ hc)

theorem Unclosed.tail {c : Char} (h : Unclosed (c :: t)) :
  Unclosed t
  := by
  intro ht
  apply h (ht.trans (List.suffix_cons c t).isInfix)

/-- No comment ends where a text that has no end goes on with an asterisk. -/
theorem Unclosed.not_prefix {c : Char} (h : Unclosed (c :: t)) :
  ¬ ['*', '/'] <+: c :: (t ++ '*' :: s)
  := by
  intro hp
  cases t with
  | nil => simp at hp
  | cons e t =>
    simp only [List.cons_append, List.cons_prefix_cons, List.nil_prefix, and_true] at hp
    apply h
    rw [← hp.1, ← hp.2]
    exact (List.prefix_append ['*', '/'] t).isInfix

theorem dropCommentsAt_line_cons {c : Char} (hc : c ≠ '\n') :
  dropCommentsAt .lineComment (c :: s) = dropCommentsAt .lineComment s
  := by
  simp [hc]

theorem dropComments_line (ht : '\n' ∉ t) (hs : AtLineEnd s) :
  dropComments ('/' :: '/' :: (t ++ s)) = dropComments s
  := by
  rw [dropComments, dropCommentsAt]
  induction t with
  | nil =>
    rcases hs with rfl | ⟨r, rfl⟩
    · rfl
    · simp [dropComments]
  | cons c t ih =>
    rw [List.mem_cons, not_or] at ht
    rw [List.cons_append, dropCommentsAt_line_cons (Ne.symm ht.1)]
    exact ih ht.2

theorem dropCommentsAt_block_cons {c : Char} (h : ¬ ['*', '/'] <+: c :: s) :
  dropCommentsAt .blockComment (c :: s) = lineFeeds [c] ++ dropCommentsAt .blockComment s
  := by
  rw [dropCommentsAt]
  · by_cases hc : c = '\n' <;> simp [lineFeeds, hc]
  · rintro r rfl rfl
    simp at h

theorem dropCommentsAt_block (ht : Unclosed t) :
  dropCommentsAt .blockComment (t ++ '*' :: '/' :: s) = lineFeeds t ++ dropComments s
  := by
  induction t with
  | nil => rfl
  | cons c t ih =>
    rw [List.cons_append, dropCommentsAt_block_cons ht.not_prefix, ih ht.tail,
      ← List.append_assoc]
    congr 1
    exact (List.filter_append (p := (· == '\n')) [c] t).symm

theorem dropCommentsAt_openBlock (ht : Unclosed t) :
  dropCommentsAt .blockComment t = lineFeeds t
  := by
  induction t with
  | nil => rfl
  | cons c t ih =>
    rw [dropCommentsAt_block_cons fun hp => ht hp.isInfix, ih ht.tail]
    exact (List.filter_append (p := (· == '\n')) [c] t).symm

theorem dropComments_block (ht : Unclosed t) :
  dropComments ('/' :: '*' :: (t ++ '*' :: '/' :: s)) = lineFeeds t ++ dropComments s
  := by
  rw [dropComments, dropCommentsAt]
  exact dropCommentsAt_block ht

theorem dropComments_openBlock (ht : Unclosed t) :
  dropComments ('/' :: '*' :: t) = lineFeeds t
  := by
  rw [dropComments, dropCommentsAt]
  exact dropCommentsAt_openBlock ht

/-! ### Tokens -/

theorem dropComments_cons {c : Char} (hslash : c ≠ '/') (hquote : c ≠ '"') :
  dropComments (c :: s) = c :: dropComments s
  := by
  rw [dropComments, dropCommentsAt]
  · simp [hquote, dropComments]
  · rintro r rfl
    contradiction
  · rintro r rfl
    contradiction

theorem dropComments_quote :
  dropComments ('"' :: s) = '"' :: dropCommentsAt .literal s
  := by
  simp [dropComments]

/-- Comment marks inside of a string literal stay. -/
theorem keepsLiterals_dropCommentsAt :
  KeepsLiterals (dropCommentsAt .literal) dropComments
  where
  nil := rfl
  quote s := by simp [dropComments]
  char c s hquote hbackslash := by
    rw [dropCommentsAt]
    · simp [hquote]
    · rintro e r rfl
      contradiction
  pair c s := by rw [dropCommentsAt]
  backslash := by simp

theorem dropComments_wordChar (c : Char) (s : List Char) (hc : isWordChar c) :
  dropComments (c :: s) = c :: dropComments s
  := dropComments_cons (ne_of_isWordChar hc rfl) (ne_of_isWordChar hc rfl)

theorem dropComments_mark (m : Mark) :
  dropComments (m.char :: s) = m.char :: dropComments s
  := by
  apply dropComments_cons
  · cases m <;> decide
  · cases m <;> decide

/-- A token stays as it is. -/
theorem dropComments_token (k : Token) :
  dropComments (k.chars ++ s) = k.chars ++ dropComments s
  := by
  cases k with
  | mark m => exact dropComments_mark m
  | word w => exact append_of_isWordChar dropComments_wordChar w.isWordChar_of_mem s
  | literal l =>
    simp only [Token.chars, List.cons_append, List.append_assoc, List.nil_append]
    rw [dropComments_quote, keepsLiterals_dropCommentsAt.append l.wellFormed.quoted]

/-- A word closes up when the comments in it go. -/
theorem dropComments_interrupted {cs : List Char} (h : Interrupted cs t)
    (hcs : ∀ c ∈ cs, isWordChar c) :
  dropComments (t ++ s) = cs ++ dropComments s
  := by
  induction h with
  | nil => rfl
  | char c _ ih =>
    rw [List.forall_mem_cons] at hcs
    rw [List.cons_append, dropComments_wordChar c _ hcs.1, ih hcs.2]
    rfl
  | comment ht hline _ ih =>
    simp only [List.cons_append, List.append_assoc]
    rw [dropComments_block ht, lineFeeds_eq_nil_iff.mpr hline, ih hcs]
    rfl

theorem dropComments_space {c : Char} (hc : isSpace c) :
  dropComments (c :: s) = c :: dropComments s
  := dropComments_cons (ne_of_isSpace hc rfl) (ne_of_isSpace hc rfl)

/-- A text without its comments spells the same tokens. -/
theorem Spelled.dropComments {ks : List Token} (h : Spelled d ks s) :
  Spelled .json ks (dropComments s)
  := by
  induction h with
  | nil => exact .nil
  | space hc _ ih =>
    rw [dropComments_space hc]
    exact .space hc ih
  | line _ ht hs _ ih =>
    rw [dropComments_line ht hs]
    exact ih
  | block _ ht _ ih =>
    rw [dropComments_block ht]
    exact ih.spaces fun c => isSpace_of_mem_lineFeeds
  | @openBlock t _ ht =>
    rw [dropComments_openBlock ht, ← List.append_nil (lineFeeds t)]
    exact Spelled.nil.spaces fun c => isSpace_of_mem_lineFeeds
  | token k _ ih =>
    rw [dropComments_token k]
    exact .token k ih
  | @interrupted w t ks s _ ht _ ih =>
    rw [dropComments_interrupted ht w.isWordChar_of_mem]
    exact .token (.word w) ih

/-- A text of RFC 8259 has no comments. -/
theorem Spelled.dropComments_eq {ks : List Token} (h : Spelled .json ks s) :
  Json.dropComments s = s
  := by
  induction h using Spelled.json_induction with
  | nil => rfl
  | space hc _ ih => rw [dropComments_space hc, ih]
  | token k _ ih => rw [dropComments_token k, ih]

/-! ### Texts that spell tokens without their comments -/

theorem exists_line (s : List Char) :
  ∃ t r, s = t ++ r ∧ '\n' ∉ t ∧ AtLineEnd r
  := by
  induction s with
  | nil => exact ⟨[], [], rfl, by simp, .inl rfl⟩
  | cons c s ih =>
    by_cases hc : c = '\n'
    · exact ⟨[], c :: s, rfl, by simp, .inr ⟨s, by rw [hc]⟩⟩
    · obtain ⟨t, r, rfl, ht, hr⟩ := ih
      refine ⟨c :: t, r, rfl, ?_, hr⟩
      rw [List.mem_cons, not_or]
      exact ⟨Ne.symm hc, ht⟩

theorem closed_or_unclosed (s : List Char) :
  (∃ t r, s = t ++ '*' :: '/' :: r ∧ Unclosed t) ∨ Unclosed s
  := by
  induction s with
  | nil => exact .inr (by simp [Unclosed])
  | cons c s ih =>
    by_cases hp : ['*', '/'] <+: c :: s
    · obtain ⟨r, hr⟩ := hp
      exact .inl ⟨[], r, hr.symm, by simp [Unclosed]⟩
    rcases ih with ⟨t, r, rfl, ht⟩ | hs
    · refine .inl ⟨c :: t, r, rfl, ?_⟩
      intro hi
      rcases List.infix_cons_iff.mp hi with hi | hi
      · exact hp (hi.trans (List.prefix_append (c :: t) _))
      · exact ht hi
    · right
      intro hi
      rcases List.infix_cons_iff.mp hi with hi | hi
      · exact hp hi
      · exact hs hi

/-- A text starts with a comment or with a character that stays. -/
theorem dropComments_cases (s : List Char) :
  s = [] ∨ (∃ r, s = '/' :: '/' :: r) ∨ (∃ r, s = '/' :: '*' :: r)
    ∨ ∃ c r place, s = c :: r ∧ dropComments (c :: r) = c :: dropCommentsAt place r
  := by
  by_cases hline : ∃ r, s = '/' :: '/' :: r
  · exact .inr (.inl hline)
  by_cases hblock : ∃ r, s = '/' :: '*' :: r
  · exact .inr (.inr (.inl hblock))
  cases s with
  | nil => exact .inl rfl
  | cons c r =>
    refine .inr (.inr (.inr ⟨c, r, if c == '"' then .literal else .code, rfl, ?_⟩))
    rw [dropComments, dropCommentsAt]
    · rintro u rfl rfl
      exact hline ⟨u, rfl⟩
    · rintro u rfl rfl
      exact hblock ⟨u, rfl⟩

/-- Induction on a text by what it starts with.  After a character that stays, which may open a
string literal, the text may be taken up again at any place. -/
theorem code_induction {P : List Char → Prop} (nil : P [])
    (line : ∀ t s, '\n' ∉ t → AtLineEnd s → P s → P ('/' :: '/' :: (t ++ s)))
    (block : ∀ t s, Unclosed t → P s → P ('/' :: '*' :: (t ++ '*' :: '/' :: s)))
    (openBlock : ∀ t, Unclosed t → P ('/' :: '*' :: t))
    (char : ∀ c s, (∃ place, dropComments (c :: s) = c :: dropCommentsAt place s) →
      (∀ r : List Char, r.length ≤ s.length → P r) → P (c :: s))
    (s : List Char) :
  P s
  := by
  induction hn : s.length using Nat.strongRecOn generalizing s with
  | _ n ih =>
    subst hn
    rcases dropComments_cases s with rfl | ⟨s, rfl⟩ | ⟨s, rfl⟩ | ⟨c, s, place, rfl, hplace⟩
    · exact nil
    · obtain ⟨t, r, rfl, ht, hr⟩ := exists_line s
      exact line t r ht hr (ih r.length (by simp; omega) r rfl)
    · rcases closed_or_unclosed s with ⟨t, r, rfl, ht⟩ | hs
      · exact block t r ht (ih r.length (by simp; omega) r rfl)
      · exact openBlock s hs
    · apply char c s ⟨place, hplace⟩
      intro r hr
      exact ih r.length (by simp; omega) r rfl

theorem Interrupted.length_le {cs : List Char} (h : Interrupted cs t) :
  cs.length ≤ t.length
  := by
  induction h with
  | nil => exact Nat.le_refl _
  | char c _ ih => simp [ih]
  | comment _ _ _ ih =>
    simp only [List.length_cons, List.length_append]
    omega

/-- At the end of a line there is no word. -/
theorem AtLineEnd.ne_append {cs u : List Char} (hs : AtLineEnd s) (hcs : ∀ c ∈ cs, isWordChar c)
    (hne : cs ≠ []) :
  s ≠ cs ++ u
  := by
  obtain ⟨c, cs, rfl⟩ := List.exists_cons_of_ne_nil hne
  rw [List.forall_mem_cons] at hcs
  rcases hs with rfl | ⟨r, rfl⟩
  · simp
  · intro h
    rw [← (List.cons.inj h).1] at hcs
    exact absurd hcs.1 (by decide)

theorem AtLineEnd.dropComments (hs : AtLineEnd s) :
  AtLineEnd (dropComments s)
  := by
  rcases hs with rfl | ⟨r, rfl⟩
  · exact .inl rfl
  · rw [dropComments_space rfl]
    exact .inr ⟨_, rfl⟩

theorem atLineEnd_lineFeeds (ht : lineFeeds t ≠ []) (s : List Char) :
  AtLineEnd (lineFeeds t ++ s)
  := by
  obtain ⟨c, cs, hc⟩ := List.exists_cons_of_ne_nil ht
  have hmem : c ∈ lineFeeds t := hc ▸ List.mem_cons_self
  rw [lineFeeds, List.mem_filter, beq_iff_eq] at hmem
  rw [hc, hmem.2]
  exact .inr ⟨_, rfl⟩

/-- What turns into a word is the word with comments in it. -/
theorem exists_interrupted {cs u : List Char} (hcs : ∀ c ∈ cs, isWordChar c) (hne : cs ≠ [])
    (hs : dropComments s = cs ++ u) :
  ∃ t r, s = t ++ r ∧ Interrupted cs t ∧ dropComments r = u
  := by
  induction s using code_induction generalizing cs with
  | nil => exact absurd hs (AtLineEnd.ne_append (.inl rfl) hcs hne)
  | line t s ht hline ih =>
    rw [dropComments_line ht hline] at hs
    exact absurd hs (hline.dropComments.ne_append hcs hne)
  | block t s ht ih =>
    rw [dropComments_block ht] at hs
    by_cases hline : lineFeeds t = []
    · rw [hline] at hs
      obtain ⟨w, r, rfl, hw, hr⟩ := ih hcs hne hs
      refine ⟨_, r, ?_, .comment ht (lineFeeds_eq_nil_iff.mp hline) hw, hr⟩
      simp
    · exact absurd hs ((atLineEnd_lineFeeds hline _).ne_append hcs hne)
  | openBlock t ht =>
    rw [dropComments_openBlock ht, ← List.append_nil (lineFeeds t)] at hs
    by_cases hline : lineFeeds t = []
    · rw [hline] at hs
      exact absurd hs (AtLineEnd.ne_append (.inl rfl) hcs hne)
    · exact absurd hs ((atLineEnd_lineFeeds hline _).ne_append hcs hne)
  | char c s hplace ih =>
    obtain ⟨e, cs, rfl⟩ := List.exists_cons_of_ne_nil hne
    rw [List.forall_mem_cons] at hcs
    obtain ⟨place, hplace⟩ := hplace
    obtain rfl : c = e := (List.cons.inj (hplace.symm.trans hs)).1
    rw [dropComments_wordChar c s hcs.1] at hs
    replace hs := (List.cons.inj hs).2
    by_cases hnil : cs = []
    · rw [hnil] at hs ⊢
      exact ⟨[c], s, rfl, .char c .nil, hs⟩
    · obtain ⟨t, r, rfl, ht, hr⟩ := ih s (Nat.le_refl _) hcs.2 hnil hs
      exact ⟨c :: t, r, rfl, .char c ht, hr⟩

/-- What turns into a token is the token, or a word with comments in it; a comment before it is
not taken along. -/
theorem exists_token_text {c : Char} {u : List Char} (k : Token)
    (hplace : ∃ place, dropComments (c :: s) = c :: dropCommentsAt place s)
    (hs : dropComments (c :: s) = k.chars ++ u) :
  ∃ r, r.length ≤ s.length ∧ dropComments r = u
    ∧ ∀ ls, Spelled .lenient ls r → Spelled .lenient (k :: ls) (c :: s)
  := by
  obtain ⟨place, hplace⟩ := hplace
  cases k with
  | mark m =>
    obtain rfl : c = m.char := (List.cons.inj (hplace.symm.trans hs)).1
    rw [dropComments_mark] at hs
    exact ⟨s, Nat.le_refl _, (List.cons.inj hs).2, fun ls => .token (.mark m)⟩
  | word w =>
    obtain ⟨t, r, ht, hw, hr⟩ := exists_interrupted w.isWordChar_of_mem w.ne_nil hs
    refine ⟨r, ?_, hr, ?_⟩
    · have hlength := congrArg List.length ht
      have hpos := List.length_pos_iff.mpr w.ne_nil
      have hle := hw.length_le
      simp only [List.length_cons, List.length_append] at hlength
      omega
    · intro ls hls
      rw [ht]
      exact .interrupted rfl hw hls
  | literal l =>
    obtain rfl : c = '"' := (List.cons.inj (hplace.symm.trans hs)).1
    simp only [dropComments_quote, Token.chars, List.cons_append, List.append_assoc,
      List.nil_append, List.cons.injEq, true_and] at hs
    obtain ⟨r, rfl, hr⟩ := keepsLiterals_dropCommentsAt.eq_append l.wellFormed.quoted hs
    refine ⟨r, by simp; omega, hr, ?_⟩
    intro ls hls
    have h := Spelled.token (.literal l) hls
    simpa [Token.chars] using h

/-- A text spells the tokens that it spells without its comments, if block comments may stand
inside words and the last one may be open. -/
theorem Spelled.of_dropComments {ks : List Token} (h : Spelled .json ks (Json.dropComments s)) :
  Spelled .lenient ks s
  := by
  induction s using code_induction generalizing ks with
  | nil =>
    rw [h.eq_nil]
    exact .nil
  | line t s ht hs ih =>
    rw [dropComments_line ht hs] at h
    exact .line rfl ht hs (ih h)
  | block t s ht ih =>
    rw [dropComments_block ht] at h
    exact .block rfl ht (ih (h.of_spaces fun c => isSpace_of_mem_lineFeeds))
  | openBlock t ht =>
    rw [dropComments_openBlock ht, ← List.append_nil (lineFeeds t)] at h
    rw [(h.of_spaces fun c => isSpace_of_mem_lineFeeds).eq_nil]
    exact .openBlock rfl ht
  | char c s hplace ih =>
    by_cases hc : isSpace c
    · rw [dropComments_space hc] at h
      exact .space hc (ih s (Nat.le_refl _) (h.of_space hc))
    · -- A character that stays starts a token; the tokens after it are read from where it ends.
      have hfirst := hplace
      obtain ⟨place, hstays⟩ := hplace
      rw [hstays] at h
      obtain ⟨k, ls, u, rfl, hu, hls⟩ := h.exists_token (Bool.eq_false_iff.mpr hc)
      rw [← hstays] at hu
      obtain ⟨r, hr, rfl, htoken⟩ := exists_token_text k hfirst hu
      exact htoken ls (ih r hr hls)

end MojoToolchain.Json.Grammar
