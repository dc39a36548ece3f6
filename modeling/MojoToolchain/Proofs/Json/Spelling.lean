import MojoToolchain.Proofs.Json.Passes
import MojoToolchain.Text.Blank

/-!
# Tokens and their spelling

What a token and a value start with, and how a text of RFC 8259 comes apart: it is white space and
tokens one after the other (`Spelled.json_induction`), and its first character says which.
-/

namespace MojoToolchain.Json.Grammar

/-! ### Starts of values -/

/-- The first token ends a container. -/
def endsNext : List Token → Bool
  | [] => false
  | k :: _ => k.closes

theorem Token.isComma_of_closes {k : Token} (hk : k.closes) :
  k.isComma = false
  := by
  cases k with
  | mark m => cases m <;> first | rfl | contradiction
  | word w => rfl
  | literal l => rfl

/-- A value starts neither with a comma nor with the end of a container. -/
theorem Tree.exists_tokens (v : Tree) :
  ∃ k ks, v.tokens = k :: ks ∧ k.closes = false ∧ k.isComma = false
  := by
  cases v <;> exact ⟨_, _, rfl, rfl, rfl⟩

theorem Items.exists_tokens (items : Items) :
  ∃ k ks, items.tokens = k :: ks ∧ k.closes = false ∧ k.isComma = false
  := by
  cases items with
  | last item comma =>
    obtain ⟨k, ks, hk, hcloses⟩ := item.exists_tokens
    exact ⟨k, ks ++ ending comma, by rw [Items.tokens, hk]; rfl, hcloses⟩
  | more item rest =>
    obtain ⟨k, ks, hk, hcloses⟩ := item.exists_tokens
    exact ⟨k, ks ++ .mark .comma :: rest.tokens, by rw [Items.tokens, hk]; rfl, hcloses⟩

theorem Items.endsNext_tokens (items : Items) (ks : List Token) :
  endsNext (items.tokens ++ ks) = false
  := by
  obtain ⟨k, ls, hk, hcloses, -⟩ := items.exists_tokens
  rw [hk]
  exact hcloses

theorem Members.exists_tokens (members : Members) :
  ∃ l ks, members.tokens = .literal l :: ks
  := by
  cases members <;> exact ⟨_, _, rfl⟩

theorem Members.endsNext_tokens (members : Members) (ks : List Token) :
  endsNext (members.tokens ++ ks) = false
  := by
  obtain ⟨l, ls, hl⟩ := members.exists_tokens
  rw [hl]
  rfl

/-! ### White space and the start of a token -/

theorem ne_of_isSpace {c e : Char} (hc : isSpace c) (he : isSpace e = false) :
  c ≠ e
  := by
  rintro rfl
  rw [hc] at he
  contradiction

theorem toNat_of_isAlphanum {c : Char} (h : c.isAlphanum) :
  (48 ≤ c.toNat ∧ c.toNat ≤ 57) ∨ (65 ≤ c.toNat ∧ c.toNat ≤ 90)
    ∨ (97 ≤ c.toNat ∧ c.toNat ≤ 122)
  := by
  delta Char.isAlphanum Char.isAlpha Char.isUpper Char.isLower Char.isDigit at h
  simpa [UInt32.le_iff_toNat_le, or_comm, or_left_comm, or_assoc] using h

theorem isBlank_of_isWordChar {c : Char} (h : isWordChar c) :
  Text.isBlank c = false
  := by
  simp only [isWordChar, Bool.or_eq_true, beq_iff_eq] at h
  rcases h with ((h | rfl) | rfl) | rfl
  · have hc := toNat_of_isAlphanum h
    simp only [Text.isBlank, Bool.or_eq_false_iff, Bool.and_eq_false_iff, beq_eq_false_iff_ne,
      decide_eq_false_iff_not]
    omega
  · rfl
  · rfl
  · rfl

theorem isBlank_of_isSpace {c : Char} (h : isSpace c) :
  Text.isBlank c
  := by
  simp only [isSpace, Bool.or_eq_true, beq_iff_eq] at h
  rcases h with ((rfl | rfl) | rfl) | rfl <;> rfl

/-- A token starts with a character that is not blank, and with a closing bracket or brace only
if it is that mark. -/
theorem Token.exists_chars (k : Token) :
  ∃ c cs, k.chars = c :: cs ∧ Text.isBlank c = false ∧ (c == ']' || c == '\x7d') = k.closes
  := by
  cases k with
  | mark m =>
    refine ⟨m.char, [], rfl, ?_, ?_⟩
    · cases m <;> rfl
    · cases m <;> rfl
  | word w =>
    obtain ⟨c, cs, hw⟩ := List.exists_cons_of_ne_nil w.ne_nil
    have hc : isWordChar c := w.isWordChar_of_mem c (hw ▸ List.mem_cons_self)
    refine ⟨c, cs, hw, isBlank_of_isWordChar hc, ?_⟩
    apply Bool.eq_false_iff.mpr
    rw [ne_eq, Bool.or_eq_true, beq_iff_eq, beq_iff_eq]
    rintro (rfl | rfl) <;> exact absurd hc (by decide)
  | literal l => exact ⟨'"', l.body ++ ['"'], rfl, rfl, rfl⟩

theorem Token.chars_ne_nil (k : Token) :
  k.chars ≠ []
  := by
  obtain ⟨c, cs, hk, -⟩ := k.exists_chars
  simp [hk]

theorem Token.isSpace_head {k : Token} {c : Char} {cs : List Char} (hk : k.chars = c :: cs) :
  isSpace c = false
  := by
  obtain ⟨e, es, he, hblank, -⟩ := k.exists_chars
  rw [hk, List.cons.injEq] at he
  apply Bool.eq_false_iff.mpr
  intro hc
  rw [he.1] at hc
  rw [isBlank_of_isSpace hc] at hblank
  contradiction

namespace Spelled

variable {d : Dialect} {ks : List Token} {s t : List Char}

theorem spaces (ht : ∀ c ∈ t, isSpace c) (h : Spelled d ks s) :
  Spelled d ks (t ++ s)
  := by
  induction t with
  | nil => exact h
  | cons c t ih =>
    rw [List.forall_mem_cons] at ht
    exact .space ht.1 (ih ht.2)

/-- Induction on what spells the tokens of a text of RFC 8259: white space and tokens. -/
theorem json_induction {motive : ∀ ks s, Spelled .json ks s → Prop} (nil : motive [] [] .nil)
    (space : ∀ {c ks s} (hc : isSpace c) (h : Spelled .json ks s),
      motive ks s h → motive ks (c :: s) (.space hc h))
    (token : ∀ k {ks s} (h : Spelled .json ks s),
      motive ks s h → motive (k :: ks) (k.chars ++ s) (.token k h))
    {ks : List Token} {s : List Char} (h : Spelled .json ks s) :
  motive ks s h
  := by
  induction h with
  | nil => exact nil
  | space hc h ih => exact space hc h ih
  | token k h ih => exact token k h ih
  | line hd => exact absurd hd (by decide)
  | block hd => exact absurd hd (by decide)
  | openBlock hd => exact absurd hd (by decide)
  | interrupted hd => exact absurd hd (by decide)

/-- A text of RFC 8259 is empty, starts with white space or starts with its first token. -/
theorem json_cases (h : Spelled .json ks s) :
  (ks = [] ∧ s = [])
    ∨ (∃ c r, s = c :: r ∧ isSpace c ∧ Spelled .json ks r)
    ∨ ∃ k ls r, ks = k :: ls ∧ s = k.chars ++ r ∧ Spelled .json ls r
  := by
  induction h using json_induction with
  | nil => exact .inl ⟨rfl, rfl⟩
  | @space c ks r hc h => exact .inr (.inl ⟨c, r, rfl, hc, h⟩)
  | @token k ks r h => exact .inr (.inr ⟨k, ks, r, rfl, rfl, h⟩)

theorem eq_nil (h : Spelled .json ks []) :
  ks = []
  := by
  rcases h.json_cases with ⟨rfl, -⟩ | ⟨c, r, hr, -⟩ | ⟨k, ls, r, -, hr, -⟩
  · rfl
  · simp at hr
  · simp [k.chars_ne_nil] at hr

theorem of_space {c : Char} (hc : isSpace c) (h : Spelled .json ks (c :: s)) :
  Spelled .json ks s
  := by
  rcases h.json_cases with ⟨-, hr⟩ | ⟨e, r, hr, -, h⟩ | ⟨k, ls, r, -, hr, -⟩
  · simp at hr
  · rw [(List.cons.inj hr).2]
    exact h
  · obtain ⟨e, es, hk, -⟩ := k.exists_chars
    rw [hk, List.cons_append, List.cons.injEq] at hr
    rw [hr.1, k.isSpace_head hk] at hc
    contradiction

theorem of_spaces (ht : ∀ c ∈ t, isSpace c) (h : Spelled .json ks (t ++ s)) :
  Spelled .json ks s
  := by
  induction t with
  | nil => exact h
  | cons c t ih =>
    rw [List.forall_mem_cons] at ht
    exact ih ht.2 (h.of_space ht.1)

/-- A text that starts with no white space starts with its first token. -/
theorem exists_token {c : Char} (hc : isSpace c = false) (h : Spelled .json ks (c :: s)) :
  ∃ k ls r, ks = k :: ls ∧ c :: s = k.chars ++ r ∧ Spelled .json ls r
  := by
  rcases h.json_cases with ⟨-, hr⟩ | ⟨e, r, hr, he, -⟩ | h
  · simp at hr
  · rw [(List.cons.inj hr).1, he] at hc
    contradiction
  · exact h

/-- Where no comment stands inside of words, a text that starts neither with white space nor with
a comment starts with its first token. -/
theorem exists_token_of_ne_slash {c : Char} (hd : d.interruptions = false)
    (hc : isSpace c = false) (hslash : c ≠ '/') (h : Spelled d ks (c :: s)) :
  ∃ k ls r, ks = k :: ls ∧ c :: s = k.chars ++ r ∧ Spelled d ls r
  := by
  generalize hr : c :: s = r at h
  cases h with
  | nil => contradiction
  | space he =>
    rw [← (List.cons.inj hr).1, hc] at he
    contradiction
  | line => exact absurd (List.cons.inj hr).1 hslash
  | block => exact absurd (List.cons.inj hr).1 hslash
  | openBlock => exact absurd (List.cons.inj hr).1 hslash
  | token k h => exact ⟨k, _, _, rfl, rfl, h⟩
  | interrupted hi =>
    rw [hd] at hi
    contradiction

end Spelled

end MojoToolchain.Json.Grammar
