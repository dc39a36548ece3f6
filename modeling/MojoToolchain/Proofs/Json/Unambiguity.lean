import MojoToolchain.Proofs.Json.Spelling

/-!
# The one value of a text

A text of RFC 8259 is read in one way only: its characters make up one list of tokens in which
no two words touch (`Spelled.eq_of_apart`), and tokens make up one tree (`Tree.tokens_injective`).
-/

namespace MojoToolchain.Json.Grammar

variable {s r : List Char} {ks ls : List Token}

/-! ### Words that do not touch -/

/-- The token is a word. -/
def Token.isWord : Token → Bool
  | word _ => true
  | _ => false

/-- The first token is a word. -/
def wordNext : List Token → Bool
  | [] => false
  | k :: _ => k.isWord

/-- No word stands right behind another one. -/
def Apart : List Token → Prop
  | [] => True
  | k :: ks => (k.isWord && wordNext ks) = false ∧ Apart ks

theorem wordNext_ending (comma : Bool) {k : Token} (hk : k.closes) (ks : List Token) :
  wordNext (ending comma ++ k :: ks) = false
  := by
  cases comma with
  | true => rfl
  | false =>
    cases k with
    | mark m => rfl
    | word w => contradiction
    | literal l => contradiction

theorem apart_ending (comma : Bool) {k : Token} (hk : k.closes) (hks : Apart ks) :
  Apart (ending comma ++ k :: ks)
  := by
  have h : Apart (k :: ks) := by
    refine ⟨?_, hks⟩
    cases k with
    | mark m => rfl
    | word w => contradiction
    | literal l => contradiction
  cases comma with
  | true => exact ⟨rfl, h⟩
  | false => exact h

mutual

/-- No two words of a value touch. -/
theorem Tree.apart_tokens (v : Tree) {ks : List Token} (hks : Apart ks)
    (hnext : wordNext ks = false) :
  Apart (v.tokens ++ ks)
  := by
  cases v with
  | word w => exact ⟨hnext, hks⟩
  | literal l => exact ⟨rfl, hks⟩
  | emptyList comma =>
    have h := apart_ending comma (k := .mark .closeList) rfl hks
    simp only [Tree.tokens, List.cons_append, List.append_assoc, List.nil_append]
    exact ⟨rfl, h⟩
  | list items =>
    have h := items.apart_tokens (k := .mark .closeList) rfl hks
    simp only [Tree.tokens, List.cons_append, List.append_assoc, List.nil_append]
    exact ⟨rfl, h⟩
  | emptyObject comma =>
    have h := apart_ending comma (k := .mark .closeObject) rfl hks
    simp only [Tree.tokens, List.cons_append, List.append_assoc, List.nil_append]
    exact ⟨rfl, h⟩
  | object members =>
    have h := members.apart_tokens (k := .mark .closeObject) rfl hks
    simp only [Tree.tokens, List.cons_append, List.append_assoc, List.nil_append]
    exact ⟨rfl, h⟩

theorem Items.apart_tokens (items : Items) {k : Token} (hk : k.closes) {ks : List Token}
    (hks : Apart ks) :
  Apart (items.tokens ++ k :: ks)
  := by
  cases items with
  | last item comma =>
    simp only [Items.tokens, List.append_assoc]
    exact item.apart_tokens (apart_ending comma hk hks) (wordNext_ending comma hk ks)
  | more item rest =>
    have h := rest.apart_tokens hk hks
    simp only [Items.tokens, List.append_assoc, List.cons_append]
    exact item.apart_tokens ⟨rfl, h⟩ rfl

theorem Members.apart_tokens (members : Members) {k : Token} (hk : k.closes) {ks : List Token}
    (hks : Apart ks) :
  Apart (members.tokens ++ k :: ks)
  := by
  cases members with
  | last key value comma =>
    have h := value.apart_tokens (apart_ending comma hk hks) (wordNext_ending comma hk ks)
    simp only [Members.tokens, List.append_assoc, List.cons_append]
    exact ⟨rfl, rfl, h⟩
  | more key value rest =>
    have hrest := rest.apart_tokens hk hks
    simp only [Members.tokens, List.append_assoc, List.cons_append]
    exact ⟨rfl, rfl, value.apart_tokens ⟨rfl, hrest⟩ rfl⟩

end

/-! ### Tokens of a text -/

/-- The closing quote of a string literal is the first that is not behind a backslash. -/
theorem Quoted.append_inj {cs ds : List Char} (hcs : Quoted cs) (hds : Quoted ds)
    (h : cs ++ '"' :: s = ds ++ '"' :: r) :
  cs = ds ∧ s = r
  := by
  induction hcs generalizing ds with
  | nil =>
    cases hds with
    | nil => exact ⟨rfl, (List.cons.inj h).2⟩
    | char hquote => exact absurd (List.cons.inj h).1.symm hquote
    | pair => exact absurd (List.cons.inj h).1 (by decide)
  | char hquote hbackslash _ ih =>
    cases hds with
    | nil => exact absurd (List.cons.inj h).1 hquote
    | char _ _ hds =>
      obtain ⟨rfl, hrest⟩ := List.cons.inj h
      obtain ⟨rfl, rfl⟩ := ih hds hrest
      exact ⟨rfl, rfl⟩
    | pair => exact absurd (List.cons.inj h).1 hbackslash
  | pair _ ih =>
    cases hds with
    | nil => exact absurd (List.cons.inj h).1 (by decide)
    | char _ hbackslash => exact absurd (List.cons.inj h).1.symm hbackslash
    | pair hds =>
      obtain ⟨rfl, hrest⟩ := List.cons.inj (List.cons.inj h).2
      obtain ⟨rfl, rfl⟩ := ih hds hrest
      exact ⟨rfl, rfl⟩

/-- The text starts with no character of a word. -/
def WordEnd (s : List Char) : Prop := s.takeWhile isWordChar = []

theorem Word.append_inj {w v : Word} (hs : WordEnd s) (hr : WordEnd r)
    (h : w.chars ++ s = v.chars ++ r) :
  w = v ∧ s = r
  := by
  have htake := congrArg (List.takeWhile isWordChar) h
  rw [List.takeWhile_append_of_pos w.isWordChar_of_mem,
    List.takeWhile_append_of_pos v.isWordChar_of_mem, hs, hr, List.append_nil,
    List.append_nil] at htake
  rw [htake] at h
  exact ⟨Word.ext htake, List.append_cancel_left h⟩

/-- No word starts with a character of another kind. -/
theorem Word.append_ne_cons {w : Word} {c : Char} (hc : isWordChar c = false) :
  w.chars ++ s ≠ c :: r
  := by
  intro h
  obtain ⟨e, cs, hw⟩ := List.exists_cons_of_ne_nil w.ne_nil
  have he : isWordChar e := w.isWordChar_of_mem e (hw ▸ List.mem_cons_self)
  rw [hw, List.cons_append, List.cons.injEq] at h
  rw [h.1, hc] at he
  contradiction

theorem Mark.isWordChar_char (m : Mark) :
  isWordChar m.char = false
  := by
  cases m <;> rfl

theorem Mark.char_injective {m n : Mark} (h : m.char = n.char) :
  m = n
  := by
  cases m <;> cases n <;> first | rfl | exact absurd h (by decide)

/-- The start of a text determines its first token and what is left. -/
theorem Token.append_inj {k l : Token} (hs : k.isWord → WordEnd s) (hr : l.isWord → WordEnd r)
    (h : k.chars ++ s = l.chars ++ r) :
  k = l ∧ s = r
  := by
  cases k with
  | mark m =>
    cases l with
    | mark n =>
      obtain ⟨hchar, hrest⟩ := List.cons.inj h
      rw [Mark.char_injective hchar]
      exact ⟨rfl, hrest⟩
    | word w => exact absurd h.symm (Word.append_ne_cons m.isWordChar_char)
    | literal b => exact absurd (List.cons.inj h).1 (by cases m <;> decide)
  | word w =>
    cases l with
    | mark n => exact absurd h (Word.append_ne_cons n.isWordChar_char)
    | word v =>
      obtain ⟨rfl, hrest⟩ := Word.append_inj (hs rfl) (hr rfl) h
      exact ⟨rfl, hrest⟩
    | literal b => exact absurd h (Word.append_ne_cons rfl)
  | literal a =>
    cases l with
    | mark n => exact absurd (List.cons.inj h).1 (by cases n <;> decide)
    | word w => exact absurd h.symm (Word.append_ne_cons rfl)
    | literal b =>
      simp only [chars, List.cons_append, List.append_assoc, List.nil_append, List.cons.injEq,
        true_and] at h
      obtain ⟨hbody, hrest⟩ := a.wellFormed.quoted.append_inj b.wellFormed.quoted h
      rw [Literal.ext hbody]
      exact ⟨rfl, hrest⟩

theorem isWordChar_of_isSpace {c : Char} (hc : isSpace c) :
  isWordChar c = false
  := by
  apply Bool.eq_false_iff.mpr
  intro h
  have hblank := isBlank_of_isSpace hc
  rw [isBlank_of_isWordChar h] at hblank
  contradiction

theorem wordEnd_cons {c : Char} (hc : isWordChar c = false) :
  WordEnd (c :: s)
  := List.takeWhile_cons_of_neg (by simp [hc])

/-- A word ends where no other one is next. -/
theorem Spelled.wordEnd (h : Spelled .json ks s) (hnext : wordNext ks = false) :
  WordEnd s
  := by
  induction h using Spelled.json_induction with
  | nil => rfl
  | space hc _ _ => exact wordEnd_cons (isWordChar_of_isSpace hc)
  | token k _ _ =>
    cases k with
    | mark m => exact wordEnd_cons m.isWordChar_char
    | word w => contradiction
    | literal l => exact wordEnd_cons rfl

theorem Apart.wordEnd {k : Token} (hks : Apart (k :: ks)) (h : Spelled .json ks s)
    (hk : k.isWord) :
  WordEnd s
  := by
  obtain ⟨hnext, -⟩ := hks
  rw [hk, Bool.true_and] at hnext
  exact h.wordEnd hnext

/-- A text makes up one list of tokens in which no two words touch. -/
theorem Spelled.eq_of_apart (hks : Spelled .json ks s) (hls : Spelled .json ls s)
    (hapart : Apart ks) (hapart' : Apart ls) :
  ks = ls
  := by
  induction hks using Spelled.json_induction generalizing ls with
  | nil => exact hls.eq_nil.symm
  | space hc _ ih => exact ih (hls.of_space hc) hapart hapart'
  | @token k ks s hks ih =>
    obtain ⟨c, cs, hk, -⟩ := k.exists_chars
    rw [hk, List.cons_append] at hls
    obtain ⟨l, ls, r, rfl, hr, hls⟩ := hls.exists_token (k.isSpace_head hk)
    rw [← List.cons_append, ← hk] at hr
    obtain ⟨rfl, rfl⟩ := Token.append_inj (hapart.wordEnd hks) (hapart'.wordEnd hls) hr
    rw [ih hls hapart.2 hapart'.2]

/-! ### Trees of tokens -/

theorem ending_append_inj {c d : Bool} {k l : Token} (hk : k.closes) (hl : l.closes)
    (h : ending c ++ k :: ks = ending d ++ l :: ls) :
  c = d ∧ k :: ks = l :: ls
  := by
  cases c with
  | true =>
    cases d with
    | true => exact ⟨rfl, (List.cons.inj h).2⟩
    | false =>
      rw [← (List.cons.inj h).1] at hl
      contradiction
  | false =>
    cases d with
    | true =>
      rw [(List.cons.inj h).1] at hk
      contradiction
    | false => exact ⟨rfl, h⟩

/-- After its last item or member a container ends. -/
theorem ending_ne_comma {comma : Bool} {k : Token} (hk : k.closes) (hls : endsNext ls = false) :
  ending comma ++ k :: ks ≠ .mark .comma :: ls
  := by
  intro h
  cases comma with
  | true =>
    rw [← (List.cons.inj h).2] at hls
    exact absurd (hk.symm.trans hls) (by decide)
  | false =>
    rw [(List.cons.inj h).1] at hk
    contradiction

/-- A container that has an item or a member does not end at once. -/
theorem ending_ne_cons {comma : Bool} {k l : Token} (hk : k.closes) (hcloses : l.closes = false)
    (hcomma : l.isComma = false) :
  ending comma ++ k :: ks ≠ l :: ls
  := by
  intro h
  cases comma with
  | true =>
    rw [← (List.cons.inj h).1] at hcomma
    contradiction
  | false =>
    rw [← (List.cons.inj h).1, hk] at hcloses
    contradiction

theorem Items.append_ne_ending (items : Items) {comma : Bool} {k : Token} (hk : k.closes) :
  items.tokens ++ ls ≠ ending comma ++ k :: ks
  := by
  obtain ⟨l, ms, hl, hcloses, hcomma⟩ := items.exists_tokens
  rw [hl]
  exact (ending_ne_cons hk hcloses hcomma).symm

theorem Members.append_ne_ending (members : Members) {comma : Bool} {k : Token} (hk : k.closes) :
  members.tokens ++ ls ≠ ending comma ++ k :: ks
  := by
  obtain ⟨l, ms, hl⟩ := members.exists_tokens
  rw [hl]
  exact (ending_ne_cons hk rfl rfl).symm

mutual

/-- The tokens of a value determine it and where it ends. -/
theorem Tree.append_inj (v w : Tree) {ks ls : List Token} (h : v.tokens ++ ks = w.tokens ++ ls) :
  v = w ∧ ks = ls
  := by
  cases v with
  | word a =>
    cases w with
    | word b =>
      obtain ⟨hhead, hrest⟩ := List.cons.inj h
      exact ⟨by rw [Token.word.inj hhead], hrest⟩
    | _ => simp [Tree.tokens] at h
  | literal a =>
    cases w with
    | literal b =>
      obtain ⟨hhead, hrest⟩ := List.cons.inj h
      exact ⟨by rw [Token.literal.inj hhead], hrest⟩
    | _ => simp [Tree.tokens] at h
  | emptyList comma =>
    cases w with
    | emptyList comma' =>
      simp only [Tree.tokens, List.cons_append, List.append_assoc, List.nil_append] at h
      obtain ⟨rfl, hrest⟩ := ending_append_inj rfl rfl (List.cons.inj h).2
      exact ⟨rfl, (List.cons.inj hrest).2⟩
    | list items =>
      simp only [Tree.tokens, List.cons_append, List.append_assoc, List.nil_append] at h
      exact absurd (List.cons.inj h).2.symm (items.append_ne_ending rfl)
    | _ => simp [Tree.tokens] at h
  | list items =>
    cases w with
    | emptyList comma =>
      simp only [Tree.tokens, List.cons_append, List.append_assoc, List.nil_append] at h
      exact absurd (List.cons.inj h).2 (items.append_ne_ending rfl)
    | list items' =>
      simp only [Tree.tokens, List.cons_append, List.append_assoc, List.nil_append] at h
      obtain ⟨rfl, hrest⟩ := items.append_inj items' rfl rfl (List.cons.inj h).2
      exact ⟨rfl, (List.cons.inj hrest).2⟩
    | _ => simp [Tree.tokens] at h
  | emptyObject comma =>
    cases w with
    | emptyObject comma' =>
      simp only [Tree.tokens, List.cons_append, List.append_assoc, List.nil_append] at h
      obtain ⟨rfl, hrest⟩ := ending_append_inj rfl rfl (List.cons.inj h).2
      exact ⟨rfl, (List.cons.inj hrest).2⟩
    | object members =>
      simp only [Tree.tokens, List.cons_append, List.append_assoc, List.nil_append] at h
      exact absurd (List.cons.inj h).2.symm (members.append_ne_ending rfl)
    | _ => simp [Tree.tokens] at h
  | object members =>
    cases w with
    | emptyObject comma =>
      simp only [Tree.tokens, List.cons_append, List.append_assoc, List.nil_append] at h
      exact absurd (List.cons.inj h).2 (members.append_ne_ending rfl)
    | object members' =>
      simp only [Tree.tokens, List.cons_append, List.append_assoc, List.nil_append] at h
      obtain ⟨rfl, hrest⟩ := members.append_inj members' rfl rfl (List.cons.inj h).2
      exact ⟨rfl, (List.cons.inj hrest).2⟩
    | _ => simp [Tree.tokens] at h

theorem Items.append_inj (a b : Items) {k l : Token} (hk : k.closes) (hl : l.closes)
    {ks ls : List Token} (h : a.tokens ++ k :: ks = b.tokens ++ l :: ls) :
  a = b ∧ k :: ks = l :: ls
  := by
  cases a with
  | last item comma =>
    cases b with
    | last item' comma' =>
      simp only [Items.tokens, List.append_assoc] at h
      obtain ⟨rfl, hrest⟩ := item.append_inj item' h
      obtain ⟨rfl, hend⟩ := ending_append_inj hk hl hrest
      exact ⟨rfl, hend⟩
    | more item' rest =>
      simp only [Items.tokens, List.append_assoc, List.cons_append] at h
      obtain ⟨-, hrest⟩ := item.append_inj item' h
      exact absurd hrest (ending_ne_comma hk (rest.endsNext_tokens _))
  | more item rest =>
    cases b with
    | last item' comma =>
      simp only [Items.tokens, List.append_assoc, List.cons_append] at h
      obtain ⟨-, hrest⟩ := item.append_inj item' h
      exact absurd hrest.symm (ending_ne_comma hl (rest.endsNext_tokens _))
    | more item' rest' =>
      simp only [Items.tokens, List.append_assoc, List.cons_append] at h
      obtain ⟨rfl, hrest⟩ := item.append_inj item' h
      obtain ⟨rfl, hend⟩ := rest.append_inj rest' hk hl (List.cons.inj hrest).2
      exact ⟨rfl, hend⟩

theorem Members.append_inj (a b : Members) {k l : Token} (hk : k.closes) (hl : l.closes)
    {ks ls : List Token} (h : a.tokens ++ k :: ks = b.tokens ++ l :: ls) :
  a = b ∧ k :: ks = l :: ls
  := by
  cases a with
  | last key value comma =>
    cases b with
    | last key' value' comma' =>
      simp only [Members.tokens, List.append_assoc, List.cons_append, List.cons.injEq,
        Token.literal.injEq, true_and] at h
      obtain ⟨rfl, h⟩ := h
      obtain ⟨rfl, hrest⟩ := value.append_inj value' h
      obtain ⟨rfl, hend⟩ := ending_append_inj hk hl hrest
      exact ⟨rfl, hend⟩
    | more key' value' rest =>
      simp only [Members.tokens, List.append_assoc, List.cons_append, List.cons.injEq,
        true_and] at h
      obtain ⟨-, hrest⟩ := value.append_inj value' h.2
      exact absurd hrest (ending_ne_comma hk (rest.endsNext_tokens _))
  | more key value rest =>
    cases b with
    | last key' value' comma =>
      simp only [Members.tokens, List.append_assoc, List.cons_append, List.cons.injEq,
        true_and] at h
      obtain ⟨-, hrest⟩ := value.append_inj value' h.2
      exact absurd hrest.symm (ending_ne_comma hl (rest.endsNext_tokens _))
    | more key' value' rest' =>
      simp only [Members.tokens, List.append_assoc, List.cons_append, List.cons.injEq,
        Token.literal.injEq, true_and] at h
      obtain ⟨rfl, h⟩ := h
      obtain ⟨rfl, hrest⟩ := value.append_inj value' h
      obtain ⟨rfl, hend⟩ := rest.append_inj rest' hk hl (List.cons.inj hrest).2
      exact ⟨rfl, hend⟩

end

theorem Tree.tokens_injective {v w : Tree} (h : v.tokens = w.tokens) :
  v = w
  := by
  have happend : v.tokens ++ [] = w.tokens ++ [] := by rw [h]
  exact (v.append_inj w happend).1

theorem Tree.apart (v : Tree) :
  Apart v.tokens
  := by
  rw [← List.append_nil v.tokens]
  exact v.apart_tokens trivial rfl

/-- A text of RFC 8259 has one tree. -/
theorem Written.tree_unique {v w : Tree} (hv : Written .json v s) (hw : Written .json w s) :
  v = w
  := by
  apply Tree.tokens_injective
  exact hv.spelled.eq_of_apart hw.spelled v.apart w.apart

end MojoToolchain.Json.Grammar
