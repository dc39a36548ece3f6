import MojoToolchain.Json.Commented
import MojoToolchain.Proofs.Json.Spelling

/-!
# Dropping trailing commas

On a text of RFC 8259 tokens, `dropTrailingCommas` drops each comma that stands right before the end
of a container (`withoutTrailing`), and nothing else.  On the tokens of a value these are the
commas of `Tree.bare`.  It asks for nothing before such a comma, so it drops one that stands
alone in a container as well.
-/

namespace MojoToolchain.Json.Grammar

variable {ks : List Token} {s u : List Char}

/-! ### Tokens -/

/-- The tokens without each comma that stands right before the end of a container. -/
def withoutTrailing : List Token → List Token
  | [] => []
  | k :: ks => if k.isComma && endsNext ks then withoutTrailing ks else k :: withoutTrailing ks

theorem withoutTrailing_cons {k : Token} (h : (k.isComma && endsNext ks) = false) :
  withoutTrailing (k :: ks) = k :: withoutTrailing ks
  := by
  simp [withoutTrailing, h]

theorem withoutTrailing_trailing {k : Token} (h : (k.isComma && endsNext ks) = true) :
  withoutTrailing (k :: ks) = withoutTrailing ks
  := by
  simp [withoutTrailing, h]

theorem withoutTrailing_comma (h : endsNext ks = false) :
  withoutTrailing (.mark .comma :: ks) = .mark .comma :: withoutTrailing ks
  := withoutTrailing_cons h

theorem length_withoutTrailing_le (ks : List Token) :
  (withoutTrailing ks).length ≤ ks.length
  := by
  induction ks with
  | nil => exact Nat.le_refl _
  | cons k ks ih =>
    cases h : k.isComma && endsNext ks with
    | true =>
      rw [withoutTrailing_trailing h, List.length_cons]
      omega
    | false =>
      rw [withoutTrailing_cons h, List.length_cons, List.length_cons]
      omega

/-- No token is dropped from tokens that stay as they are. -/
theorem withoutTrailing_cons_eq {k : Token} (h : withoutTrailing (k :: ks) = k :: ks) :
  (k.isComma && endsNext ks) = false ∧ withoutTrailing ks = ks
  := by
  cases hk : k.isComma && endsNext ks with
  | true =>
    have hlength := length_withoutTrailing_le ks
    rw [← withoutTrailing_trailing hk, h, List.length_cons] at hlength
    omega
  | false =>
    rw [withoutTrailing_cons hk] at h
    exact ⟨rfl, (List.cons.inj h).2⟩

/-! ### Characters -/

theorem closesNext_space {c : Char} (hc : isSpace c) :
  closesNext (c :: s) = closesNext s
  := by
  rw [closesNext, closesNext, Text.trimStart, List.dropWhile_cons_of_pos (isBlank_of_isSpace hc)]
  rfl

theorem closesNext_token (k : Token) :
  closesNext (k.chars ++ s) = k.closes
  := by
  obtain ⟨c, cs, hk, hc, hcloses⟩ := k.exists_chars
  rw [hk, List.cons_append, closesNext, Text.trimStart, List.dropWhile_cons_of_neg (by simp [hc])]
  exact hcloses

/-- A text goes on with the end of a container when its tokens do. -/
theorem Spelled.closesNext (h : Spelled .json ks s) :
  closesNext s = endsNext ks
  := by
  induction h using Spelled.json_induction with
  | nil => rfl
  | space hc _ ih => rw [closesNext_space hc, ih]
  | token k _ ih => exact closesNext_token k

theorem dropTrailingCommas_cons {c : Char} (hquote : c ≠ '"') :
  dropTrailingCommas (c :: s)
    = (if c == ',' && closesNext s then ' ' else c) :: dropTrailingCommas s
  := by
  rw [dropTrailingCommas, dropTrailingCommasAt, beq_false_of_ne hquote]
  rfl

theorem dropTrailingCommas_other {c : Char} (hquote : c ≠ '"') (hcomma : c ≠ ',') :
  dropTrailingCommas (c :: s) = c :: dropTrailingCommas s
  := by
  rw [dropTrailingCommas_cons hquote, beq_false_of_ne hcomma]
  rfl

theorem dropTrailingCommas_comma (h : Json.closesNext s = false) :
  dropTrailingCommas (',' :: s) = ',' :: dropTrailingCommas s
  := by
  rw [dropTrailingCommas_cons (by decide), h]
  rfl

theorem dropTrailingCommas_trailing (h : Json.closesNext s = true) :
  dropTrailingCommas (',' :: s) = ' ' :: dropTrailingCommas s
  := by
  rw [dropTrailingCommas_cons (by decide), h]
  rfl

theorem dropTrailingCommas_space {c : Char} (hc : isSpace c) :
  dropTrailingCommas (c :: s) = c :: dropTrailingCommas s
  := dropTrailingCommas_other (ne_of_isSpace hc rfl) (ne_of_isSpace hc rfl)

theorem dropTrailingCommas_wordChar (c : Char) (s : List Char) (hc : isWordChar c) :
  dropTrailingCommas (c :: s) = c :: dropTrailingCommas s
  := dropTrailingCommas_other (ne_of_isWordChar hc rfl) (ne_of_isWordChar hc rfl)

/-- Commas inside of a string literal stay. -/
theorem keepsLiterals_dropTrailingCommasAt :
  KeepsLiterals (dropTrailingCommasAt true) dropTrailingCommas
  where
  nil := rfl
  quote s := by simp [dropTrailingCommasAt, dropTrailingCommas]
  char c s hquote hbackslash := by
    rw [dropTrailingCommasAt, bne_iff_ne.mpr hquote]
    rintro e r rfl
    contradiction
  pair c s := by rw [dropTrailingCommasAt]
  backslash := by simp [dropTrailingCommasAt]

theorem dropTrailingCommas_quote :
  dropTrailingCommas ('"' :: s) = '"' :: dropTrailingCommasAt true s
  := rfl

/-- A token stays unless it is a comma before the end of a container. -/
theorem dropTrailingCommas_token {k : Token} (h : (k.isComma && Json.closesNext s) = false) :
  dropTrailingCommas (k.chars ++ s) = k.chars ++ dropTrailingCommas s
  := by
  cases k with
  | mark m =>
    cases m with
    | comma => exact dropTrailingCommas_comma h
    | openList => exact dropTrailingCommas_other (by decide) (by decide)
    | closeList => exact dropTrailingCommas_other (by decide) (by decide)
    | openObject => exact dropTrailingCommas_other (by decide) (by decide)
    | closeObject => exact dropTrailingCommas_other (by decide) (by decide)
    | colon => exact dropTrailingCommas_other (by decide) (by decide)
  | word w => exact append_of_isWordChar dropTrailingCommas_wordChar w.isWordChar_of_mem s
  | literal l =>
    simp only [Token.chars, List.cons_append, List.append_assoc, List.nil_append]
    rw [dropTrailingCommas_quote, keepsLiterals_dropTrailingCommasAt.append l.wellFormed.quoted]

theorem Token.eq_comma {k : Token} (h : k.isComma) :
  k = .mark .comma
  := by
  cases k with
  | mark m => rw [eq_of_beq h]
  | word w => contradiction
  | literal l => contradiction

/-- A text without its trailing commas spells its tokens without theirs. -/
theorem Spelled.dropTrailingCommas (h : Spelled .json ks s) :
  Spelled .json (withoutTrailing ks) (dropTrailingCommas s)
  := by
  induction h using Spelled.json_induction with
  | nil => exact .nil
  | space hc _ ih =>
    rw [dropTrailingCommas_space hc]
    exact .space hc ih
  | @token k ks s h ih =>
    cases hk : k.isComma && endsNext ks with
    | true =>
      rw [withoutTrailing_trailing hk]
      rw [Bool.and_eq_true, ← h.closesNext] at hk
      rw [k.eq_comma hk.1]
      change Spelled .json _ (Json.dropTrailingCommas (',' :: s))
      rw [dropTrailingCommas_trailing hk.2]
      exact .space rfl ih
    | false =>
      rw [withoutTrailing_cons hk]
      rw [← h.closesNext] at hk
      rw [dropTrailingCommas_token hk]
      exact .token k ih

/-- A text whose tokens have no trailing comma stays as it is. -/
theorem Spelled.dropTrailingCommas_eq (h : Spelled .json ks s) (hks : withoutTrailing ks = ks) :
  Json.dropTrailingCommas s = s
  := by
  induction h using Spelled.json_induction with
  | nil => rfl
  | space hc _ ih => rw [dropTrailingCommas_space hc, ih hks]
  | token k h ih =>
    obtain ⟨hk, hks⟩ := withoutTrailing_cons_eq hks
    rw [← h.closesNext] at hk
    rw [dropTrailingCommas_token hk, ih hks]

/-! ### Texts that spell tokens without their trailing commas -/

/-- What turns into a character is a trailing comma or that character. -/
theorem dropTrailingCommas_cases {c : Char} (hs : dropTrailingCommas s = c :: u) :
  (∃ r, s = ',' :: r ∧ closesNext r ∧ c = ' ' ∧ dropTrailingCommas r = u)
    ∨ ∃ r, s = c :: r
      ∧ (c ≠ '"' → dropTrailingCommas r = u ∧ (c == ',' && closesNext r) = false)
  := by
  cases s with
  | nil => simp [dropTrailingCommas, dropTrailingCommasAt] at hs
  | cons e r =>
    by_cases hquote : e = '"'
    · rw [hquote, dropTrailingCommas_quote, List.cons.injEq] at hs
      refine .inr ⟨r, by rw [hquote, hs.1], ?_⟩
      intro hc
      exact absurd hs.1.symm hc
    · rw [dropTrailingCommas_cons hquote, List.cons.injEq] at hs
      cases hcloses : e == ',' && closesNext r with
      | true =>
        rw [hcloses] at hs
        rw [Bool.and_eq_true, beq_iff_eq] at hcloses
        exact .inl ⟨r, by rw [hcloses.1], hcloses.2, hs.1.symm, hs.2⟩
      | false =>
        rw [hcloses] at hs
        obtain ⟨rfl, hr⟩ := hs
        exact .inr ⟨r, rfl, fun _ => ⟨hr, hcloses⟩⟩

/-- What turns into a character other than a space is that character. -/
theorem exists_cons_of_dropTrailingCommas {c : Char} (hspace : c ≠ ' ')
    (hs : dropTrailingCommas s = c :: u) :
  ∃ r, s = c :: r ∧ (c ≠ '"' → dropTrailingCommas r = u ∧ (c == ',' && closesNext r) = false)
  := by
  rcases dropTrailingCommas_cases hs with ⟨r, -, -, hc, -⟩ | h
  · contradiction
  · exact h

theorem exists_word_of_dropTrailingCommas {cs : List Char} (hcs : ∀ c ∈ cs, isWordChar c)
    (hs : dropTrailingCommas s = cs ++ u) :
  ∃ r, s = cs ++ r ∧ dropTrailingCommas r = u
  := by
  induction cs generalizing s with
  | nil => exact ⟨s, rfl, hs⟩
  | cons c cs ih =>
    rw [List.forall_mem_cons] at hcs
    obtain ⟨r, rfl, hr⟩ := exists_cons_of_dropTrailingCommas (ne_of_isWordChar hcs.1 rfl) hs
    obtain ⟨r, rfl, hu⟩ := ih hcs.2 (hr (ne_of_isWordChar hcs.1 rfl)).1
    exact ⟨r, rfl, hu⟩

/-- What turns into a token is that token, and it is no trailing comma. -/
theorem exists_token_of_dropTrailingCommas (k : Token) (hs : dropTrailingCommas s = k.chars ++ u) :
  ∃ r, s = k.chars ++ r ∧ dropTrailingCommas r = u ∧ (k.isComma && closesNext r) = false
  := by
  cases k with
  | mark m =>
    obtain ⟨r, rfl, hr⟩ := exists_cons_of_dropTrailingCommas (by cases m <;> decide) hs
    obtain ⟨hu, hcomma⟩ := hr (by cases m <;> decide)
    refine ⟨r, rfl, hu, ?_⟩
    have hm : (m.char == ',') = (Token.mark m).isComma := by cases m <;> rfl
    rw [← hm]
    exact hcomma
  | word w =>
    obtain ⟨r, hr, hu⟩ := exists_word_of_dropTrailingCommas w.isWordChar_of_mem hs
    exact ⟨r, hr, hu, rfl⟩
  | literal l =>
    simp only [Token.chars, List.cons_append, List.append_assoc, List.nil_append] at hs
    obtain ⟨r, rfl, -⟩ := exists_cons_of_dropTrailingCommas (by decide) hs
    rw [dropTrailingCommas_quote, List.cons.injEq] at hs
    obtain ⟨r, rfl, hu⟩ :=
      keepsLiterals_dropTrailingCommasAt.eq_append l.wellFormed.quoted hs.2
    refine ⟨r, ?_, hu, rfl⟩
    simp [Token.chars]

/-- A text that spells tokens without its trailing commas spells these tokens with trailing
commas. -/
theorem Spelled.of_dropTrailingCommas (h : Spelled .json ks (Json.dropTrailingCommas s)) :
  ∃ ls, withoutTrailing ls = ks ∧ Spelled .json ls s
  := by
  generalize hv : Json.dropTrailingCommas s = v at h
  induction h using Spelled.json_induction generalizing s with
  | nil =>
    have hs := congrArg List.length hv
    rw [Json.dropTrailingCommas, length_dropTrailingCommasAt, List.length_nil,
      List.length_eq_zero_iff] at hs
    rw [hs]
    exact ⟨[], rfl, .nil⟩
  | @space c ks v hc _ ih =>
    rcases dropTrailingCommas_cases hv with ⟨r, rfl, hcloses, -, hr⟩ | ⟨r, rfl, hr⟩
    · -- The space was a trailing comma, which is one more token of the text.
      obtain ⟨ls, rfl, hls⟩ := ih hr
      rw [hls.closesNext] at hcloses
      exact ⟨.mark .comma :: ls, withoutTrailing_trailing hcloses, .token (.mark .comma) hls⟩
    · obtain ⟨ls, rfl, hls⟩ := ih (hr (ne_of_isSpace hc rfl)).1
      exact ⟨ls, rfl, .space hc hls⟩
  | @token k ks v _ ih =>
    obtain ⟨r, rfl, hr, hk⟩ := exists_token_of_dropTrailingCommas k hv
    obtain ⟨ls, rfl, hls⟩ := ih hr
    rw [hls.closesNext] at hk
    exact ⟨k :: ls, withoutTrailing_cons hk, .token k hls⟩

/-! ### Trees -/

/-- A comma before the end of a container goes. -/
theorem withoutTrailing_ending (comma : Bool) {k : Token} (hk : k.closes) (ks : List Token) :
  withoutTrailing (ending comma ++ k :: ks) = k :: withoutTrailing ks
  := by
  have hstays : withoutTrailing (k :: ks) = k :: withoutTrailing ks := by
    apply withoutTrailing_cons
    rw [Token.isComma_of_closes hk]
    rfl
  cases comma with
  | true => rw [← hstays]; exact withoutTrailing_trailing hk
  | false => exact hstays

mutual

/-- Of the tokens of a value those of what it denotes stay. -/
theorem Tree.withoutTrailing_tokens (v : Tree) (ks : List Token) :
  withoutTrailing (v.tokens ++ ks) = v.bare.tokens ++ withoutTrailing ks
  := by
  cases v with
  | word w => rfl
  | literal l => rfl
  | emptyList comma =>
    have hend := withoutTrailing_ending comma (k := .mark .closeList) rfl ks
    simp only [Tree.tokens, Tree.bare, List.cons_append, List.append_assoc, List.nil_append]
    rw [withoutTrailing_cons rfl, hend]
    rfl
  | list items =>
    have ih := items.withoutTrailing_tokens (k := .mark .closeList) rfl ks
    simp only [Tree.tokens, Tree.bare, List.cons_append, List.append_assoc, List.nil_append]
    rw [withoutTrailing_cons rfl, ih]
  | emptyObject comma =>
    have hend := withoutTrailing_ending comma (k := .mark .closeObject) rfl ks
    simp only [Tree.tokens, Tree.bare, List.cons_append, List.append_assoc, List.nil_append]
    rw [withoutTrailing_cons rfl, hend]
    rfl
  | object members =>
    have ih := members.withoutTrailing_tokens (k := .mark .closeObject) rfl ks
    simp only [Tree.tokens, Tree.bare, List.cons_append, List.append_assoc, List.nil_append]
    rw [withoutTrailing_cons rfl, ih]

theorem Items.withoutTrailing_tokens (items : Items) {k : Token} (hk : k.closes)
    (ks : List Token) :
  withoutTrailing (items.tokens ++ k :: ks) = items.bare.tokens ++ k :: withoutTrailing ks
  := by
  cases items with
  | last item comma =>
    have ih := item.withoutTrailing_tokens (ending comma ++ k :: ks)
    simp only [Items.tokens, Items.bare, List.append_assoc]
    rw [ih, withoutTrailing_ending comma hk]
    rfl
  | more item rest =>
    have ihItem := item.withoutTrailing_tokens (.mark .comma :: (rest.tokens ++ k :: ks))
    have ihRest := rest.withoutTrailing_tokens hk ks
    simp only [Items.tokens, Items.bare, List.cons_append, List.append_assoc]
    rw [ihItem, withoutTrailing_comma (rest.endsNext_tokens _), ihRest]

theorem Members.withoutTrailing_tokens (members : Members) {k : Token} (hk : k.closes)
    (ks : List Token) :
  withoutTrailing (members.tokens ++ k :: ks) = members.bare.tokens ++ k :: withoutTrailing ks
  := by
  cases members with
  | last key value comma =>
    have ih := value.withoutTrailing_tokens (ending comma ++ k :: ks)
    simp only [Members.tokens, Members.bare, List.cons_append, List.append_assoc]
    rw [withoutTrailing_cons rfl, withoutTrailing_cons rfl, ih, withoutTrailing_ending comma hk]
    rfl
  | more key value rest =>
    have ihValue := value.withoutTrailing_tokens (.mark .comma :: (rest.tokens ++ k :: ks))
    have ihRest := rest.withoutTrailing_tokens hk ks
    simp only [Members.tokens, Members.bare, List.cons_append, List.append_assoc]
    rw [withoutTrailing_cons rfl, withoutTrailing_cons rfl, ihValue,
      withoutTrailing_comma (rest.endsNext_tokens _), ihRest]

end

/-! ### Tokens of a value with trailing commas -/

/-- What is left after a trailing comma starts with the end of a container. -/
theorem exists_of_endsNext (h : endsNext ks) :
  ∃ k ls, ks = k :: ls ∧ k.closes ∧ withoutTrailing ks = k :: withoutTrailing ls
  := by
  cases ks with
  | nil => contradiction
  | cons k ls =>
    refine ⟨k, ls, rfl, h, withoutTrailing_cons ?_⟩
    rw [Token.isComma_of_closes h]
    rfl

theorem eq_nil_of_withoutTrailing (h : withoutTrailing ks = []) :
  ks = []
  := by
  cases ks with
  | nil => rfl
  | cons k ks =>
    cases hk : k.isComma && endsNext ks with
    | true =>
      rw [withoutTrailing_trailing hk] at h
      rw [Bool.and_eq_true] at hk
      obtain ⟨e, ls, -, -, hls⟩ := exists_of_endsNext hk.2
      rw [hls] at h
      contradiction
    | false =>
      rw [withoutTrailing_cons hk] at h
      contradiction

theorem exists_cons_of_withoutTrailing {k : Token} {ls : List Token} (hk : k.closes = false)
    (hls : withoutTrailing ls = k :: ks) :
  ∃ ms, ls = k :: ms ∧ withoutTrailing ms = ks
  := by
  cases ls with
  | nil => contradiction
  | cons j ms =>
    cases hj : j.isComma && endsNext ms with
    | true =>
      rw [withoutTrailing_trailing hj] at hls
      rw [Bool.and_eq_true] at hj
      obtain ⟨e, ns, -, he, hms⟩ := exists_of_endsNext hj.2
      rw [hms, List.cons.injEq] at hls
      rw [hls.1, hk] at he
      contradiction
    | false =>
      rw [withoutTrailing_cons hj, List.cons.injEq] at hls
      exact ⟨ms, by rw [hls.1], hls.2⟩

theorem exists_ending_of_withoutTrailing {k : Token} {ls : List Token} (hk : k.closes)
    (hls : withoutTrailing ls = k :: ks) :
  ∃ comma ms, ls = ending comma ++ k :: ms ∧ withoutTrailing ms = ks
  := by
  cases ls with
  | nil => contradiction
  | cons j ms =>
    cases hj : j.isComma && endsNext ms with
    | true =>
      rw [withoutTrailing_trailing hj] at hls
      rw [Bool.and_eq_true] at hj
      obtain ⟨e, ns, rfl, -, hns⟩ := exists_of_endsNext hj.2
      rw [hns, List.cons.injEq] at hls
      obtain ⟨rfl, hks⟩ := hls
      exact ⟨true, ns, by rw [j.eq_comma hj.1]; rfl, hks⟩
    | false =>
      rw [withoutTrailing_cons hj, List.cons.injEq] at hls
      exact ⟨false, ms, by rw [hls.1]; rfl, hls.2⟩

mutual

/-- Tokens that turn into those of a value are those of the value with trailing commas. -/
theorem Tree.exists_of_withoutTrailing (v : Tree) {ls ks : List Token}
    (hls : withoutTrailing ls = v.bare.tokens ++ ks) :
  ∃ w : Tree, ∃ ms, w.bare = v.bare ∧ ls = w.tokens ++ ms ∧ withoutTrailing ms = ks
  := by
  cases v with
  | word w =>
    obtain ⟨ms, rfl, hms⟩ := exists_cons_of_withoutTrailing rfl hls
    exact ⟨.word w, ms, rfl, rfl, hms⟩
  | literal l =>
    obtain ⟨ms, rfl, hms⟩ := exists_cons_of_withoutTrailing rfl hls
    exact ⟨.literal l, ms, rfl, rfl, hms⟩
  | emptyList comma =>
    obtain ⟨ms, rfl, hms⟩ := exists_cons_of_withoutTrailing rfl hls
    obtain ⟨comma, ns, rfl, hns⟩ := exists_ending_of_withoutTrailing rfl hms
    exact ⟨.emptyList comma, ns, rfl, by simp [Tree.tokens], hns⟩
  | list items =>
    simp only [Tree.bare, Tree.tokens, List.cons_append, List.append_assoc, List.nil_append] at hls
    obtain ⟨ms, rfl, hms⟩ := exists_cons_of_withoutTrailing rfl hls
    obtain ⟨items', ns, hitems, rfl, hns⟩ := items.exists_of_withoutTrailing rfl hms
    exact ⟨.list items', ns, by rw [Tree.bare, hitems, Tree.bare], by simp [Tree.tokens], hns⟩
  | emptyObject comma =>
    obtain ⟨ms, rfl, hms⟩ := exists_cons_of_withoutTrailing rfl hls
    obtain ⟨comma, ns, rfl, hns⟩ := exists_ending_of_withoutTrailing rfl hms
    exact ⟨.emptyObject comma, ns, rfl, by simp [Tree.tokens], hns⟩
  | object members =>
    simp only [Tree.bare, Tree.tokens, List.cons_append, List.append_assoc, List.nil_append] at hls
    obtain ⟨ms, rfl, hms⟩ := exists_cons_of_withoutTrailing rfl hls
    obtain ⟨members', ns, hmembers, rfl, hns⟩ := members.exists_of_withoutTrailing rfl hms
    exact ⟨.object members', ns, by rw [Tree.bare, hmembers, Tree.bare], by simp [Tree.tokens],
      hns⟩

theorem Items.exists_of_withoutTrailing (items : Items) {k : Token} {ls ks : List Token}
    (hk : k.closes) (hls : withoutTrailing ls = items.bare.tokens ++ k :: ks) :
  ∃ items' : Items, ∃ ms,
    items'.bare = items.bare ∧ ls = items'.tokens ++ k :: ms ∧ withoutTrailing ms = ks
  := by
  cases items with
  | last item comma =>
    simp only [Items.bare, Items.tokens, List.append_assoc] at hls
    obtain ⟨item', ms, hitem, rfl, hms⟩ := item.exists_of_withoutTrailing hls
    obtain ⟨comma, ns, rfl, hns⟩ := exists_ending_of_withoutTrailing hk hms
    exact ⟨.last item' comma, ns, by rw [Items.bare, hitem, Items.bare], by simp [Items.tokens],
      hns⟩
  | more item rest =>
    simp only [Items.bare, Items.tokens, List.append_assoc, List.cons_append] at hls
    obtain ⟨item', ms, hitem, rfl, hms⟩ := item.exists_of_withoutTrailing hls
    obtain ⟨ns, rfl, hns⟩ := exists_cons_of_withoutTrailing rfl hms
    obtain ⟨rest', os, hrest, rfl, hos⟩ := rest.exists_of_withoutTrailing hk hns
    exact ⟨.more item' rest', os, by rw [Items.bare, hitem, hrest, Items.bare],
      by simp [Items.tokens], hos⟩

theorem Members.exists_of_withoutTrailing (members : Members) {k : Token} {ls ks : List Token}
    (hk : k.closes) (hls : withoutTrailing ls = members.bare.tokens ++ k :: ks) :
  ∃ members' : Members, ∃ ms,
    members'.bare = members.bare ∧ ls = members'.tokens ++ k :: ms ∧ withoutTrailing ms = ks
  := by
  cases members with
  | last key value comma =>
    simp only [Members.bare, Members.tokens, List.append_assoc, List.cons_append] at hls
    obtain ⟨ms, rfl, hms⟩ := exists_cons_of_withoutTrailing rfl hls
    obtain ⟨ns, rfl, hns⟩ := exists_cons_of_withoutTrailing rfl hms
    obtain ⟨value', os, hvalue, rfl, hos⟩ := value.exists_of_withoutTrailing hns
    obtain ⟨comma, ps, rfl, hps⟩ := exists_ending_of_withoutTrailing hk hos
    exact ⟨.last key value' comma, ps, by rw [Members.bare, hvalue, Members.bare],
      by simp [Members.tokens], hps⟩
  | more key value rest =>
    simp only [Members.bare, Members.tokens, List.append_assoc, List.cons_append] at hls
    obtain ⟨ms, rfl, hms⟩ := exists_cons_of_withoutTrailing rfl hls
    obtain ⟨ns, rfl, hns⟩ := exists_cons_of_withoutTrailing rfl hms
    obtain ⟨value', os, hvalue, rfl, hos⟩ := value.exists_of_withoutTrailing hns
    obtain ⟨ps, rfl, hps⟩ := exists_cons_of_withoutTrailing rfl hos
    obtain ⟨rest', qs, hrest, rfl, hqs⟩ := rest.exists_of_withoutTrailing hk hps
    exact ⟨.more key value' rest', qs, by rw [Members.bare, hvalue, hrest, Members.bare],
      by simp [Members.tokens], hqs⟩

end

end MojoToolchain.Json.Grammar
