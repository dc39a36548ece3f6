import MojoToolchain.Json.Typed
import MojoToolchain.Proofs.Json.Grammar
import MojoToolchain.Proofs.Outcome

/-!
# Numbers, names and string literals that are read

What the readers for numbers, names and string literals take off a text is such a token of
RFC 8259 (`Takes`), whether they keep its value or pass over it.
-/

namespace MojoToolchain.Json.Grammar

variable {s r : List Char}

/-- What is taken off `s` to leave `r` is of a kind. -/
def Takes (kind : List Char → Prop) (s r : List Char) : Prop := ∃ cs, kind cs ∧ s = cs ++ r

/-! ### Digits -/

theorem digits_of_spanDigits {digits : List Char} (h : spanDigits s = (digits, r))
    (hdigits : digits ≠ []) :
  Digits digits ∧ s = digits ++ r
  := by
  cases h
  refine ⟨⟨hdigits, ?_⟩, List.takeWhile_append_dropWhile.symm⟩
  exact List.all_takeWhile

/-- The digits of an exponent are passed over even where they are too many. -/
theorem exists_of_readExponentDigits {n : Nat} {power : Option Nat}
    (h : readExponentDigits n s = (power, r)) :
  ∃ ds : List Char, ds.all Char.isDigit ∧ s = ds ++ r
  := by
  induction s generalizing n with
  | nil =>
    cases h
    exact ⟨[], rfl, rfl⟩
  | cons c s ih =>
    rw [readExponentDigits] at h
    split at h
    case isTrue hc =>
      simp only at h
      split at h
      case isTrue =>
        cases h
        exact ⟨[c], by simp [hc], rfl⟩
      case isFalse =>
        obtain ⟨ds, hds, rfl⟩ := ih h
        exact ⟨c :: ds, by simp [hc, hds], rfl⟩
    case isFalse =>
      cases h
      exact ⟨[], rfl, rfl⟩

theorem takes_of_skipDigits {t : Rest s} (h : skipDigits s = .ok t) :
  Takes Digits s t.val
  := by
  unfold skipDigits at h
  split at h
  case h_1 => contradiction
  case h_2 hspan =>
    cases h
    exact ⟨_, digits_of_spanDigits hspan (List.cons_ne_nil _ _)⟩

/-! ### Numbers -/

/-- What follows the digits of an integer: a fraction and an exponent, which may be missing. -/
def Decimals (cs : List Char) : Prop :=
  ∃ fraction exponent, Fraction fraction ∧ Exponent exponent ∧ cs = fraction ++ exponent

/-- A number without a sign. -/
def Unsigned (cs : List Char) : Prop :=
  ∃ whole decimals, Whole whole ∧ Decimals decimals ∧ cs = whole ++ decimals

/-- What follows the `e` of an exponent. -/
def Power (cs : List Char) : Prop :=
  ∃ sign ∈ [[], ['+'], ['-']], ∃ ds, Digits ds ∧ cs = sign ++ ds

theorem Power.exponent {e : Char} {cs : List Char} (he : e ∈ ['e', 'E']) (h : Power cs) :
  Exponent (e :: cs)
  := by
  obtain ⟨sign, hsign, ds, hds, rfl⟩ := h
  exact .inr ⟨e, he, sign, hsign, ds, hds, rfl⟩

/-- A fraction and an exponent are decimals. -/
theorem Fraction.decimals {fraction exponent : List Char} (h : Fraction fraction)
    (hexponent : Exponent exponent) :
  Decimals (fraction ++ exponent)
  := ⟨fraction, exponent, h, hexponent, rfl⟩

/-- Digits that do not start with a zero of no use are an integer. -/
theorem Digits.whole {c : Char} {ds : List Char} (h : Digits (c :: ds))
    (hzero : c = '0' → ds = []) :
  Whole (c :: ds)
  := by
  refine ⟨h, ?_⟩
  intro hc
  obtain rfl := Option.some.inj hc
  rw [hzero rfl]

theorem Unsigned.number {cs : List Char} (h : Unsigned cs) (sign : List Char)
    (hsign : sign ∈ [[], ['-']]) :
  Number (sign ++ cs)
  := by
  obtain ⟨whole, -, hwhole, ⟨fraction, exponent, hfraction, hexponent, rfl⟩, rfl⟩ := h
  exact ⟨sign, hsign, whole, fraction, exponent, hwhole, hfraction, hexponent, rfl⟩

theorem takes_of_skipSign (s : List Char) :
  Takes (· ∈ [[], ['+'], ['-']]) s (skipSign s).val
  := by
  unfold skipSign
  split
  case h_1 r => exact ⟨['+'], by decide, rfl⟩
  case h_2 r => exact ⟨['-'], by decide, rfl⟩
  case h_3 => exact ⟨[], by decide, rfl⟩

theorem takes_of_skipExponent {t : Tail s} (h : skipExponent s = .ok t) :
  Takes Exponent s t.val
  := by
  unfold skipExponent at h
  split at h
  case h_1 c r =>
    split at h
    case isTrue hc =>
      obtain ⟨u, hu, h⟩ := (bind_eq_ok _ _ _).mp h
      cases h
      obtain ⟨sign, hsign, hs⟩ := takes_of_skipSign r
      obtain ⟨ds, hds, ht⟩ := takes_of_skipDigits hu
      refine ⟨c :: (sign ++ ds), Power.exponent (by simpa using hc) ⟨sign, hsign, ds, hds, rfl⟩, ?_⟩
      simp only [Rest.val_tail, Rest.val_cons, Tail.val_rest]
      rw [List.cons_append, List.append_assoc, ← ht, ← hs]
    case isFalse =>
      cases h
      exact ⟨[], .inl rfl, rfl⟩
  case h_2 =>
    cases h
    exact ⟨[], .inl rfl, rfl⟩

theorem takes_of_skipFraction {t : Tail s} (h : skipFraction s = .ok t) :
  Takes Decimals s t.val
  := by
  unfold skipFraction at h
  split at h
  case h_1 r =>
    obtain ⟨u, hu, h⟩ := (bind_eq_ok _ _ _).mp h
    obtain ⟨w, hw, h⟩ := (bind_eq_ok _ _ _).mp h
    cases h
    obtain ⟨ds, hds, hr⟩ := takes_of_skipDigits hu
    obtain ⟨exponent, hexponent, hu⟩ := takes_of_skipExponent hw
    refine ⟨'.' :: ds ++ exponent, Fraction.decimals (.inr ⟨ds, hds, rfl⟩) hexponent, ?_⟩
    simp only [Rest.val_tail, Rest.val_cons, Rest.val_then]
    rw [List.append_assoc, ← hu, List.cons_append, ← hr]
  case h_2 =>
    obtain ⟨exponent, hexponent, hs⟩ := takes_of_skipExponent h
    exact ⟨exponent, Fraction.decimals (.inl rfl) hexponent, hs⟩

theorem takes_of_skipUnsigned {t : Rest s} (h : skipUnsigned s = .ok t) :
  Takes Unsigned s t.val
  := by
  unfold skipUnsigned at h
  split at h
  case h_1 r =>
    split at h
    case isTrue => contradiction
    case isFalse =>
      obtain ⟨u, hu, h⟩ := (bind_eq_ok _ _ _).mp h
      cases h
      obtain ⟨decimals, hdecimals, hr⟩ := takes_of_skipFraction hu
      refine ⟨'0' :: decimals, ⟨['0'], decimals, by decide, hdecimals, rfl⟩, ?_⟩
      rw [List.cons_append, Tail.val_cons, ← hr]
  case h_2 hzero =>
    obtain ⟨u, hu, h⟩ := (bind_eq_ok _ _ _).mp h
    obtain ⟨w, hw, h⟩ := (bind_eq_ok _ _ _).mp h
    cases h
    obtain ⟨ds, hds, hs⟩ := takes_of_skipDigits hu
    obtain ⟨decimals, hdecimals, hr⟩ := takes_of_skipFraction hw
    refine ⟨ds ++ decimals, ⟨ds, decimals, ?_, hdecimals, rfl⟩, ?_⟩
    · cases ds with
      | nil => exact absurd rfl hds.1
      | cons d ds =>
        apply hds.whole
        rintro rfl
        exact absurd hs (hzero _)
    · rw [Rest.val_then, List.append_assoc, ← hr, ← hs]

theorem takes_of_skipNumber {t : Rest s} (h : skipNumber s = .ok t) :
  Takes Number s t.val
  := by
  unfold skipNumber at h
  split at h
  case h_1 r =>
    obtain ⟨u, hu, h⟩ := (bind_eq_ok _ _ _).mp h
    cases h
    obtain ⟨cs, hcs, hr⟩ := takes_of_skipUnsigned hu
    refine ⟨'-' :: cs, hcs.number ['-'] (by decide), ?_⟩
    rw [Rest.val_cons, List.cons_append, ← hr]
  case h_2 =>
    obtain ⟨cs, hcs, hs⟩ := takes_of_skipUnsigned h
    exact ⟨cs, hcs.number [] (by decide), hs⟩

/-! #### Numbers whose value is kept -/

theorem takes_of_readExponent {negative : Bool} {significand : Nat} {exponent : Int} {v : Json}
    (h : readExponent negative significand exponent s = .ok (v, r)) :
  Takes Power s r
  := by
  unfold readExponent at h
  split at h
  case h_1 down t hsign =>
  obtain ⟨sign, hmem, rfl⟩ : Takes (· ∈ [[], ['+'], ['-']]) s t := by
    split at hsign
    · cases hsign
      exact ⟨['+'], by decide, rfl⟩
    · cases hsign
      exact ⟨['-'], by decide, rfl⟩
    · cases hsign
      exact ⟨[], by decide, rfl⟩
  split at h
  case h_1 => contradiction
  case h_2 c u =>
    split at h
    case isTrue => contradiction
    case isFalse hc =>
      obtain ⟨ds, hds, rfl⟩ : ∃ ds : List Char, ds.all Char.isDigit ∧ u = ds ++ r := by
        split at h
        case h_1 power rest hread =>
          obtain rfl := rest_of_scaled h
          exact exists_of_readExponentDigits hread
        case h_2 rest hread =>
          -- The exponent is too large, and what is left of its digits is passed over.
          split at h
          case isTrue => contradiction
          case isFalse =>
            cases h
            obtain ⟨ds, hds, hu⟩ := exists_of_readExponentDigits hread
            refine ⟨ds ++ (spanDigits rest).1, by simp [hds, spanDigits], ?_⟩
            rw [hu, List.append_assoc]
            exact congrArg (ds ++ ·) List.takeWhile_append_dropWhile.symm
      refine ⟨sign ++ c :: ds, ⟨sign, hmem, c :: ds, ?_, rfl⟩, by simp⟩
      exact ⟨List.cons_ne_nil _ _, by simpa [hds] using hc⟩

theorem takes_of_readTail {negative : Bool} {significand : Nat} {exponent : Int} {v : Json}
    (h : readTail negative significand exponent s = .ok (v, r)) :
  Takes Exponent s r
  := by
  unfold readTail at h
  split at h
  case h_1 t =>
    obtain ⟨cs, hcs, rfl⟩ := takes_of_readExponent h
    exact ⟨'e' :: cs, hcs.exponent (by decide), rfl⟩
  case h_2 t =>
    obtain ⟨cs, hcs, rfl⟩ := takes_of_readExponent h
    exact ⟨'E' :: cs, hcs.exponent (by decide), rfl⟩
  case h_3 => exact ⟨[], .inl rfl, (rest_of_scaled h).symm⟩

theorem takes_of_readFraction {negative : Bool} {significand : Nat} {exponent : Int} {v : Json}
    (h : readFraction negative significand exponent s = .ok (v, r)) :
  Takes Decimals ('.' :: s) r
  := by
  unfold readFraction at h
  split at h
  case h_1 => contradiction
  case h_2 => contradiction
  case h_3 digits rest _ hdigits hspan =>
    obtain ⟨hds, hs⟩ := digits_of_spanDigits hspan hdigits
    obtain ⟨cs, hcs, rfl⟩ := takes_of_readTail h
    refine ⟨'.' :: digits ++ cs, Fraction.decimals (.inr ⟨digits, hds, rfl⟩) hcs, ?_⟩
    rw [hs, List.append_assoc]
    rfl

theorem takes_of_readUnsignedNumber {negative : Bool} {v : Json}
    (h : readUnsignedNumber negative s = .ok (v, r)) :
  Takes Unsigned s r
  := by
  unfold readUnsignedNumber at h
  split at h
  case h_1 => contradiction
  case h_2 => contradiction
  case h_3 => contradiction
  case h_4 digits rest _ hdigits hzero hspan =>
    obtain ⟨hds, rfl⟩ := digits_of_spanDigits hspan hdigits
    have hrest : Takes Decimals rest r := by
      simp only at h
      split at h
      case h_1 t => exact takes_of_readFraction h
      case h_2 t =>
        obtain ⟨cs, hcs, rfl⟩ := takes_of_readExponent h
        exact ⟨'e' :: cs, Fraction.decimals (.inl rfl) (hcs.exponent (by decide)), rfl⟩
      case h_3 t =>
        obtain ⟨cs, hcs, rfl⟩ := takes_of_readExponent h
        exact ⟨'E' :: cs, Fraction.decimals (.inl rfl) (hcs.exponent (by decide)), rfl⟩
      case h_4 =>
        refine ⟨[], Fraction.decimals (.inl rfl) (.inl rfl), ?_⟩
        split at h
        case isTrue =>
          cases h
          rfl
        case isFalse => exact (rest_of_scaled h).symm
    obtain ⟨decimals, hdecimals, rfl⟩ := hrest
    refine ⟨digits ++ decimals, ⟨digits, decimals, ?_, hdecimals, rfl⟩, by simp⟩
    cases digits with
    | nil => exact absurd rfl hds.1
    | cons c ds =>
      apply hds.whole
      rintro rfl
      cases ds with
      | nil => rfl
      | cons d ds => exact absurd rfl (hzero d ds)

theorem takes_of_readNumber {v : Json} (h : readNumber s = .ok (v, r)) :
  Takes Number s r
  := by
  unfold readNumber at h
  split at h
  case h_1 t =>
    obtain ⟨cs, hcs, rfl⟩ := takes_of_readUnsignedNumber h
    exact ⟨'-' :: cs, hcs.number ['-'] (by decide), rfl⟩
  case h_2 =>
    obtain ⟨cs, hcs, rfl⟩ := takes_of_readUnsignedNumber h
    exact ⟨cs, hcs.number [] (by decide), rfl⟩

/-! ### Names -/

theorem eq_append_of_readWord {word : List Char} (h : readWord word s = .ok r) :
  s = word ++ r
  := by
  induction word generalizing s with
  | nil => exact Except.ok.inj h
  | cons w ws ih =>
    cases s with
    | nil => contradiction
    | cons c s =>
      rw [readWord] at h
      split at h
      case isTrue hc => rw [ih h, eq_of_beq hc]; rfl
      case isFalse => contradiction

/-! ### String literals -/

theorem isHexDigit_of_hexValue? {c : Char} {n : Nat} (h : hexValue? c = some n) :
  isHexDigit c
  := by
  rw [isHexDigit, Bool.or_assoc, Bool.or_eq_true, Bool.or_eq_true]
  rw [hexValue?] at h
  split at h
  case isTrue hc => exact .inl hc
  case isFalse =>
    split at h
    case isTrue hc => exact .inr (.inl hc)
    case isFalse =>
      split at h
      case isTrue hc => exact .inr (.inr hc)
      case isFalse => contradiction

theorem mem_escapes_of_simpleEscape? {e c : Char} (h : simpleEscape? e = some c) :
  e ∈ escapes
  := by
  unfold simpleEscape? at h
  split at h <;> first | decide | contradiction

/-- What may be read behind a `\u`: it makes an escape, whatever follows in the literal. -/
def Escaped (cs : List Char) : Prop := ∀ body, Body body → Body ('\\' :: 'u' :: (cs ++ body))

/-- Two escapes in a row, as for a pair of surrogates. -/
theorem Escaped.pair {cs ds : List Char} (hcs : Escaped cs) (hds : Escaped ds) :
  Escaped (cs ++ '\\' :: 'u' :: ds)
  := by
  intro body hbody
  rw [List.append_assoc]
  exact hcs _ (hds _ hbody)

theorem readHex_short {α : Type} {a : α} :
  readHex.short s ≠ .ok a
  := by
  rw [readHex.short]
  split <;> exact nofun

theorem takes_of_readHex {n : Nat} {t : Rest s} (h : readHex s = .ok (n, t)) :
  Takes Escaped s t.val
  := by
  unfold readHex at h
  split at h
  case h_1 a b c d u =>
    split at h
    case h_1 ha hb hc hd =>
      cases h
      refine ⟨[a, b, c, d], ?_, rfl⟩
      intro body hbody
      apply Body.unicode _ hbody
      simp only [List.forall_mem_cons]
      exact ⟨isHexDigit_of_hexValue? ha, isHexDigit_of_hexValue? hb, isHexDigit_of_hexValue? hc,
        isHexDigit_of_hexValue? hd, nofun⟩
    case h_2 => exact absurd h readHex_short
  case h_2 => exact absurd h readHex_short

theorem takes_of_readUnicode {c : Char} {t : Rest s} (h : readUnicode s = .ok (c, t)) :
  Takes Escaped s t.val
  := by
  unfold readUnicode at h
  obtain ⟨⟨high, u⟩, hhigh, h⟩ := (bind_eq_ok _ _ _).mp h
  obtain ⟨cs, hcs, hs⟩ := takes_of_readHex hhigh
  simp only at h
  split at h
  case isTrue => contradiction
  split at h
  case isTrue =>
    cases h
    exact ⟨cs, hcs, hs⟩
  split at h
  case h_1 => contradiction
  case h_2 => contradiction
  case h_3 w hu =>
    obtain ⟨⟨low, x⟩, hlow, h⟩ := (bind_eq_ok _ _ _).mp h
    obtain ⟨ds, hds, hw⟩ := takes_of_readHex hlow
    simp only at h
    split at h
    case isTrue => contradiction
    case isFalse =>
      rw [Except.ok.injEq, Prod.mk.injEq] at h
      refine ⟨cs ++ '\\' :: 'u' :: ds, hcs.pair hds, ?_⟩
      rw [← h.2, List.append_assoc, List.cons_append, List.cons_append, Rest.val_trans,
        Rest.val_ofEq, Rest.val_cons, Rest.val_cons, ← hw, ← hu, ← hs]
  case h_4 => contradiction
  case h_5 => contradiction

/-- The body of a string literal and its closing quote. -/
def Closed (cs : List Char) : Prop := ∃ body, Body body ∧ cs = body ++ ['"']

theorem closed_quote (s : List Char) :
  Takes Closed ('"' :: s) s
  := ⟨['"'], ⟨[], .nil, rfl⟩, rfl⟩

theorem closed_unicode {t : List Char} (hs : Takes Escaped s t) (ht : Takes Closed t r) :
  Takes Closed ('\\' :: 'u' :: s) r
  := by
  obtain ⟨_, ⟨body, hbody, rfl⟩, rfl⟩ := ht
  obtain ⟨ds, hds, rfl⟩ := hs
  exact ⟨_, ⟨_, hds body hbody, rfl⟩, by simp⟩

theorem closed_escape {e c : Char} (he : simpleEscape? e = some c) (hs : Takes Closed s r) :
  Takes Closed ('\\' :: e :: s) r
  := by
  obtain ⟨_, ⟨body, hbody, rfl⟩, rfl⟩ := hs
  exact ⟨_, ⟨_, .escape (mem_escapes_of_simpleEscape? he) hbody, rfl⟩, rfl⟩

/-- A character that starts none of the escapes, no closing quote and no control character. -/
theorem closed_char {c : Char} (hquote : c ≠ '"') (hpair : ∀ e t, c = '\\' → s = e :: t → False)
    (hlast : c = '\\' → s = [] → False) (hcontrol : ¬ c.toNat < 32) (hs : Takes Closed s r) :
  Takes Closed (c :: s) r
  := by
  have hbackslash : c ≠ '\\' := by
    intro hc
    cases s with
    | nil => exact hlast hc rfl
    | cons e t => exact hpair e t hc rfl
  obtain ⟨_, ⟨body, hbody, rfl⟩, rfl⟩ := hs
  exact ⟨_, ⟨_, .char (Nat.le_of_not_lt hcontrol) hquote hbackslash hbody, rfl⟩, rfl⟩

/-- What is read up to a closing quote is the body of a string literal. -/
theorem takes_of_readStringFrom {read cs : List Char} (h : readStringFrom read s = .ok (cs, r)) :
  Takes Closed s r
  := by
  fun_induction readStringFrom read s with
  | case1 => contradiction
  | case2 read s =>
    cases h
    exact closed_quote _
  | case3 => contradiction
  | case4 read s c t hread ih => exact closed_unicode (takes_of_readUnicode hread) (ih h)
  | case5 read e s _ c he ih => exact closed_escape he (ih h)
  | case6 => contradiction
  | case7 => contradiction
  | case8 => contradiction
  | case9 read c s hquote _ hpair hlast hcontrol ih =>
    exact closed_char hquote hpair hlast hcontrol (ih h)

/-- What is passed over up to a closing quote is the body of a string literal. -/
theorem takes_of_skipString {t : Rest s} (h : skipString s = .ok t) :
  Takes Closed s t.val
  := by
  fun_induction skipString s with
  | case1 => contradiction
  | case2 s =>
    cases h
    exact closed_quote s
  | case3 => contradiction
  | case4 s n u hread =>
    rename_i ih
    obtain ⟨w, hw, rfl⟩ := (map_eq_ok _ _ _).mp h
    exact closed_unicode (takes_of_readHex hread) (ih hw)
  | case5 => contradiction
  | case6 e s _ c he =>
    rename_i ih
    obtain ⟨w, hw, rfl⟩ := (map_eq_ok _ _ _).mp h
    exact closed_escape he (ih hw)
  | case7 => contradiction
  | case8 => contradiction
  | case9 c s hquote _ hpair hlast hcontrol ih =>
    obtain ⟨w, hw, rfl⟩ := (map_eq_ok _ _ _).mp h
    exact closed_char hquote hpair hlast hcontrol (ih hw)

end MojoToolchain.Json.Grammar
