import Mathlib.Data.List.Forall2
import MojoToolchain.Debug.LaunchFile
import MojoToolchain.Proofs.Json.OnePass
import MojoToolchain.Proofs.Outcome
import MojoToolchain.Settings.Text

/-!
# Lines of a text and of its plain JSON

Any text comes apart into characters of code, string literals and comments (`exists_divided`).  Its
plain JSON has the same lines but for the characters of comments, which go, and for commas of the
code that turn into spaces (`Divided.remains`).  So a reader of the plain JSON stops on the line
of the text that it would name (`plain_keeps_lines`).
-/

namespace MojoToolchain.Json

namespace Grammar

variable {s t u v : List Char}

/-! ### Pieces -/

/-- Characters of a text that belong together, and what they belong to. -/
structure Piece where
  place : Place
  chars : List Char

/-- No quote ends a literal that goes on with a text. -/
def Unended (cs : List Char) : Prop := ∀ body r, Quoted body → cs ≠ body ++ '"' :: r

/-- A text comes apart into pieces: characters of the code, string literals, and comments. -/
inductive Divided : List Piece → List Char → Prop
  | nil : Divided [] []
  | code {c : Char} {ps : List Piece} {s : List Char} (hquote : c ≠ '"')
      (hline : ¬ ['/', '/'] <+: c :: s) (hblock : ¬ ['/', '*'] <+: c :: s) :
      Divided ps s → Divided (⟨.code, [c]⟩ :: ps) (c :: s)
  | literal {cs : List Char} {ps : List Piece} {s : List Char} (hcs : Quoted cs) :
      Divided ps s → Divided (⟨.literal, '"' :: (cs ++ ['"'])⟩ :: ps) ('"' :: (cs ++ '"' :: s))
  | openLiteral {cs : List Char} (hcs : Unended cs) :
      Divided [⟨.literal, '"' :: cs⟩] ('"' :: cs)
  | line {t : List Char} {ps : List Piece} {s : List Char} (ht : '\n' ∉ t) (hs : AtLineEnd s) :
      Divided ps s → Divided (⟨.lineComment, '/' :: '/' :: t⟩ :: ps) ('/' :: '/' :: (t ++ s))
  | block {t : List Char} {ps : List Piece} {s : List Char} (ht : Unclosed t) :
      Divided ps s →
        Divided (⟨.blockComment, '/' :: '*' :: (t ++ ['*', '/'])⟩ :: ps)
          ('/' :: '*' :: (t ++ '*' :: '/' :: s))
  | openBlock {t : List Char} (ht : Unclosed t) :
      Divided [⟨.blockComment, '/' :: '*' :: t⟩] ('/' :: '*' :: t)

/-- Any text comes apart into pieces. -/
theorem exists_divided (s : List Char) :
  ∃ ps, Divided ps s
  := by
  induction hn : s.length using Nat.strongRecOn generalizing s with
  | _ n ih =>
    subst hn
    by_cases hline : ['/', '/'] <+: s
    · obtain ⟨s, rfl⟩ := hline
      obtain ⟨t, r, rfl, ht, hr⟩ := exists_line s
      obtain ⟨ps, hps⟩ := ih r.length (by simp; omega) r rfl
      exact ⟨_, .line (t := t) ht hr hps⟩
    by_cases hblock : ['/', '*'] <+: s
    · obtain ⟨s, rfl⟩ := hblock
      rcases closed_or_unclosed s with ⟨t, r, rfl, ht⟩ | hs
      · obtain ⟨ps, hps⟩ := ih r.length (by simp; omega) r rfl
        exact ⟨_, .block (t := t) ht hps⟩
      · exact ⟨_, .openBlock hs⟩
    cases s with
    | nil => exact ⟨[], .nil⟩
    | cons c s =>
      by_cases hquote : c = '"'
      · subst hquote
        by_cases hs : Unended s
        · exact ⟨_, .openLiteral hs⟩
        · simp only [Unended, not_forall, not_not] at hs
          obtain ⟨body, r, hbody, rfl⟩ := hs
          obtain ⟨ps, hps⟩ := ih r.length (by simp; omega) r rfl
          exact ⟨_, .literal hbody hps⟩
      · obtain ⟨ps, hps⟩ := ih s.length (by simp) s rfl
        exact ⟨_, .code hquote hline hblock hps⟩

/-! ### Passes over pieces -/

theorem Unended.tail {c : Char} (h : Unended (c :: s)) (hquote : c ≠ '"') (hbackslash : c ≠ '\\') :
  Unended s
  := by
  rintro body r hbody rfl
  exact h (c :: body) r (.char hquote hbackslash hbody) rfl

theorem Unended.pair {c : Char} (h : Unended ('\\' :: c :: s)) :
  Unended s
  := by
  rintro body r hbody rfl
  exact h ('\\' :: c :: body) r (.pair hbody) rfl

/-- A literal without an end stays as it is. -/
theorem KeepsLiterals.of_unended {inside outside : List Char → List Char}
    (h : KeepsLiterals inside outside) (hs : Unended s) :
  inside s = s
  := by
  induction hn : s.length using Nat.strongRecOn generalizing s with
  | _ n ih =>
    subst hn
    cases s with
    | nil => exact h.nil
    | cons c s =>
      by_cases hquote : c = '"'
      · exact absurd (by rw [hquote]; rfl) (hs [] s .nil)
      by_cases hbackslash : c = '\\'
      · subst hbackslash
        cases s with
        | nil => exact h.backslash
        | cons e s =>
          have hlt : s.length < ('\\' :: e :: s).length := by
            rw [List.length_cons, List.length_cons]
            omega
          rw [h.pair, ih s.length hlt hs.pair rfl]
      · rw [h.char c s hquote hbackslash, ih s.length (by simp) (hs.tail hquote hbackslash) rfl]

theorem dropComments_code {c : Char} (hquote : c ≠ '"') (hline : ¬ ['/', '/'] <+: c :: s)
    (hblock : ¬ ['/', '*'] <+: c :: s) :
  dropComments (c :: s) = c :: dropComments s
  := by
  rw [dropComments, dropCommentsAt]
  · rw [beq_false_of_ne hquote]
    rfl
  · rintro r rfl rfl
    exact hline ⟨r, rfl⟩
  · rintro r rfl rfl
    exact hblock ⟨r, rfl⟩

/-- A character of the code stays, unless it is a comma that turns into a space. -/
theorem plain_code {c : Char} (hquote : c ≠ '"') (hline : ¬ ['/', '/'] <+: c :: s)
    (hblock : ¬ ['/', '*'] <+: c :: s) :
  plain (c :: s)
    = (if c == ',' && closesNext (dropComments s) then ' ' else c) :: plain s
  := by
  rw [plain, dropComments_code hquote hline hblock, dropTrailingCommas_cons hquote]
  rfl

theorem plain_literal {cs : List Char} (hcs : Quoted cs) (s : List Char) :
  plain ('"' :: (cs ++ '"' :: s)) = '"' :: (cs ++ ['"']) ++ plain s
  := by
  rw [plain, dropComments_quote, keepsLiterals_dropCommentsAt.append hcs, dropTrailingCommas_quote,
    keepsLiterals_dropTrailingCommasAt.append hcs]
  simp [plain]

theorem plain_openLiteral {cs : List Char} (hcs : Unended cs) :
  plain ('"' :: cs) = '"' :: cs
  := by
  rw [plain, dropComments_quote, keepsLiterals_dropCommentsAt.of_unended hcs,
    dropTrailingCommas_quote, keepsLiterals_dropTrailingCommasAt.of_unended hcs]

theorem plain_line (ht : '\n' ∉ t) (hs : AtLineEnd s) :
  plain ('/' :: '/' :: (t ++ s)) = plain s
  := by
  rw [plain, dropComments_line ht hs]
  rfl

theorem dropTrailingCommas_lineFeeds (t s : List Char) :
  dropTrailingCommas (lineFeeds t ++ s) = lineFeeds t ++ dropTrailingCommas s
  := by
  induction t with
  | nil => rfl
  | cons c t ih =>
    by_cases hc : c = '\n'
    · have hcons : lineFeeds (c :: t) = '\n' :: lineFeeds t := by simp [lineFeeds, hc]
      rw [hcons, List.cons_append, dropTrailingCommas_space rfl, ih, List.cons_append]
    · have hcons : lineFeeds (c :: t) = lineFeeds t := by simp [lineFeeds, hc]
      rw [hcons, ih]

theorem plain_block (ht : Unclosed t) (s : List Char) :
  plain ('/' :: '*' :: (t ++ '*' :: '/' :: s)) = lineFeeds t ++ plain s
  := by
  rw [plain, dropComments_block ht, dropTrailingCommas_lineFeeds]
  rfl

theorem plain_openBlock (ht : Unclosed t) :
  plain ('/' :: '*' :: t) = lineFeeds t
  := by
  rw [plain, dropComments_openBlock ht, ← List.append_nil (lineFeeds t),
    dropTrailingCommas_lineFeeds]
  rfl

/-! ### What stays of a text -/

/-- The characters of pieces, each with what it belongs to. -/
def placed (ps : List Piece) : List (Char × Place) :=
  ps.flatMap fun p => p.chars.map fun c => (c, p.place)

/-- A character stays: it belongs to no comment, or is a line feed. -/
def stays : Char × Place → Bool
  | (_, .code) => true
  | (_, .literal) => true
  | (c, .lineComment) => c == '\n'
  | (c, .blockComment) => c == '\n'

/-- A character that stays becomes itself, or a space if it is a comma of the code. -/
def Becomes (m : Char × Place) (e : Char) : Prop := e = m.1 ∨ (m = (',', .code) ∧ e = ' ')

/-- A text is what characters become, without those that go. -/
def Remains (ms : List (Char × Place)) (u : List Char) : Prop :=
  List.Forall₂ Becomes (ms.filter stays) u

variable {ms : List (Char × Place)} {ps : List Piece}

theorem remains_nil :
  Remains [] []
  := .nil

theorem Remains.cons {m : Char × Place} {e : Char} (hm : stays m) (he : Becomes m e)
    (h : Remains ms u) :
  Remains (m :: ms) (e :: u)
  := by
  rw [Remains, List.filter_cons_of_pos hm]
  exact .cons he h

theorem Remains.skip {m : Char × Place} (hm : ¬ stays m) (h : Remains ms u) :
  Remains (m :: ms) u
  := by
  rwa [Remains, List.filter_cons_of_neg hm]

/-- Induction on characters of which a text is what stays. -/
theorem Remains.induction {motive : ∀ ms u, Remains ms u → Prop} (nil : motive [] [] remains_nil)
    (keep : ∀ {m e ms u} (hm : stays m) (he : Becomes m e) (h : Remains ms u), motive ms u h →
      motive (m :: ms) (e :: u) (h.cons hm he))
    (skip : ∀ {m ms u} (hm : ¬ stays m) (h : Remains ms u), motive ms u h →
      motive (m :: ms) u (h.skip hm))
    {ms : List (Char × Place)} {u : List Char} (h : Remains ms u) :
  motive ms u h
  := by
  induction ms generalizing u with
  | nil =>
    obtain rfl := List.forall₂_nil_left_iff.mp h
    exact nil
  | cons m ms ih =>
    have hcons := h
    by_cases hm : stays m
    · rw [Remains, List.filter_cons_of_pos hm, List.forall₂_cons_left_iff] at hcons
      obtain ⟨e, v, he, hv, rfl⟩ := hcons
      exact keep hm he hv (ih hv)
    · rw [Remains, List.filter_cons_of_neg hm] at hcons
      exact skip hm hcons (ih hcons)

theorem Remains.append {ns : List (Char × Place)} (hu : Remains ms u) (hv : Remains ns v) :
  Remains (ms ++ ns) (u ++ v)
  := by
  rw [Remains, List.filter_append]
  exact List.rel_append hu hv

/-- Characters that are kept as they are. -/
theorem remains_of_filter_eq {place : Place}
    (h : (s.map fun c => (c, place)).filter stays = u.map fun c => (c, place)) :
  Remains (s.map fun c => (c, place)) u
  := by
  rw [Remains, h, List.forall₂_map_left_iff]
  exact List.forall₂_same.mpr fun c _ => .inl rfl

theorem remains_literal (s : List Char) :
  Remains (s.map fun c => (c, .literal)) s
  := by
  apply remains_of_filter_eq
  exact List.filter_eq_self.mpr (by simp [stays])

theorem remains_comment {place : Place} (h : place = .lineComment ∨ place = .blockComment)
    (s : List Char) :
  Remains (s.map fun c => (c, place)) (lineFeeds s)
  := by
  apply remains_of_filter_eq
  rw [List.filter_map, lineFeeds]
  congr 2
  funext c
  rcases h with rfl | rfl <;> rfl

/-- A character of the code is kept, or is a comma. -/
theorem remains_code (c : Char) (trailing : Bool) :
  Remains [(c, .code)] [if c == ',' && trailing then ' ' else c]
  := by
  rw [Remains, List.filter_cons_of_pos (by simp [stays])]
  refine .cons ?_ .nil
  split
  case isTrue h =>
    rw [Bool.and_eq_true, beq_iff_eq] at h
    exact .inr ⟨by rw [h.1], rfl⟩
  case isFalse => exact .inl rfl

theorem map_placed (ps : List Piece) :
  (placed ps).map Prod.fst = ps.flatMap Piece.chars
  := by
  have hpiece (p : Piece) : (p.chars.map fun c => (c, p.place)).map Prod.fst = p.chars := by
    rw [List.map_map]
    exact List.map_id p.chars
  rw [placed, List.map_flatMap]
  simp only [hpiece]

/-- The pieces of a text make it up. -/
theorem Divided.flatMap_chars (h : Divided ps s) :
  ps.flatMap Piece.chars = s
  := by
  induction h with
  | nil => rfl
  | _ => simp [*]

/-- The plain JSON of a text is what stays of its pieces. -/
theorem Divided.remains (h : Divided ps s) :
  Remains (placed ps) (plain s)
  := by
  induction h with
  | nil => exact remains_nil
  | code hquote hline hblock _ ih =>
    rw [plain_code hquote hline hblock]
    exact (remains_code _ _).append ih
  | literal hcs _ ih =>
    rw [plain_literal hcs]
    exact (remains_literal _).append ih
  | @openLiteral cs hcs =>
    have hliteral := (remains_literal ('"' :: cs)).append remains_nil
    rw [List.append_nil ('"' :: cs)] at hliteral
    rw [plain_openLiteral hcs]
    exact hliteral
  | @line t ps s ht hs _ ih =>
    have hcomment := remains_comment (.inl rfl) ('/' :: '/' :: t)
    have hfeeds : lineFeeds ('/' :: '/' :: t) = [] := lineFeeds_eq_nil_iff.mpr (by simp [ht])
    rw [hfeeds] at hcomment
    rw [plain_line ht hs]
    exact hcomment.append ih
  | @block t ps s ht _ ih =>
    have hcomment := remains_comment (.inr rfl) ('/' :: '*' :: (t ++ ['*', '/']))
    rw [plain_block ht]
    have hfeeds : lineFeeds ('/' :: '*' :: (t ++ ['*', '/'])) = lineFeeds t := by
      simp [lineFeeds]
    rw [hfeeds] at hcomment
    exact hcomment.append ih
  | @openBlock t ht =>
    rw [plain_openBlock ht, ← List.append_nil (lineFeeds t)]
    exact (remains_comment (.inr rfl) ('/' :: '*' :: t)).append remains_nil

/-! ### Lines -/

/-- The lines of characters with what they belong to. -/
def linesOf (ms : List (Char × Place)) : List (List (Char × Place)) :=
  ms.splitOnP fun m => m.1 == '\n'

theorem linesOf_cons (m : Char × Place) (ms : List (Char × Place)) :
  linesOf (m :: ms)
    = if m.1 == '\n' then [] :: linesOf ms else (linesOf ms).modifyHead (m :: ·)
  := List.splitOnP_cons_eq_if_modifyHead m ms

theorem map_linesOf (ms : List (Char × Place)) :
  (linesOf ms).map (List.map Prod.fst) = (ms.map Prod.fst).splitOn '\n'
  := by
  induction ms with
  | nil => rfl
  | cons m ms ih =>
    rw [List.map_cons, List.splitOn_cons_eq_if_modifyHead, ← ih, linesOf_cons]
    split
    case isTrue => rfl
    case isFalse => cases linesOf ms <;> rfl

theorem Becomes.isFeed_eq {m : Char × Place} {e : Char} (h : Becomes m e) :
  (m.1 == '\n') = (e == '\n')
  := by
  rcases h with rfl | ⟨rfl, rfl⟩
  · rfl
  · rfl

theorem isFeed_of_not_stays {m : Char × Place} (hm : ¬ stays m) :
  (m.1 == '\n') = false
  := by
  obtain ⟨c, place⟩ := m
  cases place <;> simp_all [stays]

theorem forall₂_modifyHead {f : List (Char × Place) → List (Char × Place)}
    {g : List Char → List Char} (hfg : ∀ ms u, Remains ms u → Remains (f ms) (g u))
    {ls : List (List (Char × Place))} {us : List (List Char)} (h : List.Forall₂ Remains ls us) :
  List.Forall₂ Remains (ls.modifyHead f) (us.modifyHead g)
  := by
  cases h with
  | nil => exact .nil
  | cons hline hlines => exact .cons (hfg _ _ hline) hlines

/-- What stays of characters stays of them line by line. -/
theorem Remains.lines (h : Remains ms u) :
  List.Forall₂ Remains (linesOf ms) (u.splitOn '\n')
  := by
  induction h using Remains.induction with
  | nil => exact .cons remains_nil .nil
  | keep hm he _ ih =>
    rw [linesOf_cons, List.splitOn_cons_eq_if_modifyHead, ← he.isFeed_eq]
    split
    case isTrue => exact .cons remains_nil ih
    case isFalse => exact forall₂_modifyHead (fun _ _ => Remains.cons hm he) ih
  | @skip m ms u hm _ ih =>
    rw [linesOf_cons, isFeed_of_not_stays hm, if_neg (by simp), ← id_eq (u.splitOn '\n'),
      ← List.modifyHead_id]
    exact forall₂_modifyHead (fun _ _ => Remains.skip hm) ih

/-- No line feed goes, and there is no new one. -/
theorem Remains.count_feeds (h : Remains ms u) :
  u.count '\n' = (ms.map Prod.fst).count '\n'
  := by
  induction h using Remains.induction with
  | nil => rfl
  | keep hm he _ ih => rw [List.map_cons, List.count_cons, List.count_cons, ih, he.isFeed_eq]
  | skip hm _ ih =>
    rw [List.map_cons, List.count_cons, ih, isFeed_of_not_stays hm]
    rfl

/-- Characters come apart where what stays of them does. -/
theorem Remains.exists_append (h : Remains ms (u ++ v)) :
  ∃ front back, ms = front ++ back ∧ Remains front u ∧ Remains back v
  := by
  have hfront := List.forall₂_take_append _ u v h
  have hback := List.forall₂_drop_append _ u v h
  obtain ⟨front, back, rfl, hu, hv⟩ :=
    List.filter_eq_append_iff.mp (List.take_append_drop u.length (ms.filter stays)).symm
  rw [← hu] at hfront
  rw [← hv] at hback
  exact ⟨front, back, rfl, hfront, hback⟩

end Grammar

/-! ### Stops -/

/-- The characters of a text that lie in its first bytes. -/
def wholeIn (n : Nat) : List Char → List Char
  | [] => []
  | c :: r => if c.utf8Size ≤ n then c :: wholeIn (n - c.utf8Size) r else []

/-- The characters that a reader has read when it stops; one of which it has read a part only does
not count. -/
def Stop.read (stop : Stop) (text : List Char) : List Char :=
  wholeIn (byteLength text - byteLength stop.rest + stop.seen) text

theorem isPrefix_wholeIn (n : Nat) (s : List Char) :
  wholeIn n s <+: s
  := by
  induction s generalizing n with
  | nil => exact List.prefix_rfl
  | cons c s ih =>
    rw [wholeIn]
    split
    case isTrue => exact List.prefix_cons_inj c |>.mpr (ih _)
    case isFalse => exact List.nil_prefix

/-- Only a line feed has the byte of one. -/
theorem eq_of_feed_mem {c : Char} (h : 10 ∈ String.utf8EncodeChar c) :
  c = '\n'
  := by
  rw [String.utf8EncodeChar] at h
  -- The bytes of a character that is not ASCII all have their first bit set.
  have hlarge (n : Nat) (hn : 128 ≤ n) (hlt : n < 256) : 10 ≠ UInt8.ofNat n := by
    intro heq
    have hten : 10 = n := (congrArg UInt8.toNat heq).trans (UInt8.toNat_ofNat_of_lt' hlt)
    omega
  split at h
  case isTrue hone =>
    have hlt : c.val.toNat < UInt8.size := Nat.lt_of_le_of_lt hone (by decide)
    have hten := congrArg UInt8.toNat (List.mem_singleton.mp h)
    rw [UInt8.toNat_ofNat_of_lt' hlt] at hten
    exact Char.ext (UInt32.toNat_inj.mp hten.symm)
  case isFalse =>
    exfalso
    split at h
    case isTrue =>
      simp only [List.mem_cons, List.not_mem_nil, or_false] at h
      rcases h with h | h <;> exact hlarge _ (by omega) (by omega) h
    case isFalse =>
      split at h
      case isTrue =>
        simp only [List.mem_cons, List.not_mem_nil, or_false] at h
        rcases h with h | h | h <;> exact hlarge _ (by omega) (by omega) h
      case isFalse =>
        simp only [List.mem_cons, List.not_mem_nil, or_false] at h
        rcases h with h | h | h | h <;> exact hlarge _ (by omega) (by omega) h

/-- The bytes of a text hold the line feeds of its whole characters. -/
theorem count_take_bytes (n : Nat) (s : List Char) :
  ((s.flatMap String.utf8EncodeChar).take n).count 10 = (wholeIn n s).count '\n'
  := by
  induction s generalizing n with
  | nil => simp [wholeIn]
  | cons c s ih =>
    rw [List.flatMap_cons, List.take_append, List.count_append, String.length_utf8EncodeChar,
      wholeIn]
    split
    case isTrue h =>
      have hall : (String.utf8EncodeChar c).take n = String.utf8EncodeChar c :=
        List.take_of_length_le (by rwa [String.length_utf8EncodeChar])
      rw [hall, ih, List.count_cons, Nat.add_comm]
      congr 1
      by_cases hc : c = '\n'
      · rw [hc]
        decide
      · rw [beq_false_of_ne hc]
        exact List.count_eq_zero.mpr fun hmem => hc (eq_of_feed_mem hmem)
    case isFalse h =>
      have hnone : 10 ∉ (String.utf8EncodeChar c).take n := by
        intro hmem
        obtain rfl := eq_of_feed_mem (List.mem_of_mem_take hmem)
        obtain rfl : n = 0 := Nat.lt_one_iff.mp (Nat.not_le.mp h)
        simp at hmem
      rw [List.count_eq_zero.mpr hnone, Nat.sub_eq_zero_of_le (by omega)]
      rfl

/-- The line of a stop counts the line feeds that were read. -/
theorem Stop.line_eq (stop : Stop) (text : List Char) :
  stop.line text = 1 + (stop.read text).count '\n'
  := congrArg (1 + ·) (count_take_bytes _ text)

/-! ### Refused texts -/

/-- The plain JSON of a text is refused, as settings or as a launch file, where a reader stops. -/
inductive Refused (s : List Char) : Stop → List Char → Prop
  | settings {source name : String} {stop : Stop} {text : List Char}
      (h : Settings.parse source (String.ofList s) = .error (.invalid name stop text)) :
      Refused s stop text
  | launchFile {name : Option String} {stop : Stop} {text : List Char}
      (h : Debug.LaunchFile.parse (String.ofList s) name = .error (.notJson stop text)) :
      Refused s stop text

/-- A launch file that is read is not refused for its text. -/
theorem select_ne_notJson {name : Option String} {file : Json} {stop : Stop} {text : List Char} :
  Debug.LaunchFile.select name file ≠ .error (.notJson stop text)
  := by
  have hchoose (configurations : List Json) :
      Debug.LaunchFile.choose name configurations ≠ .error (.notJson stop text) := by
    unfold Debug.LaunchFile.choose
    split
    · split <;> simp
    · split <;> simp
  unfold Debug.LaunchFile.select
  split
  · apply hchoose
  · simp

theorem Refused.text_eq {s text : List Char} {stop : Stop} (h : Refused s stop text) :
  text = plain s
  := by
  cases h with
  | settings h =>
    simp only [Settings.parse, String.toList_ofList] at h
    split at h
    · cases h
    · cases h
      rfl
  | launchFile h =>
    simp only [Debug.LaunchFile.parse, String.toList_ofList] at h
    split at h
    · cases h
      rfl
    · rcases (bind_eq_error _ _ _).mp h with h | ⟨value, -, h⟩
      · exact absurd h select_ne_notJson
      · split at h <;> cases h

open Grammar

/-- The plain JSON of a text is written in one pass, which succeeds, and has as many lines as the
text.  Each line of it is the line of the text without the characters of comments, with a space for
some of the commas of its code.  So where a reader of the plain JSON stops, the line is the one on
which the same characters of the text have been read, and this is the line that is given when
settings or a launch file are refused. -/
theorem plain_keeps_lines (s : List Char) :
  Pass.start.run s = some (plain s)
    ∧ (plain s).count '\n' = s.count '\n'
    ∧ (∃ ps, Divided ps s)
    ∧ (∀ ps, Divided ps s →
        (linesOf (placed ps)).map (List.map Prod.fst) = s.splitOn '\n'
          ∧ List.Forall₂ Remains (linesOf (placed ps)) ((plain s).splitOn '\n')
          ∧ ∀ stop : Stop, ∃ front back left,
              placed ps = front ++ back ∧ plain s = stop.read (plain s) ++ left
                ∧ Remains front (stop.read (plain s)) ∧ Remains back left
                ∧ stop.line (plain s) = 1 + (front.map Prod.fst).count '\n')
    ∧ ∀ stop text, Refused s stop text → text = plain s
  := by
  refine ⟨Pass.run_start s, ?_, exists_divided s, ?_, fun stop text => Refused.text_eq⟩
  · obtain ⟨ps, hps⟩ := exists_divided s
    rw [hps.remains.count_feeds, map_placed, hps.flatMap_chars]
  intro ps hps
  refine ⟨?_, hps.remains.lines, ?_⟩
  · rw [map_linesOf, map_placed, hps.flatMap_chars]
  intro stop
  obtain ⟨left, hleft⟩ := isPrefix_wholeIn _ (plain s)
  have hremains := hps.remains
  rw [← hleft] at hremains
  obtain ⟨front, back, hplaced, hfront, hback⟩ := hremains.exists_append
  refine ⟨front, back, left, hplaced, hleft.symm, hfront, hback, ?_⟩
  rw [stop.line_eq, ← hfront.count_feeds]
  rfl

/-- A list that a brace closes, with a comma before a comment of two lines. -/
def torn : List Char := ['[', '1', ',', '/', '*', '\n', '*', '/', '\n', '\x7d']

/-- The pieces of the list. -/
def tornPieces : List Piece :=
  [⟨.code, ['[']⟩, ⟨.code, ['1']⟩, ⟨.code, [',']⟩, ⟨.blockComment, ['/', '*', '\n', '*', '/']⟩,
    ⟨.code, ['\n']⟩, ⟨.code, ['\x7d']⟩]

/-- Where the list is refused. -/
def tornStop : Stop := ⟨.expectedListCommaOrEnd, ['\x7d'], 1⟩

/-- The list is refused on its third line, with two of its line feeds read. -/
theorem plain_keeps_lines_torn :
  Divided tornPieces torn
    ∧ List.Forall₂ Remains (linesOf (placed tornPieces)) [['[', '1', ' '], [], ['\x7d']]
    ∧ Refused torn tornStop (plain torn)
    ∧ tornStop.line (plain torn) = 3
    ∧ ∃ front back, placed tornPieces = front ++ back ∧ Remains front (tornStop.read (plain torn))
        ∧ (front.map Prod.fst).count '\n' = 2
  := by
  obtain ⟨-, -, -, hdivided, htext⟩ := plain_keeps_lines torn
  have hpieces : Divided tornPieces torn := by
    have hcomment : Unclosed ['\n'] := by
      rw [Unclosed]
      decide
    refine .code (by decide) (by decide) (by decide) (.code (by decide) (by decide) (by decide)
      (.code (by decide) (by decide) (by decide) (.block (t := ['\n']) hcomment
        (.code (by decide) (by decide) (by decide) (.code (by decide) (by decide) (by decide)
          .nil)))))
  have hrefused : Refused torn tornStop ['[', '1', ' ', '\n', '\n', '\x7d'] := by
    apply Refused.launchFile
    change Debug.LaunchFile.parse (String.ofList torn) none = _
    rw [← map_eq_error _ fun _ => ()]
    decide +kernel
  have hplain := htext tornStop _ hrefused
  have hthird : tornStop.line ['[', '1', ' ', '\n', '\n', '\x7d'] = 3 := by decide +kernel
  obtain ⟨-, hlines, hstops⟩ := hdivided tornPieces hpieces
  obtain ⟨front, back, left, hplaced, -, hread, -, hline⟩ := hstops tornStop
  rw [← hplain] at hlines hread hline ⊢
  exact ⟨hpieces, hlines, hrefused, hthird, front, back, hplaced, hread,
    Nat.add_left_cancel (hline.symm.trans hthird)⟩

end MojoToolchain.Json
