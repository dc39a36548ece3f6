import MojoToolchain.Json.Fault
import MojoToolchain.Proofs.Json.Commas
import MojoToolchain.Proofs.Json.Comments

/-!
# Plain JSON in one pass

A `Pass` reads a text with comments once, character by character with one character of look-ahead,
and writes its plain JSON.  It remembers by a number of bytes where it has written a comma that only
blank characters and comments have followed, and writes a space there when a container ends next.
That place always holds a comma (`Sound`), so a pass over any text succeeds, and it writes what the
two passes of `plain` make of the text (`run_start`).
-/

namespace MojoToolchain.Json

open Text (isBlank)

open Grammar

/-- What a pass reads a character as. -/
inductive Mode where
  | code
  | literal
  /-- The character behind a backslash in a literal. -/
  | escaped
  | lineComment
  | blockComment
  /-- The character behind an asterisk in a block comment. -/
  | starred
  deriving DecidableEq, Repr

/-- The mode is not one inside of a literal. -/
def Mode.isOutside : Mode → Bool
  | literal | escaped => false
  | _ => true

/-- A pass over a text that is under way. -/
structure Pass where
  mode : Mode
  /-- What has been written. -/
  written : List Char
  /-- The bytes that were written before a comma that no token has followed. -/
  comma : Option Nat
  deriving DecidableEq, Repr

namespace Pass

/-- A pass that has not read anything. -/
def start : Pass := ⟨.code, [], none⟩

/-- Writes a space in place of the character behind a number of bytes; there has to be one, of one
byte. -/
def blankOut (n : Nat) : List Char → Option (List Char)
  | [] => none
  | c :: r =>
    if n = 0 then if c.utf8Size = 1 then some (' ' :: r) else none
    else if c.utf8Size ≤ n then (blankOut (n - c.utf8Size) r).map (c :: ·)
    else none

/-- Writes a character and goes on in a mode. -/
def write (p : Pass) (c : Char) (mode : Mode) : Pass :=
  { p with mode := mode, written := p.written ++ [c] }

/-- Reads a character of a comment, of which only line feeds are written. -/
def comment (p : Pass) (c : Char) (mode : Mode) : Pass :=
  if c == '\n' then p.write c mode else { p with mode := mode }

/-- What was written, with a space for the comma that is remembered if a container ends. -/
def settled (p : Pass) (closes : Bool) : Option (List Char) :=
  match p.comma with
  | some n => if closes then blankOut n p.written else some p.written
  | none => some p.written

/-- Reads a character that starts a token or is a blank between tokens. -/
def code (p : Pass) (c : Char) : Option Pass :=
  if isBlank c then some (p.write c .code)
  else do
    let written ← p.settled (c == '\x7d' || c == ']')
    return {
      mode := if c == '"' then .literal else .code
      written := written ++ [c]
      comma := if c == ',' then some (byteLength written) else none }

/-- Reads a character that does not start a comment. -/
def step (p : Pass) (c : Char) : Option Pass :=
  match p.mode with
  | .code => p.code c
  | .literal =>
    some (p.write c (if c == '\\' then .escaped else if c == '"' then .code else .literal))
  | .escaped => some (p.write c .literal)
  | .lineComment => some (p.comment c (if c == '\n' then .code else .lineComment))
  | .blockComment => some (p.comment c (if c == '*' then .starred else .blockComment))
  | .starred =>
    some (p.comment c (if c == '/' then .code else if c == '*' then .starred else .blockComment))

/-- Reads a text to its end. -/
def run (p : Pass) : List Char → Option (List Char)
  | [] => some p.written
  | c :: r =>
    match p.mode, c, r with
    | .code, '/', '/' :: r => run { p with mode := .lineComment } r
    | .code, '/', '*' :: r => run { p with mode := .blockComment } r
    | _, c, r => do run (← p.step c) r

/-! ### Places in what was written -/

theorem foldl_utf8Size (n : Nat) (s : List Char) :
  s.foldl (fun n c => n + c.utf8Size) n = n + byteLength s
  := by
  induction s generalizing n with
  | nil => rfl
  | cons c s ih =>
    rw [byteLength, List.foldl_cons, List.foldl_cons, ih, ih (0 + c.utf8Size)]
    omega

theorem byteLength_cons (c : Char) (s : List Char) :
  byteLength (c :: s) = c.utf8Size + byteLength s
  := by
  rw [byteLength, List.foldl_cons, foldl_utf8Size, Nat.zero_add]

theorem blankOut_byteLength (front back : List Char) :
  blankOut (byteLength front) (front ++ ',' :: back) = some (front ++ ' ' :: back)
  := by
  induction front with
  | nil => rfl
  | cons c front ih =>
    have hpos := c.utf8Size_pos
    rw [byteLength_cons, List.cons_append, blankOut, if_neg (by omega), if_pos (by omega),
      Nat.add_sub_cancel_left, ih]
    rfl

/-- A pass remembers a comma that it has written, and none inside of a literal. -/
structure Sound (p : Pass) : Prop where
  comma : ∀ n, p.comma = some n → ∃ front back, p.written = front ++ ',' :: back
    ∧ byteLength front = n
  literal : p.mode.isOutside = false → p.comma = none

variable {p : Pass} {c : Char} {r : List Char}

theorem settled_of_none (h : p.comma = none) (closes : Bool) :
  p.settled closes = some p.written
  := by
  rw [settled, h]

theorem settled_false (p : Pass) :
  p.settled false = some p.written
  := by
  unfold settled
  split <;> rfl

theorem Sound.settled_true (h : p.Sound) {n : Nat} (hn : p.comma = some n) :
  ∃ front back, p.written = front ++ ',' :: back
    ∧ p.settled true = some (front ++ ' ' :: back)
  := by
  obtain ⟨front, back, hwritten, rfl⟩ := h.comma n hn
  refine ⟨front, back, hwritten, ?_⟩
  rw [settled, hn, hwritten]
  exact blankOut_byteLength front back

/-- The place of the comma can be written to. -/
theorem Sound.exists_settled (h : p.Sound) (closes : Bool) :
  ∃ written, p.settled closes = some written
  := by
  cases closes with
  | false => exact ⟨_, settled_false p⟩
  | true =>
    cases hn : p.comma with
    | none => exact ⟨_, settled_of_none hn true⟩
    | some n =>
      obtain ⟨front, back, -, hsettled⟩ := h.settled_true hn
      exact ⟨_, hsettled⟩

/-- What is written later does not move the comma. -/
theorem Sound.settled_write (h : p.Sound) (c : Char) (mode : Mode) (closes : Bool) :
  (p.write c mode).settled closes = (p.settled closes).map (· ++ [c])
  := by
  cases closes with
  | false =>
    rw [settled_false, settled_false]
    rfl
  | true =>
    cases hn : p.comma with
    | none =>
      rw [settled_of_none hn, settled_of_none (p := p.write c mode) hn]
      rfl
    | some n =>
      obtain ⟨front, back, hwritten, rfl⟩ := h.comma n hn
      have hlater : (p.write c mode).written = front ++ ',' :: (back ++ [c]) := by
        simp [write, hwritten]
      rw [settled, settled, hn, hlater, show (p.write c mode).comma = _ from hn, hwritten]
      simp only [if_true, blankOut_byteLength, Option.map_some, List.append_assoc,
        List.cons_append]

theorem Sound.write (h : p.Sound) (c : Char) {mode : Mode}
    (hmode : mode.isOutside = false → p.comma = none) :
  (p.write c mode).Sound
  where
  comma n hn := by
    obtain ⟨front, back, hwritten, hlength⟩ := h.comma n hn
    exact ⟨front, back ++ [c], by simp [Pass.write, hwritten], hlength⟩
  literal := hmode

end Pass

/-! ### What is left to read -/

namespace Mode

/-- What is left of a text without its comments. -/
def rest : Mode → List Char → List Char
  | .code, s => dropCommentsAt .code s
  | .literal, s => dropCommentsAt .literal s
  | .escaped, [] => []
  | .escaped, c :: r => c :: dropCommentsAt .literal r
  | .lineComment, s => dropCommentsAt .lineComment s
  | .blockComment, s => dropCommentsAt .blockComment s
  | .starred, s => dropCommentsAt .blockComment ('*' :: s)

/-- What is to be written for what is left of a text. -/
def finish : Mode → List Char → List Char
  | .literal, s => dropTrailingCommasAt true (dropCommentsAt .literal s)
  | .escaped, [] => []
  | .escaped, c :: r => c :: dropTrailingCommasAt true (dropCommentsAt .literal r)
  | mode, s => dropTrailingCommas (mode.rest s)

theorem finish_of_isOutside {mode : Mode} (h : mode.isOutside) (s : List Char) :
  mode.finish s = dropTrailingCommas (mode.rest s)
  := by
  cases mode with
  | literal => contradiction
  | escaped => contradiction
  | _ => rfl

theorem rest_blockComment (c : Char) (r : List Char) :
  rest .blockComment (c :: r)
    = lineFeeds [c] ++ (if c == '*' then starred else blockComment).rest r
  := by
  by_cases hc : c = '*'
  · rw [hc]
    rfl
  · have hstar : ¬ ['*', '/'] <+: c :: r := by simp [Ne.symm hc]
    rw [beq_false_of_ne hc]
    exact dropCommentsAt_block_cons hstar

end Mode

namespace Pass

/-- What a pass comes to write. -/
def outcome (p : Pass) (s : List Char) : Option (List Char) :=
  (p.settled (closesNext (p.mode.rest s))).map (· ++ p.mode.finish s)

theorem outcome_of_none {p : Pass} (h : p.comma = none) (s : List Char) :
  p.outcome s = some (p.written ++ p.mode.finish s)
  := by
  rw [outcome, settled_of_none h]
  rfl

variable {p : Pass} {c : Char} {r : List Char}

/-- A character is written that the two passes write as well. -/
theorem Sound.outcome_write (h : p.Sound) {mode : Mode}
    (hcloses : p.comma = none ∨ closesNext (p.mode.rest (c :: r)) = closesNext (mode.rest r))
    (hfinish : p.mode.finish (c :: r) = c :: mode.finish r) :
  (p.write c mode).outcome r = p.outcome (c :: r)
  := by
  have hsettled : p.settled (closesNext (mode.rest r))
      = p.settled (closesNext (p.mode.rest (c :: r))) := by
    rcases hcloses with hnone | hcloses
    · rw [settled_of_none hnone, settled_of_none hnone]
    · rw [hcloses]
  rw [outcome, outcome, h.settled_write, hfinish, Option.map_map, ← hsettled]
  congr 1
  funext written
  exact List.append_assoc written [c] _

theorem Sound.step_literal (h : p.Sound) (hmode : p.mode = .literal) :
  ∃ q, p.step c = some q ∧ q.Sound ∧ q.outcome r = p.outcome (c :: r)
  := by
  have hnone : p.comma = none := h.literal (by rw [hmode]; rfl)
  rw [step, hmode]
  refine ⟨_, rfl, h.write c fun _ => hnone, h.outcome_write (.inl hnone) ?_⟩
  rw [hmode]
  by_cases hbackslash : c = '\\'
  · rw [hbackslash]
    cases r with
    | nil => rfl
    | cons e r =>
      rw [Mode.finish, keepsLiterals_dropCommentsAt.pair, keepsLiterals_dropTrailingCommasAt.pair]
      rfl
  by_cases hquote : c = '"'
  · rw [hquote, Mode.finish, keepsLiterals_dropCommentsAt.quote,
      keepsLiterals_dropTrailingCommasAt.quote]
    rfl
  · rw [Mode.finish, keepsLiterals_dropCommentsAt.char c r hquote hbackslash,
      keepsLiterals_dropTrailingCommasAt.char c _ hquote hbackslash]
    simp [hquote, hbackslash, Mode.finish]

theorem Sound.step_escaped (h : p.Sound) (hmode : p.mode = .escaped) :
  ∃ q, p.step c = some q ∧ q.Sound ∧ q.outcome r = p.outcome (c :: r)
  := by
  have hnone : p.comma = none := h.literal (by rw [hmode]; rfl)
  rw [step, hmode]
  refine ⟨_, rfl, h.write c fun _ => hnone, h.outcome_write (.inl hnone) ?_⟩
  rw [hmode]
  rfl

/-- A character of a comment is written if it is a line feed. -/
theorem Sound.outcome_comment (h : p.Sound) {mode : Mode} (houtside : p.mode.isOutside)
    (hmode : mode.isOutside) (hrest : p.mode.rest (c :: r) = lineFeeds [c] ++ mode.rest r) :
  (p.comment c mode).Sound ∧ (p.comment c mode).outcome r = p.outcome (c :: r)
  := by
  have hfinish := Mode.finish_of_isOutside houtside (c :: r)
  rw [hrest] at hfinish
  unfold comment
  split
  case isTrue hc =>
    obtain rfl := eq_of_beq hc
    refine ⟨h.write _ fun hliteral => by simp [hmode] at hliteral, h.outcome_write (.inr ?_) ?_⟩
    · rw [hrest]
      exact closesNext_space rfl
    · rw [hfinish, Mode.finish_of_isOutside hmode]
      exact dropTrailingCommas_space rfl
  case isFalse hc =>
    have hnil : lineFeeds [c] = [] := by simpa [lineFeeds] using hc
    rw [hnil, List.nil_append] at hrest hfinish
    refine ⟨⟨h.comma, fun hliteral => by simp [hmode] at hliteral⟩, ?_⟩
    rw [outcome, outcome, hrest, hfinish, ← Mode.finish_of_isOutside hmode]
    rfl

theorem Sound.step_lineComment (h : p.Sound) (hmode : p.mode = .lineComment) :
  ∃ q, p.step c = some q ∧ q.Sound ∧ q.outcome r = p.outcome (c :: r)
  := by
  rw [step, hmode]
  refine ⟨_, rfl, h.outcome_comment (by rw [hmode]; rfl) ?_ ?_⟩
  · split <;> rfl
  · rw [hmode]
    by_cases hc : c = '\n' <;> simp [Mode.rest, lineFeeds, hc]

theorem Sound.step_blockComment (h : p.Sound) (hmode : p.mode = .blockComment) :
  ∃ q, p.step c = some q ∧ q.Sound ∧ q.outcome r = p.outcome (c :: r)
  := by
  rw [step, hmode]
  refine ⟨_, rfl, h.outcome_comment (by rw [hmode]; rfl) ?_ ?_⟩
  · split <;> rfl
  · rw [hmode]
    exact Mode.rest_blockComment c r

theorem Sound.step_starred (h : p.Sound) (hmode : p.mode = .starred) :
  ∃ q, p.step c = some q ∧ q.Sound ∧ q.outcome r = p.outcome (c :: r)
  := by
  rw [step, hmode]
  refine ⟨_, rfl, h.outcome_comment (by rw [hmode]; rfl) ?_ ?_⟩
  · split
    · rfl
    · split <;> rfl
  · rw [hmode]
    by_cases hc : c = '/'
    · rw [hc]
      rfl
    · have hstar : ¬ ['*', '/'] <+: '*' :: c :: r := by simp [Ne.symm hc]
      rw [beq_false_of_ne hc, Mode.rest, dropCommentsAt_block_cons hstar]
      exact Mode.rest_blockComment c r

theorem ne_of_isBlank {c e : Char} (hc : isBlank c) (he : isBlank e = false) :
  c ≠ e
  := by
  rintro rfl
  rw [hc] at he
  contradiction

/-- A blank character is written, and a comma before it may still be a trailing one. -/
theorem Sound.code_blank (h : p.Sound) (hmode : p.mode = .code) (hblank : isBlank c)
    (hrest : p.mode.rest (c :: r) = c :: Mode.rest .code r) :
  (p.write c .code).Sound ∧ (p.write c .code).outcome r = p.outcome (c :: r)
  := by
  refine ⟨h.write c fun hliteral => by contradiction, h.outcome_write (.inr ?_) ?_⟩
  · rw [hrest, closesNext, closesNext, Text.trimStart, List.dropWhile_cons_of_pos hblank]
    rfl
  · rw [Mode.finish_of_isOutside (by rw [hmode]; rfl), hrest,
      dropTrailingCommas_other (ne_of_isBlank hblank rfl) (ne_of_isBlank hblank rfl)]
    rfl

/-- A comma is written, and its place is kept. -/
theorem outcome_comma (written : List Char) (r : List Char) :
  outcome ⟨.code, written ++ [','], some (byteLength written)⟩ r
    = some (written ++ dropTrailingCommas (',' :: Mode.rest .code r))
  := by
  rw [outcome, dropTrailingCommas_cons (by decide)]
  cases hcloses : closesNext (Mode.rest .code r) with
  | false =>
    rw [settled_false]
    simp [Mode.finish]
  | true =>
    simp [settled, blankOut_byteLength, Mode.finish]

/-- A character that starts a token settles what the comma before it becomes. -/
theorem Sound.code_token (h : p.Sound) (hmode : p.mode = .code) (hblank : isBlank c = false)
    (hrest : p.mode.rest (c :: r) = c :: Mode.rest (if c == '"' then .literal else .code) r) :
  ∃ q, p.code c = some q ∧ q.Sound ∧ q.outcome r = p.outcome (c :: r)
  := by
  obtain ⟨written, hwritten⟩ := h.exists_settled (c == '\x7d' || c == ']')
  have hcloses : closesNext (p.mode.rest (c :: r)) = (c == '\x7d' || c == ']') := by
    rw [hrest, closesNext, Text.trimStart, List.dropWhile_cons_of_neg (by simp [hblank]),
      Bool.or_comm]
  have houtcome : p.outcome (c :: r) = some (written ++ p.mode.finish (c :: r)) := by
    rw [outcome, hcloses, hwritten]
    rfl
  have hcode : p.code c = some {
      mode := if c == '"' then .literal else .code
      written := written ++ [c]
      comma := if c == ',' then some (byteLength written) else none } := by
    rw [code, hblank, hwritten]
    rfl
  rw [houtcome, Mode.finish_of_isOutside (by rw [hmode]; rfl), hrest]
  by_cases hcomma : c = ','
  · subst hcomma
    refine ⟨_, hcode, ⟨?_, ?_⟩, outcome_comma written r⟩
    · intro n hn
      exact ⟨written, [], rfl, Option.some.inj hn⟩
    · intro hliteral
      contradiction
  · rw [beq_false_of_ne hcomma] at hcode
    refine ⟨_, hcode, ⟨?_, fun _ => rfl⟩, ?_⟩
    · intro n hn
      contradiction
    · rw [outcome_of_none rfl]
      by_cases hquote : c = '"'
      · subst hquote
        simp [Mode.finish, Mode.rest, dropTrailingCommas_quote]
      · rw [dropTrailingCommas_other hquote hcomma, beq_false_of_ne hquote]
        simp [Mode.finish]

theorem Sound.step_code (h : p.Sound) (hmode : p.mode = .code) (hline : ¬ ['/', '/'] <+: c :: r)
    (hblock : ¬ ['/', '*'] <+: c :: r) :
  ∃ q, p.step c = some q ∧ q.Sound ∧ q.outcome r = p.outcome (c :: r)
  := by
  have hrest : p.mode.rest (c :: r) = c :: Mode.rest (if c == '"' then .literal else .code) r := by
    rw [hmode, Mode.rest, dropCommentsAt]
    · split <;> rfl
    · rintro u rfl rfl
      exact hline ⟨u, rfl⟩
    · rintro u rfl rfl
      exact hblock ⟨u, rfl⟩
  rw [step, hmode]
  cases hblank : isBlank c with
  | true =>
    rw [beq_false_of_ne (ne_of_isBlank hblank rfl)] at hrest
    obtain ⟨hsound, houtcome⟩ := h.code_blank hmode hblank hrest
    exact ⟨p.write c .code, by simp [code, hblank], hsound, houtcome⟩
  | false => exact h.code_token hmode hblank hrest

/-- One character is read; what comes of the text stays the same. -/
theorem Sound.step (h : p.Sound)
    (hcode : p.mode = .code → ¬ ['/', '/'] <+: c :: r ∧ ¬ ['/', '*'] <+: c :: r) :
  ∃ q, p.step c = some q ∧ q.Sound ∧ q.outcome r = p.outcome (c :: r)
  := by
  cases hmode : p.mode with
  | code => exact h.step_code hmode (hcode hmode).1 (hcode hmode).2
  | literal => exact h.step_literal hmode
  | escaped => exact h.step_escaped hmode
  | lineComment => exact h.step_lineComment hmode
  | blockComment => exact h.step_blockComment hmode
  | starred => exact h.step_starred hmode

theorem outcome_nil (p : Pass) :
  p.outcome [] = some p.written
  := by
  have hcloses : closesNext (p.mode.rest []) = false := by cases p.mode <;> rfl
  have hfinish : p.mode.finish [] = [] := by cases p.mode <;> rfl
  rw [outcome, hcloses, settled_false, hfinish]
  exact congrArg some (List.append_nil p.written)

/-- A comment begins; the comma before it may still be a trailing one. -/
theorem Sound.enter (h : p.Sound) (hmode : p.mode = .code) {s : List Char} {mode : Mode}
    (houtside : mode.isOutside) (hrest : Mode.rest .code s = mode.rest r) :
  (Pass.mk mode p.written p.comma).Sound
    ∧ (Pass.mk mode p.written p.comma).outcome r = p.outcome s
  := by
  refine ⟨⟨h.comma, fun hliteral => by simp [houtside] at hliteral⟩, ?_⟩
  rw [outcome, outcome, hmode, hrest, Mode.finish_of_isOutside houtside,
    Mode.finish_of_isOutside (show Mode.isOutside .code from rfl), hrest]
  rfl

/-- A pass succeeds, and writes what it comes to write. -/
theorem Sound.run_eq (h : p.Sound) (s : List Char) :
  ∃ written, p.run s = some written ∧ p.outcome s = some written
  := by
  fun_induction run p s with
  | case1 p => exact ⟨p.written, rfl, outcome_nil p⟩
  | case2 p r hmode ih =>
    have hrest : Mode.rest .code ('/' :: '/' :: r) = Mode.rest .lineComment r := by
      rw [Mode.rest, dropCommentsAt]
      rfl
    obtain ⟨hsound, houtcome⟩ := h.enter hmode rfl hrest
    rw [← houtcome]
    exact ih hsound
  | case3 p r hmode ih =>
    have hrest : Mode.rest .code ('/' :: '*' :: r) = Mode.rest .blockComment r := by
      rw [Mode.rest, dropCommentsAt]
      rfl
    obtain ⟨hsound, houtcome⟩ := h.enter hmode rfl hrest
    rw [← houtcome]
    exact ih hsound
  | case4 p c r hline hblock ih =>
    have hcode (hmode : p.mode = .code) : ¬ ['/', '/'] <+: c :: r ∧ ¬ ['/', '*'] <+: c :: r := by
      constructor
      · rintro ⟨u, hu⟩
        obtain ⟨rfl, rfl⟩ := List.cons.inj hu
        exact hline u hmode rfl rfl
      · rintro ⟨u, hu⟩
        obtain ⟨rfl, rfl⟩ := List.cons.inj hu
        exact hblock u hmode rfl rfl
    obtain ⟨q, hq, hsound, houtcome⟩ := h.step hcode
    rw [hq, ← houtcome]
    exact ih q hsound

/-- A pass over a text gives its plain JSON. -/
theorem run_start (s : List Char) :
  start.run s = some (plain s)
  := by
  have hsound : start.Sound := ⟨fun n hn => by contradiction, fun _ => rfl⟩
  obtain ⟨written, hrun, houtcome⟩ := hsound.run_eq s
  rw [hrun, ← houtcome]
  rfl

end Pass

end MojoToolchain.Json
