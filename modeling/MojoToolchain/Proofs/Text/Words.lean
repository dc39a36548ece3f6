import Mathlib.Data.List.Basic
import MojoToolchain.Text.Words

/-!
# Words that a shell reads

`Words.split` takes a text apart as a POSIX shell takes the arguments of a command apart, and
fails where the shell would do more than that: where a quote is not closed, where something is to
be substituted or matched against files, and where the command ends.  Quoted words are read back
(`Words.split_join`).
-/

namespace MojoToolchain.Words

/-! ### Reading words -/

/-- What the next character is part of. -/
inductive Mode where
  /-- Nothing is quoted. -/
  | bare
  /-- After a backslash that is not quoted. -/
  | escape
  /-- Between `'` and `'`. -/
  | single
  /-- Between `"` and `"`. -/
  | double
  /-- After a backslash between `"` and `"`. -/
  | doubleEscape
  | comment
  deriving DecidableEq, Repr

/-- What has been read of a text. -/
structure Reading where
  /-- The words that have ended. -/
  words : List (List Char)
  /-- The word that has not ended, if there is one. -/
  word : Option (List Char)
  mode : Mode

namespace Reading

/-- Nothing has been read. -/
def start : Reading := ⟨[], none, .bare⟩

/-- The word goes on with some characters. -/
def push (cs : List Char) (mode : Mode) (r : Reading) : Reading :=
  { r with word := some (r.word.getD [] ++ cs), mode := mode }

/-- The word ends, if there is one. -/
def close (r : Reading) : Reading := { r with words := r.words ++ r.word.toList, word := none }

/-- The characters that a shell acts upon where nothing is quoted. -/
def active : List Char :=
  ['\n', '|', '&', ';', '<', '>', '(', ')', '$', '`', '*', '?', '[']

/-- The characters that a backslash quotes between `"` and `"`. -/
def escapable : List Char := ['$', '`', '"', '\\']

/-- Reads a character where nothing is quoted.  A comment starts only where no word has started,
and so does a home directory. -/
def stepBare (r : Reading) (c : Char) : Option Reading :=
  if c = ' ' ∨ c = '\t' then some r.close
  else if c = '\'' then some (r.push [] .single)
  else if c = '"' then some (r.push [] .double)
  else if c = '\\' then some { r with mode := .escape }
  else if r.word = none ∧ c = '#' then some { r with mode := .comment }
  else if r.word = none ∧ c = '~' then none
  else if c ∈ active then none
  else some (r.push [c] .bare)

/-- Reads a character. -/
def step (r : Reading) (c : Char) : Option Reading :=
  match r.mode with
  | .bare => r.stepBare c
  | .escape => if c = '\n' then some { r with mode := .bare } else some (r.push [c] .bare)
  | .single => if c = '\'' then some { r with mode := .bare } else some (r.push [c] .single)
  | .double =>
    if c = '"' then some { r with mode := .bare }
    else if c = '\\' then some { r with mode := .doubleEscape }
    else if c = '$' ∨ c = '`' then none
    else some (r.push [c] .double)
  | .doubleEscape =>
    if c = '\n' then some { r with mode := .double }
    else if c ∈ escapable then some (r.push [c] .double)
    else some (r.push ['\\', c] .double)
  | .comment => if c = '\n' then none else some r

/-- Reads a text. -/
def run (r : Reading) (text : List Char) : Option Reading := text.foldlM step r

/-- The words when the text ends. -/
def finish (r : Reading) : Option (List (List Char)) :=
  if r.mode = .bare ∨ r.mode = .comment then some r.close.words else none

end Reading

/-- The words of a text. -/
def split (text : String) : Option (List String) :=
  ((Reading.start.run text.toList).bind Reading.finish).map (List.map String.ofList)

/-! ### Chunks -/

/-- A character that is written in a style is read back. -/
def Style.Keeps : Style → Char → Prop
  | plain, c => isPlain c = true
  | single, c => c ≠ '\''
  | double, _ => True

theorem Style.keeps_of_admits {style : Style} {c : Char} (h : style.admits c = true) :
  style.Keeps c
  := by
  cases style with
  | plain => exact h
  | single =>
    rintro rfl
    cases h
  | double => trivial

/-- The styles that are left admit the whole chunk. -/
theorem admits_of_mem_takeChunk {styles : List Style} {s : List Char} {style : Style}
    (h : style ∈ (takeChunk styles s).2.1) :
  style ∈ styles ∧ ∀ c ∈ (takeChunk styles s).1, style.admits c = true
  := by
  fun_induction takeChunk styles s with
  | case1 styles => exact ⟨h, by simp⟩
  | case2 styles c r hnone => exact ⟨h, by simp⟩
  | case3 styles c r chunk last rest hleft htake ih =>
    rw [htake] at ih
    obtain ⟨hstyle, hchunk⟩ := ih h
    obtain ⟨hstyle, hc⟩ := List.mem_filter.mp hstyle
    exact ⟨hstyle, List.forall_mem_cons.mpr ⟨hc, hchunk⟩⟩

/-- Some style is left. -/
theorem takeChunk_ne_nil {styles : List Style} (s : List Char) (h : styles ≠ []) :
  (takeChunk styles s).2.1 ≠ []
  := by
  fun_induction takeChunk styles s with
  | case1 styles => exact h
  | case2 styles c r hnone => exact h
  | case3 styles c r chunk last rest hleft htake ih =>
    rw [htake] at ih
    exact ih hleft

theorem stylesFor_ne_nil (c : Char) :
  stylesFor c ≠ []
  := by
  unfold stylesFor
  split
  case isTrue => simp
  case isFalse h =>
    -- Every character but `^` can stand between quotes of one kind or the other.
    have hadmits : Style.single.admits c = true ∨ Style.double.admits c = true := by
      by_cases hquote : c = '\'' ∨ c = '\\'
      · right
        rcases hquote with rfl | rfl <;> rfl
      · left
        obtain ⟨hquote, hbackslash⟩ := not_or.mp hquote
        have hne : c ≠ '^' := by simpa using h
        simp [Style.admits, hquote, hbackslash, hne]
    intro hnil
    have hnone := List.filter_eq_nil_iff.mp hnil
    rcases hadmits with hsingle | hdouble
    · exact hnone .single (by decide) hsingle
    · exact hnone .double (by decide) hdouble

theorem keeps_of_mem_stylesFor {c : Char} {style : Style} (h : style ∈ stylesFor c) :
  style.Keeps c
  := by
  unfold stylesFor at h
  split at h
  case isTrue hc =>
    obtain rfl := List.mem_singleton.mp h
    obtain rfl := eq_of_beq hc
    exact fun h => absurd h (by decide)
  case isFalse => exact Style.keeps_of_admits (List.mem_filter.mp h).2

/-- A chunk is not empty, and its style keeps its characters. -/
theorem keeps_of_mem_chunks {s : List Char} {style : Style} {chunk : List Char}
    (h : (style, chunk) ∈ chunks s) :
  chunk ≠ [] ∧ ∀ c ∈ chunk, style.Keeps c
  := by
  fun_induction chunks s with
  | case1 => cases h
  | case2 c r taken _ ih =>
    rcases List.mem_cons.mp h with heq | h
    · obtain ⟨rfl, rfl⟩ := Prod.mk.inj heq
      have hmem : taken.2.1.headD .double ∈ taken.2.1 := by
        cases hstyles : taken.2.1 with
        | nil => exact absurd hstyles (takeChunk_ne_nil r (stylesFor_ne_nil c))
        | cons style rest => exact List.mem_cons_self
      obtain ⟨hstyle, hchunk⟩ := admits_of_mem_takeChunk hmem
      refine ⟨by simp, List.forall_mem_cons.mpr ⟨keeps_of_mem_stylesFor hstyle, fun d hd => ?_⟩⟩
      exact Style.keeps_of_admits (hchunk d hd)
    · exact ih h

namespace Reading

open Style (isPlain)

variable {words : List (List Char)} {word : List Char} {chunk : List Char}

theorem run_append (r : Reading) (s t : List Char) :
  r.run (s ++ t) = (r.run s).bind fun r' => r'.run t
  := List.foldlM_append

theorem run_cons (r : Reading) (c : Char) (s : List Char) :
  r.run (c :: s) = (r.step c).bind fun r' => r'.run s
  := List.foldlM_cons

/-! ### Quoted words -/

/-- A character that needs no quoting is none that a shell acts upon. -/
theorem not_mem_of_isPlain {c : Char} (h : isPlain c = true) :
  c ∉ ' ' :: '\t' :: '\'' :: '"' :: '\\' :: '#' :: '~' :: active
  := by
  intro hc
  have hall : (' ' :: '\t' :: '\'' :: '"' :: '\\' :: '#' :: '~' :: active).all
      (fun c => !isPlain c) = true := by
    decide
  simpa [h] using List.all_eq_true.mp hall c hc

theorem stepBare_plain {c : Char} (h : isPlain c = true) (r : Reading) :
  r.stepBare c = some (r.push [c] .bare)
  := by
  have hc := not_mem_of_isPlain h
  simp only [List.mem_cons, not_or] at hc
  simp [stepBare, hc]

theorem run_plain (h : ∀ c ∈ chunk, isPlain c = true) :
  run ⟨words, some word, .bare⟩ chunk = some ⟨words, some (word ++ chunk), .bare⟩
  := by
  induction chunk generalizing word with
  | nil => simp [run]
  | cons c rest ih =>
    obtain ⟨hc, hrest⟩ := List.forall_mem_cons.mp h
    have hstep : step ⟨words, some word, .bare⟩ c = some ⟨words, some (word ++ [c]), .bare⟩ :=
      stepBare_plain hc _
    rw [run_cons, hstep, Option.bind_some, ih hrest, List.append_assoc]
    rfl

theorem run_single (h : ∀ c ∈ chunk, c ≠ '\'') :
  run ⟨words, some word, .single⟩ chunk = some ⟨words, some (word ++ chunk), .single⟩
  := by
  induction chunk generalizing word with
  | nil => simp [run]
  | cons c rest ih =>
    obtain ⟨hc, hrest⟩ := List.forall_mem_cons.mp h
    have hstep : step ⟨words, some word, .single⟩ c = some ⟨words, some (word ++ [c]), .single⟩ := by
      simp [step, hc, push]
    rw [run_cons, hstep, Option.bind_some, ih hrest, List.append_assoc]
    rfl

/-- Between `"` and `"`, a character with its backslash is read back. -/
theorem run_escape (c : Char) :
  run ⟨words, some word, .double⟩ (Style.escape c) = some ⟨words, some (word ++ [c]), .double⟩
  := by
  unfold Style.escape
  split
  case isTrue h =>
    have hc : c ∈ escapable := by simpa [escapable] using h
    have hnewline : c ≠ '\n' := by
      rintro rfl
      exact absurd hc (by decide)
    simp [run, step, push, hnewline, hc]
  case isFalse h =>
    have hc : c ≠ '$' ∧ c ≠ '`' ∧ c ≠ '"' ∧ c ≠ '\\' := by simpa using h
    simp [run, step, push, hc]

theorem run_double (chunk : List Char) :
  run ⟨words, some word, .double⟩ (chunk.flatMap Style.escape)
    = some ⟨words, some (word ++ chunk), .double⟩
  := by
  induction chunk generalizing word with
  | nil => simp [run]
  | cons c rest ih =>
    rw [List.flatMap_cons, run_append, run_escape, Option.bind_some, ih, List.append_assoc]
    rfl

/-- A chunk is read as its characters, also where a word starts. -/
theorem run_write {style : Style} (hne : chunk ≠ []) (hkeeps : ∀ c ∈ chunk, style.Keeps c)
    (word : Option (List Char)) :
  run ⟨words, word, .bare⟩ (style.write chunk)
    = some ⟨words, some (word.getD [] ++ chunk), .bare⟩
  := by
  cases style with
  | plain =>
    obtain ⟨c, rest, rfl⟩ := List.exists_cons_of_ne_nil hne
    obtain ⟨hc, hrest⟩ := List.forall_mem_cons.mp hkeeps
    have hstep : step ⟨words, word, .bare⟩ c
        = some ⟨words, some (word.getD [] ++ [c]), .bare⟩ := stepBare_plain hc _
    rw [Style.write, run_cons, hstep, Option.bind_some, run_plain hrest, List.append_assoc]
    rfl
  | single =>
    have hopen : step ⟨words, word, .bare⟩ '\'' = some ⟨words, some (word.getD []), .single⟩ := by
      simp [step, stepBare, push]
    rw [Style.write, List.cons_append, run_cons, hopen, Option.bind_some, run_append,
      run_single hkeeps]
    rfl
  | double =>
    have hopen : step ⟨words, word, .bare⟩ '"' = some ⟨words, some (word.getD []), .double⟩ := by
      simp [step, stepBare, push]
    rw [Style.write, List.cons_append, run_cons, hopen, Option.bind_some, run_append, run_double]
    rfl

/-- Chunks are read as the word that they make up. -/
theorem run_chunks {chunks : List (Style × List Char)} (hne : chunks ≠ [])
    (hkeeps : ∀ chunk ∈ chunks, chunk.2 ≠ [] ∧ ∀ c ∈ chunk.2, chunk.1.Keeps c)
    (word : Option (List Char)) :
  run ⟨words, word, .bare⟩ (chunks.flatMap fun (style, chunk) => style.write chunk)
    = some ⟨words, some (word.getD [] ++ chunks.flatMap Prod.snd), .bare⟩
  := by
  induction chunks generalizing word with
  | nil => contradiction
  | cons chunk rest ih =>
    obtain ⟨⟨hne', hchunk⟩, hrest⟩ := List.forall_mem_cons.mp hkeeps
    rw [List.flatMap_cons, run_append, run_write hne' hchunk, Option.bind_some, List.flatMap_cons]
    cases rest with
    | nil => simp [run]
    | cons next others =>
      rw [ih (List.cons_ne_nil _ _) hrest, ← List.append_assoc]
      rfl

/-- A quoted word is read back. -/
theorem run_quote (words : List (List Char)) (word : List Char) :
  run ⟨words, none, .bare⟩ (quote word) = some ⟨words, some word, .bare⟩
  := by
  cases word with
  | nil => simp [quote, run, step, stepBare, push]
  | cons c rest =>
    have hne : chunks (c :: rest) ≠ [] := by
      intro hnil
      have hflat := flatMap_chunks (c :: rest)
      rw [hnil] at hflat
      cases hflat
    rw [quote, run_chunks hne (fun chunk hchunk => keeps_of_mem_chunks hchunk), flatMap_chunks]
    · rfl
    · simp

/-- Quoted words with spaces between are read back. -/
theorem run_intercalate (words : List (List Char)) (word : List Char) (rest : List (List Char)) :
  (run ⟨words, none, .bare⟩ ([' '].intercalate ((word :: rest).map quote))).bind finish
    = some (words ++ word :: rest)
  := by
  induction rest generalizing words word with
  | nil =>
    rw [List.map_singleton, List.intercalate_singleton, run_quote]
    rfl
  | cons next rest ih =>
    have hspace : step ⟨words, some word, .bare⟩ ' ' = some ⟨words ++ [word], none, .bare⟩ := by
      simp [step, stepBare, close]
    rw [List.map_cons, List.map_cons, List.intercalate_cons_cons, List.append_assoc, run_append,
      run_quote, Option.bind_some, List.singleton_append, run_cons, hspace, Option.bind_some,
      ← List.map_cons, ih, List.append_assoc]
    rfl

end Reading

/-- Words that are joined to a text are read back from it. -/
theorem split_join {words : List String} {text : String} (h : join words = .ok text) :
  split text = some words
  := by
  unfold join at h
  split at h
  case h_1 => cases h
  case h_2 =>
    cases h
    cases words with
    | nil => rfl
    | cons word rest =>
      have hread := Reading.run_intercalate [] word.toList (rest.map String.toList)
      rw [← List.map_cons, List.map_map] at hread
      have hquote : String.toList ∘ (fun w : String => String.ofList (quote w.toList))
          = quote ∘ String.toList := funext fun _ => String.toList_ofList
      have hword : String.ofList ∘ String.toList = id := funext fun _ => String.ofList_toList
      rw [split, String.toList_intercalate, List.map_map, hquote]
      refine (congrArg (Option.map (List.map String.ofList)) hread).trans ?_
      rw [Option.map_some, List.nil_append, List.map_map, hword, List.map_id]

/-- Quotes of two kinds side by side make one word, and what follows `#` is a comment. -/
example : split "mojo 'b c'\"d\" # e" = some ["mojo", "b cd"] := by decide

end MojoToolchain.Words
