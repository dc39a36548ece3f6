import MojoToolchain.Shell.Expression
import MojoToolchain.Shell.Utility.Filter

/-!
# Searching

`grep` writes the lines in which one of its expressions finds something, or what it finds there,
how many of them there are, or which files hold any.
-/

namespace MojoToolchain.Shell

/-- What is searched for. -/
structure Search where
  expressions : List Expression
  manner : Manner
  /-- A part counts only when it is a whole line. -/
  whole : Bool
  /-- A part counts only when no character of a word is beside it. -/
  byWords : Bool

namespace Search

/-- A way to describe the front of a text counts. -/
def accepts (x : Search) (before : Option Char) (m : Match) : Bool :=
  (!x.whole || (before.isNone && m.rest.isEmpty))
    && (!x.byWords
      || !((before.any Expression.isWordChar) || m.rest.head?.any Expression.isWordChar))

/-- The longest part at the front of a text, and what is left behind it. -/
def longest? (x : Search) (before : Option Char) (s : Bytes) : Option Match :=
  let ways := x.expressions.flatMap fun e => e.ways e.asksBack x.manner ⟨s, s.length, before, []⟩
  (ways.filter (x.accepts before)).foldl (fun best m =>
    match best with
    | some b => if m.left < b.left then some m else best
    | none => some m) none

/-- The first part that is found: how much stands before it, the part and what is left. -/
def find? (x : Search) (before : Option Char) (s : Bytes) : Option (Nat × Bytes × Match) :=
  match x.longest? before s, s with
  | some m, s => some (0, s.take (s.length - m.left), m)
  | none, [] => none
  | none, c :: r => (find? x (some c) r).map fun (n, part, m) => (n + 1, part, m)

/-- A line holds a part. -/
def holds (x : Search) (row : Bytes) : Bool := (x.find? none row).isSome

/-- All parts of a line that are not empty, with the places where they start. -/
def parts (x : Search) : Nat → Option Char → Nat → Bytes → List (Nat × Bytes)
  | 0, _, _, _ => []
  | bound + 1, before, place, s =>
    match x.find? before s with
    | some (n, part, m) =>
      if part.isEmpty then
        match m.rest with
        | c :: r => parts x bound (some c) (place + n + 1) r
        | [] => []
      else
        (place + n, part) :: parts x bound (part.getLast?) (place + n + part.length) m.rest
    | none => []

end Search

/-! ### Lines -/

/-- A line of a text: its number, the number of bytes before it, and whether it was found. -/
structure Found where
  number : Nat
  offset : Nat
  row : Bytes
  chosen : Bool

/-- The lines of a text, with the numbers of the bytes before them. -/
def placed (choose : Bytes → Bool) : Nat → Nat → List Bytes → List Found
  | _, _, [] => []
  | n, offset, row :: rest =>
    ⟨n, offset, row, choose row⟩ :: placed choose (n + 1) (offset + row.length + 1) rest

/-- At most so many of the lines that were found count, and those behind them are not there. -/
def limited (most : Nat) : List Found → List Found
  | [] => []
  | x :: rest =>
    match most, x.chosen with
    | 0, true => []
    | 0, false => x :: limited 0 rest
    | most + 1, true => x :: limited most rest
    | most + 1, false => x :: limited (most + 1) rest

/-- The lines that were found and so many lines before and behind each. -/
def surroundings (before behind : Nat) (all : List Found) : List Found :=
  let numbers := (all.filter Found.chosen).map Found.number
  all.filter fun x => numbers.any fun n => n ≤ x.number + before && x.number ≤ n + behind

/-- How lines are shown: what may stand in front of them. -/
structure Front where
  file : Option Bytes
  numbers : Bool
  offsets : Bool

/-- What stands in front of a line, each piece with a mark behind it. -/
def Front.text (x : Front) (mark : Char) (number offset : Nat) : Bytes :=
  let piece (wanted : Bool) (text : Bytes) : Bytes := if wanted then text ++ [mark] else []
  piece x.file.isSome (x.file.getD []) ++ piece x.numbers (Nat.toDigits 10 number)
    ++ piece x.offsets (Nat.toDigits 10 offset)

/-- Lines as they are shown, with a mark where lines are left out. -/
def shownLines (front : Front) (gaps : Bool) : Option Nat → List Found → List Bytes
  | _, [] => []
  | last, x :: rest =>
    let gap : List Bytes :=
      if gaps && last.any (· + 1 < x.number) then [['-', '-']] else []
    let mark := if x.chosen then ':' else '-'
    gap ++ (front.text mark x.number x.offset ++ x.row)
      :: shownLines front gaps (some x.number) rest

/-! ### Searching files -/

/-- What is left of a text behind the last line that counts, once there are so many of them. -/
def behindLast (x : Search) (others : Bool) : Nat → List Bytes → Bytes
  | _, [] => []
  | most, row :: rest =>
    let most := if x.holds (bare row) != others then most - 1 else most
    if most == 0 then rest.flatten else behindLast x others most rest

/-- What is written about a text, and whether something was found. -/
def searched (call : Call) (x : Search) (titled : Bool) (file text : Bytes) : List Bytes × Bool :=
  let has := call.has
  let number (letter : Char) : Option Nat := ((call.value? letter).bind numberOf).map Int.toNat
  let title := if file.isEmpty || file == ['-'] then "(standard input)".toList else file
  let all := placed (fun row => x.holds row != has 'v') 1 0 (rowsOf text)
  let cut :=
    match number 'm' with
    | some most => limited most all
    | none => all
  let count := (cut.filter Found.chosen).length
  -- the lines behind the last one that counts are still shown around it
  let kept :=
    if count < (all.filter Found.chosen).length then
      cut ++ (all.drop cut.length).map fun y => { y with chosen := false }
    else cut
  let front : Front := ⟨if titled then some title else none, has 'n', has 'b'⟩
  let around := (number 'C').getD 0
  let before := (number 'B').getD around
  let behind := (number 'A').getD around
  let lines : List Bytes :=
    if has 'q' then []
    else if has 'l' then if 0 < count then [title] else []
    else if has 'L' then if 0 < count then [] else [title]
    else if has 'c' then [(if titled then title ++ [':'] else []) ++ Nat.toDigits 10 count]
    else if 0 < count && text.contains '\x00' && !has 'a' then
      ["grep: ".toList ++ title ++ ": binary file matches".toList]
    else if has 'o' then
      (cut.filter Found.chosen).flatMap fun y =>
        if has 'v' then []
        else
          (x.parts (y.row.length + 1) none 0 y.row).map fun (place, part) =>
            front.text ':' y.number (y.offset + place) ++ part
    else
      shownLines front (0 < before + behind) none (surroundings before behind kept)
  (lines, 0 < count)

/-- The options of `grep`. -/
def searchForms : OptionForms where
  flags := "EFGPivynchoqsxwlLHabrRzUIZTu"
  valued := "efmABCdD"
  names :=
    [("extended-regexp", 'E'), ("fixed-strings", 'F'), ("basic-regexp", 'G'), ("perl-regexp", 'P'),
     ("ignore-case", 'i'), ("invert-match", 'v'), ("line-number", 'n'), ("count", 'c'),
     ("no-filename", 'h'), ("only-matching", 'o'), ("quiet", 'q'), ("silent", 'q'),
     ("no-messages", 's'), ("line-regexp", 'x'), ("word-regexp", 'w'), ("files-with-matches", 'l'),
     ("files-without-match", 'L'), ("with-filename", 'H'), ("text", 'a'), ("byte-offset", 'b'),
     ("regexp", 'e'), ("file", 'f'), ("max-count", 'm'), ("after-context", 'A'),
     ("before-context", 'B'), ("context", 'C'), ("color", 'U'), ("colour", 'U')]

/-- What is written when `grep` does not know what to search for. -/
def searchUsage : String :=
  "Usage: grep [OPTION]... PATTERNS [FILE]...\nTry 'grep --help' for more information."

/-- The patterns that a call names, and the files; or the state at the end when there are none. -/
def patternsOf (call : Call) (s : State) : Except State (List Bytes × List Bytes × State) := do
  let named := call.options.filter fun (c, _) => c == 'e' || c == 'f'
  if named.isEmpty then
    match call.operands with
    | [] => .error (s.fail 2 searchUsage)
    | pattern :: files => .ok (pattern.splitOn '\n', files, s)
  else
    let (patterns, s) ← named.foldlM (fun ((all, s) : List Bytes × State) (letter, value) => do
      if letter == 'e' then .ok (all ++ value.splitOn '\n', s)
      else
        match fileText value s with
        | (.ok text, s) => .ok (all ++ rowsOf text, s)
        | (.error fault, s) => .error (s.report 2 ((Reports.plain 2).wording value fault)))
      (([], s) : List Bytes × State)
    .ok (patterns, call.operands, s)

/-- The expression that a pattern is. -/
def expressionOf (call : Call) (pattern : Bytes) : Except String Expression := do
  let letter := (call.options.filter fun (c, _) => "EFGP".toList.contains c).getLast?.map Prod.fst
  match letter with
  | some 'F' => .ok (pattern.foldr (fun c e => .append (.char c) e) .empty)
  | some 'G' => return (← Expression.parse (Expression.form false) pattern).1
  | some _ => return (← Expression.parse Expression.lenientForm pattern).1
  | none => return (← Expression.parse (Expression.form false) pattern).1

/-- Searches files, or the input. -/
def searchFiles (call : Call) (s : State) : State :=
  match patternsOf call s with
  | .error s => s
  | .ok (patterns, files, s) =>
    match patterns.mapM (expressionOf call) with
    | .error reason => s.report 2 reason
    | .ok expressions =>
      let manner := Expression.manner (call.has 'i' || call.has 'y')
      let x : Search := ⟨expressions, manner, call.has 'x', call.has 'w'⟩
      let titled := call.has 'H' || (1 < files.length && !call.has 'h')
      let wording (file : Bytes) (fault : Host.Fault) : String :=
        String.ofList file ++ ": " ++ reasonOf fault
      let quiet : State := if call.has 's' then s.direct 2 .nowhere else s
      let (any, ran) := foldTexts ⟨2, wording⟩ files (fun any file text ran =>
        let (lines, found) := searched call x titled file text
        let most := ((call.value? 'm').bind numberOf).map Int.toNat
        -- what is not needed of an input that is a file stays there
        let ran :=
          match most, s.rewinds && file == ['-'] with
          | some most, true =>
            { ran with input := behindLast x (call.has 'v') most (linesOf text) }
          | _, _ => ran
        (any || found, emitLines ran lines)) false quiet
      let s := { ran with sinks := s.sinks }
      s.withStatus (if 0 < s.status && !(any && call.has 'q') then 2 else if any then 0 else 1)

/-- A number right behind a hyphen is that of the lines around those that are found. -/
def withContext (args : List Bytes) : List Bytes :=
  args.flatMap fun arg =>
    match arg with
    | '-' :: c :: more =>
      if (c :: more).all Char.isDigit then [['-', 'C'], c :: more] else [arg]
    | arg => [arg]

/-- Writes the lines in which something is found. -/
def grep : Utility := fun args s =>
  match Call.read searchForms (withContext args) with
  | .ok call => searchFiles call s
  | .error reason => s.report 2 (reason ++ "\n" ++ searchUsage)

/-- The utilities that search. -/
def searchUtilities : Utilities :=
  [("grep", grep), ("egrep", fun args => grep (['-', 'E'] :: args)),
   ("fgrep", fun args => grep (['-', 'F'] :: args))]

end MojoToolchain.Shell
