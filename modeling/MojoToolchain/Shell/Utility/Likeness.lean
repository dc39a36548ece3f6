import MojoToolchain.Shell.Utility.Amount
import MojoToolchain.Shell.Utility.Collation
import MojoToolchain.Shell.Utility.Filter

/-!
# Likeness

Utilities that find lines that are alike, in one file or in two, and places where files differ.
-/

namespace MojoToolchain.Shell

/-! ### Lines that repeat -/

/-- Lines in runs of those that are like the first of them. -/
def runsOf (same : Bytes → Bytes → Bool) : List Bytes → List (List Bytes)
  | [] => []
  | row :: rest => (row :: rest.takeWhile (same row)) :: runsOf same (rest.dropWhile (same row))
termination_by rows => rows.length
decreasing_by
  have := (List.dropWhile_suffix (same row) (l := rest)).length_le
  simp only [List.length_cons]
  omega

/-- Where empty lines stand between groups of lines. -/
inductive Separation where
  | never
  | before
  | behind
  | between
  | around

/-- The separation of a word. -/
def Separation.ofWord : String → Separation
  | "prepend" => .before
  | "append" => .behind
  | "separate" => .between
  | "both" => .around
  | _ => .never

/-- Groups of lines with empty lines where they are asked for. -/
def Separation.apply (x : Separation) (groups : List (List Bytes)) : List Bytes :=
  match x with
  | .never => groups.flatten
  | .before => groups.flatMap fun group => [] :: group
  | .behind => groups.flatMap fun group => group ++ [[]]
  | .between => [[]].intercalate groups
  | .around => if groups.isEmpty then [] else groups.flatMap (fun group => [] :: group) ++ [[]]

/-- What is written of the runs of lines. -/
structure Repeats where
  /-- All lines, in groups. -/
  grouped : Option Separation
  /-- All lines that repeat, in groups. -/
  repeated : Option Separation
  counted : Bool
  /-- Lines that do not repeat are written. -/
  single : Bool
  /-- One of the lines that repeat is written. -/
  double : Bool

/-- What is written of runs of lines. -/
def Repeats.apply (x : Repeats) (runs : List (List Bytes)) : List Bytes :=
  match x.grouped, x.repeated with
  | some separation, _ => separation.apply runs
  | none, some separation =>
    let groups := runs.filter fun run => 1 < run.length
    separation.apply (if x.double then groups else groups.map List.dropLast)
  | none, none =>
    let kept := runs.filter fun run => if 1 < run.length then x.double else x.single
    kept.map fun run =>
      let row := run.headD []
      if x.counted then filled 7 (Nat.toDigits 10 run.length) ++ ' ' :: row else row

/-- What a call asks for; an error says how it goes on and what is wrong. -/
def Repeats.ofCall (call : Call) : Except (Bool × String) Repeats := do
  let separation (letter : Char) (option : String) (words : List String) (other : Separation) :
      Except (Bool × String) (Option Separation) :=
    match call.value? letter with
    | none => .ok none
    | some [] => .ok (some other)
    | some value =>
      ((choose option words value).mapError (true, ·)).map fun word =>
        some (Separation.ofWord word)
  let repeated ← separation 'D' "--all-repeated" ["none", "prepend", "separate"] .never
  let grouped ← separation 'γ' "--group" ["prepend", "append", "separate", "both"] .between
  if grouped.isSome && (call.last? "cdDu").isSome then
    .error (true, "--group is mutually exclusive with -c/-d/-D/-u")
  if call.has 'c' && repeated.isSome then
    .error (true, "printing all duplicated lines and repeat counts is meaningless")
  return ⟨grouped, repeated, call.has 'c', !(call.has 'd' || call.has 'D'), !call.has 'u'⟩

/-- The number of an option, or zero; a number that is too large stands for all there is. -/
def countOf (call : Call) (letter : Char) (what : String) : Except (Bool × String) (Option Nat) :=
  match call.value? letter with
  | none => .ok none
  | some text =>
    match Amount.natural? "" text with
    | some n => .ok (some n)
    | none => .error (false, String.ofList text ++ ": invalid number of " ++ what)

/-- What of a line is compared. -/
def comparedOf (call : Call) : Except (Bool × String) (Bytes → Bytes) := do
  let fields ← countOf call 'f' "fields to skip"
  let skipped ← countOf call 's' "bytes to skip"
  let width ← countOf call 'w' "bytes to compare"
  return fun row =>
    let row := withoutFields (min (fields.getD 0) row.length) row
    let row := row.drop (skipped.getD 0)
    let row := width.elim row row.take
    if call.has 'i' then row.map Char.toLower else row
where
  /-- A line without its first fields. -/
  withoutFields : Nat → Bytes → Bytes
    | 0, row => row
    | n + 1, row => withoutFields n ((withoutGap row).dropWhile fun c => !isFieldGap c)

/-- Arguments of the old kind, `-1` and `+1`, in the new one. -/
def withCounts : List Bytes → List Bytes
  | [] => []
  | ['-', letter] :: value :: rest =>
    if ['f', 's', 'w'].contains letter then ['-', letter] :: value :: withCounts rest
    else inNewWay ['-', letter] :: withCounts (value :: rest)
  | arg :: rest => inNewWay arg :: withCounts rest
where
  /-- An argument that is a number as an option. -/
  inNewWay : Bytes → Bytes
    | '-' :: c :: more =>
      if (c :: more).all Char.isDigit then '-' :: 'f' :: c :: more else '-' :: c :: more
    | '+' :: c :: more =>
      if (c :: more).all Char.isDigit then '-' :: 's' :: c :: more else '+' :: c :: more
    | arg => arg

/-- Writes one of equal lines that follow one another, or what else is asked for. -/
def uniq : Utility := fun args =>
  withOptions 1
    { flags := "cduiz"
      valued := "fsw"
      names := [("count", 'c'), ("repeated", 'd'), ("all-repeated", 'D'), ("unique", 'u'),
        ("group", 'γ'), ("ignore-case", 'i'), ("skip-fields", 'f'), ("skip-chars", 's'),
        ("check-chars", 'w'), ("zero-terminated", 'z')]
      loose := "Dγ" }
    (atMost 2 1 fun call s =>
      let asked : Except (Bool × String) ((Bytes → Bytes) × Repeats) := do
        let compared ← comparedOf call
        return (compared, ← Repeats.ofCall call)
      match asked with
      | .error (true, reason) => misused 1 reason s
      | .error (false, reason) => s.report 1 reason
      | .ok (compared, x) =>
        let file := call.operands.headD ['-']
        let written (s : State) (rows : List Bytes) : State :=
          match call.operands.drop 1 with
          | [] => emitRows call.endMark s rows
          | target :: _ =>
            if target == ['-'] then emitRows call.endMark s rows
            else
              match saveText target (rows.flatMap (· ++ [call.endMark])) false s with
              | .ok s => s
              | .error fault => s.report 1 (Quoting.asNeeded target ++ ": " ++ reasonOf fault)
        match fileText file s with
        | (.error .isDirectory, s) =>
          s.report 1 ("error reading " ++ Quoting.always file ++ ": Is a directory")
        | (.error fault, s) => s.report 1 (Quoting.asNeeded file ++ ": " ++ reasonOf fault)
        | (.ok text, s) =>
          let rows := rowsBy call.endMark text
          let runs := runsOf (fun a b => compared a == compared b) rows
          written (s.withStatus 0) (x.apply runs))
    (withCounts args)

/-! ### Lines of two files -/

/-- Where a comparison of two files has come to. -/
structure Comparison where
  /-- The lines with their columns, from the last one on. -/
  rows : List (Nat × Bytes)
  /-- There was a line that only one file has. -/
  unpaired : Bool
  /-- The files that are not in order. -/
  disordered : List Nat

namespace Comparison

/-- The order of two lines of a file that follow one another is looked at. -/
def look (checks : Bool) (file : Nat) (last next : Bytes) (x : Comparison) : Comparison :=
  if (checks || x.unpaired) && compare last next == .gt && !x.disordered.contains file then
    { x with disordered := x.disordered ++ [file] }
  else x

/-- A file steps from a line to the next; at its end the last two lines are looked at again. -/
def step (checks : Bool) (file : Nat) (before : Option Bytes) (row : Bytes) (rest : List Bytes)
    (x : Comparison) : Comparison :=
  match rest, before with
  | next :: _, _ => x.look checks file row next
  | [], some last => x.look checks file last row
  | [], none => x

/-- Compares the lines of two files that are in order. -/
def run (checks : Bool) : Nat → Option Bytes → Option Bytes → List Bytes → List Bytes →
    Comparison → Comparison
  | 0, _, _, _, _, x => x
  | _ + 1, _, _, [], [], x => x
  | bound + 1, p, q, a, b, x =>
    if checks && !x.disordered.isEmpty then x else
    let order : Ordering :=
      match a, b with
      | y :: _, z :: _ => compare y z
      | [], _ => .gt
      | _, [] => .lt
    match order, a, b with
    | .lt, y :: a, b =>
      let x := { x with rows := (1, y) :: x.rows, unpaired := true }
      run checks bound (some y) q a b (x.step checks 1 p y a)
    | .gt, a, z :: b =>
      let x := { x with rows := (2, z) :: x.rows, unpaired := true }
      run checks bound p (some z) a b (x.step checks 2 q z b)
    | _, y :: a, z :: b =>
      let x := { x with rows := (3, z) :: x.rows }
      run checks bound (some y) (some z) a b ((x.step checks 1 p y a).step checks 2 q z b)
    | _, _, _ => x

end Comparison

/-- The lines with their columns that are written, each behind marks for the columns before. -/
def inColumns (call : Call) (mark : Bytes) (rows : List (Nat × Bytes)) : List Bytes :=
  let isShown (column : Nat) : Bool := !call.has (Char.ofNat (48 + column))
  rows.filterMap fun (column, row) =>
    if !isShown column then none
    else
      let before := ((List.range (column - 1)).filter fun i => isShown (i + 1)).length
      some ((List.replicate before mark).flatten ++ row)

/-- The counts of lines in each column. -/
def totalRow (mark : Bytes) (rows : List (Nat × Bytes)) : Bytes :=
  let count (column : Nat) : Bytes :=
    Nat.toDigits 10 (rows.filter fun (c, _) => c == column).length
  mark.intercalate [count 1, count 2, count 3, "total".toList]

/-- Writes what two texts have in common, and complains of texts that are not in order. -/
def writeCommon (call : Call) (mark : Bytes) (a b : Bytes) (s : State) : State :=
  let rowsOfText := rowsBy call.endMark
  let a := rowsOfText a
  let b := rowsOfText b
  let checks := call.has 'ξ'
  let x := Comparison.run checks (a.length + b.length + 1) none none a b ⟨[], false, []⟩
  let rows := x.rows.reverse
  let disordered := if call.has 'ν' && !checks then [] else x.disordered
  let written := inColumns call mark rows
  let written := if call.has 'τ' then written ++ [totalRow mark rows] else written
  let complain (s : State) (file : Nat) : State :=
    s.report 1 ("file " ++ toString file ++ " is not in sorted order")
  let s := emitRows call.endMark (s.withStatus 0) written
  if disordered.isEmpty then s
  else if checks then complain s (disordered.headD 1)
  else (disordered.foldl complain s).report 1 "input is not in sorted order"

/-- Writes which lines two files that are in order have in common. -/
def comm : Utility :=
  withOptions 1
    { flags := "123zξντ"
      valued := "ο"
      names := [("check-order", 'ξ'), ("nocheck-order", 'ν'), ("output-delimiter", 'ο'),
        ("total", 'τ'), ("zero-terminated", 'z')] } fun call s =>
    let fails (file : Bytes) (fault : Host.Fault) (s : State) : State :=
      s.report 1 (Quoting.asNeeded file ++ ": " ++ reasonOf fault)
    let marks := (call.options.filter (·.1 == 'ο')).map Prod.snd
    let mark := marks.headD ['\t']
    if marks.any (· != mark) then s.report 1 "multiple output delimiters specified"
    else
      match call.operands with
      | [] => misused 1 "missing operand" s
      | [file] => misused 1 ("missing operand after " ++ Quoting.plain file) s
      | _ :: _ :: extra :: _ => misused 1 ("extra operand " ++ Quoting.plain extra) s
      | [a, b] =>
        match fileText a s with
        | (.error fault, s) => fails a fault s
        | (.ok first, s) =>
          match fileText b s with
          | (.error fault, s) => fails b fault s
          | (.ok second, s) =>
            writeCommon call (if mark.isEmpty then ['\x00'] else mark) first second s

/-! ### Where files differ -/

/-- What is left out in front of files, and how much is compared. -/
structure Window where
  first : Nat
  second : Nat
  limit : Option Nat

namespace Window

/-- The number that an option or an operand writes. -/
def number (name : String) (text : Bytes) : Except String Nat :=
  match Amount.natural? ('B' :: 'D' :: Amount.sizeLetters.toList |> String.ofList) text with
  | some n => .ok n
  | none => .error ("invalid --" ++ name ++ " value " ++ Quoting.plain text)

/-- The window that a call asks for. -/
def ofCall (call : Call) : Except String Window := do
  let skips ← (call.options.filter (·.1 == 'i')).mapM fun (_, text) => do
    let first := text.takeWhile (· != ':')
    let n ← (number "ignore-initial" first).mapError fun _ =>
      "invalid --ignore-initial value " ++ Quoting.plain text
    if first.length < text.length then
      let m ← (number "ignore-initial" (text.drop (first.length + 1))).mapError fun _ =>
        "invalid --ignore-initial value " ++ Quoting.plain text
      return (n, m)
    else return (n, n)
  let limits ← (call.options.filter (·.1 == 'n')).mapM fun (_, text) => number "bytes" text
  let ofOperand (place : Nat) (other : Nat) : Except String Nat :=
    match call.operands[place]? with
    | some text => number "ignore-initial" text
    | none => .ok other
  let (first, second) := skips.getLastD (0, 0)
  return ⟨← ofOperand 2 first, ← ofOperand 3 second, limits.foldl (fun least n =>
    some (least.elim n (min n))) none⟩

/-- What of a text is compared. -/
def part (skipped : Nat) (x : Window) (text : Bytes) : Bytes :=
  let text := text.drop skipped
  x.limit.elim text text.take

end Window

/-- A byte that can be seen, also when it ends a line. -/
def signOf (c : Char) : Bytes :=
  if c == '\n' || c == '\t' then ['^', Char.ofNat (c.toNat + 64)] else Marks.visible c

/-- A byte as octal digits. -/
def octalOf (c : Char) : Bytes := Nat.toDigits 8 c.toNat

/-- What is said when one of two texts is the front of the other. -/
def endsEarly (call : Call) (file text : Bytes) : Bytes :=
  let size := (toString text.length).toList
  let lines := text.count '\n'
  if text.isEmpty then "EOF on ".toList ++ file ++ " which is empty".toList
  else
    let front := "EOF on ".toList ++ file ++ " after byte ".toList ++ size
    if call.has 'l' then front
    else if text.getLast? == some '\n' then front ++ ", line ".toList ++ (toString lines).toList
    else front ++ ", in line ".toList ++ (toString (lines + 1)).toList

/-- What is said of the first place where two texts differ. -/
def firstDifference (call : Call) (a b : Bytes) (common : Bytes) (c d : Char) : Bytes :=
  let place := Nat.toDigits 10 (common.length + 1)
  let row := Nat.toDigits 10 (common.count '\n' + 1)
  let word := if call.has 'b' then " differ: byte ".toList else " differ: char ".toList
  let front := a ++ ' ' :: b ++ word ++ place ++ ", line ".toList ++ row
  if call.has 'b' then
    front ++ " is ".toList ++ filled 3 (octalOf c) ++ ' ' :: signOf c ++ ' ' ::
      filled 3 (octalOf d) ++ ' ' :: signOf d
  else front

/-- All places where two texts differ, as far as both go. -/
def allDifferences (call : Call) (x y : Bytes) : List Bytes :=
  let pairs := (x.zip y).zipIdx
  let width := (Nat.toDigits 10 (min x.length y.length)).length
  pairs.filterMap fun ((c, d), i) =>
    if c == d then none
    else
      let place := filled width (Nat.toDigits 10 (i + 1))
      let first := filled 3 (octalOf c)
      let second := filled 3 (octalOf d)
      some <|
        if call.has 'b' then
          let shown := signOf c
          place ++ ' ' :: first ++ ' ' :: shown ++ List.replicate (4 - shown.length) ' '
            ++ ' ' :: second ++ ' ' :: signOf d
        else place ++ ' ' :: first ++ ' ' :: second

/-- Says where two texts differ. -/
def writeDifference (call : Call) (a b x y : Bytes) (s : State) : State :=
  let same := ((x.zip y).takeWhile fun (c, d) => c == d).length
  let common := x.take same
  if x == y then s.withStatus 0
  else if call.has 's' then s.withStatus 1
  else
    let short := min x.length y.length
    let ended (s : State) : State :=
      if x.length == y.length then s
      else
        let (file, text) := if x.length < y.length then (a, x) else (b, y)
        s.report 1 (String.ofList (endsEarly call file text))
    if call.has 'l' then ended ((emitLines s (allDifferences call x y)).withStatus 1)
    else if same == short then ended s
    else
      match x.drop same, y.drop same with
      | c :: _, d :: _ => (emitLines s [firstDifference call a b common c d]).withStatus 1
      | _, _ => s

/-- Says where two files differ first. -/
def cmp : Utility := fun args s =>
  let wrong (reason : String) (s : State) : State :=
    (s.report 2 reason).report 2 ("Try '" ++ s.program ++ " --help' for more information.")
  let forms : OptionForms :=
    { flags := "bls"
      valued := "in"
      names := [("print-bytes", 'b'), ("verbose", 'l'), ("silent", 's'), ("quiet", 's'),
        ("ignore-initial", 'i'), ("bytes", 'n')] }
  match Call.read forms args with
  | .error reason => wrong reason s
  | .ok call =>
    match Window.ofCall call, call.operands with
    | .error reason, _ => wrong reason s
    | .ok window, a :: more =>
      let b := more.headD ['-']
      if call.has 'l' && call.has 's' then wrong "options -l and -s are incompatible" s
      else
        match more.drop 3 with
        | extra :: _ => wrong ("extra operand " ++ Quoting.plain extra) s
        | [] =>
          let fails (file : Bytes) (fault : Host.Fault) (s : State) : State :=
            if call.has 's' then s.withStatus 2
            else s.report 2 (String.ofList file ++ ": " ++ reasonOf fault)
          match fileText a s with
          | (.error fault, s) => fails a fault s
          | (.ok x, s) =>
            match fileText b s with
            | (.error fault, s) => fails b fault s
            | (.ok y, s) =>
              writeDifference call a b (Window.part window.first window x)
                (Window.part window.second window y) s
    | .ok _, [] => wrong "missing operand after 'cmp'" s

/-- The utilities that find what is alike. -/
def likenessUtilities : Utilities := [("uniq", uniq), ("comm", comm), ("cmp", cmp)]

end MojoToolchain.Shell
