import MojoToolchain.Shell.Quoting
import MojoToolchain.Shell.System

/-!
# Utilities

A `Utility` takes its arguments and a state, reads the input of the state, writes to its streams
and sets the exit code.  `Call.read` reads options from arguments, and `foldTexts` goes through
the texts of files.
-/

namespace MojoToolchain.Shell

open Host (Fault)

/-- What a utility does. -/
abbrev Utility := List Bytes → State → State

/-- The utilities of names. -/
abbrev Utilities := List (String × Utility)

/-- The number that an argument stands for. -/
def numberOf (arg : Bytes) : Option Int := (String.ofList arg).toInt?

/-- The natural number that digits write. -/
def naturalOf (arg : Bytes) : Option Nat :=
  if arg.isEmpty || !arg.all Char.isDigit then none
  else some (arg.foldl (fun n c => 10 * n + (c.toNat - 48)) 0)

/-! ### Lines -/

/-- The lines of a text, each with the mark at its end. -/
def linesBy (mark : Char) : Bytes → List Bytes
  | [] => []
  | c :: r =>
    if c == mark then [c] :: linesBy mark r
    else
      match linesBy mark r with
      | [] => [[c]]
      | line :: more => (c :: line) :: more

/-- The lines of a text, each with its line feed. -/
def linesOf (text : Bytes) : List Bytes := linesBy '\n' text

/-- A line without its line feed. -/
def bare (line : Bytes) : Bytes := line.takeWhile (· != '\n')

/-- The lines of a text without the marks at their ends. -/
def rowsBy (mark : Char) (text : Bytes) : List Bytes :=
  (linesBy mark text).map fun line => line.takeWhile (· != mark)

/-- The lines of a text without their line feeds. -/
def rowsOf (text : Bytes) : List Bytes := rowsBy '\n' text

/-- Writes lines, each with a mark at its end. -/
def emitRows (mark : Char) (s : State) (rows : List Bytes) : State :=
  s.emit 1 (rows.flatMap (· ++ [mark]))

/-- Writes lines, each with a line feed. -/
def emitLines (s : State) (lines : List Bytes) : State := emitRows '\n' s lines

/-- The lines of a text are the text. -/
theorem flatten_linesBy (mark : Char) (s : Bytes) :
  (linesBy mark s).flatten = s
  := by
  fun_induction linesBy mark s <;> simp_all

/-- Parts of at most so many elements. -/
def partsOf (size : Nat) : Nat → List α → List (List α)
  | 0, _ => []
  | _ + 1, [] => []
  | bound + 1, xs => xs.take (max size 1) :: partsOf size bound (xs.drop (max size 1))

/-! ### Options -/

/-- The options of a utility, by their letters with their values, and its other arguments. -/
structure Call where
  options : List (Char × Bytes)
  operands : List Bytes

/-- The options that a utility has.  The letter of one that has only a name is a character that no
byte is. -/
structure OptionForms where
  /-- The letters of those without a value. -/
  flags : String
  /-- The letters of those with a value. -/
  valued : String
  /-- The names, with the letters that they stand for. -/
  names : List (String × Char)
  /-- The letters of those whose value may be left out. -/
  loose : String := ""
  /-- Options end where the first other argument stands. -/
  inFront : Bool := false

namespace Call

/-- An option is there. -/
def has (call : Call) (letter : Char) : Bool := call.options.any (·.1 == letter)

/-- The value of an option; the last one counts. -/
def value? (call : Call) (letter : Char) : Option Bytes := call.options.reverse.lookup letter

/-- The last of some options that is there. -/
def last? (call : Call) (letters : String) : Option (Char × Bytes) :=
  call.options.reverse.find? fun (c, _) => letters.toList.contains c

/-- The mark at the end of lines, which the option `z` changes. -/
def endMark (call : Call) : Char := if call.has 'z' then '\x00' else '\n'

/-- One more option in front. -/
def withOption (letter : Char) (value : Bytes) (call : Call) : Call :=
  { call with options := (letter, value) :: call.options }

/-- The letters behind a single hyphen: options, and a letter that waits for a value. -/
def letters (x : OptionForms) : Bytes → Except String (List (Char × Bytes) × Option Char)
  | [] => .ok ([], none)
  | c :: r =>
    if x.valued.toList.contains c then
      if r.isEmpty then .ok ([], some c) else .ok ([(c, r)], none)
    else if x.loose.toList.contains c then .ok ([(c, r)], none)
    else if x.flags.toList.contains c then do
      let (more, open_) ← letters x r
      .ok ((c, []) :: more, open_)
    else .error ("invalid option -- '" ++ String.ofList [c] ++ "'")

/-- The option that a name stands for, which may be cut short. -/
def nameIn (x : OptionForms) (arg name : Bytes) : Except String (String × Char) :=
  match x.names.filter fun (n, _) => name.isPrefixOf n.toList with
  | [] => .error ("unrecognized option '" ++ String.ofList arg ++ "'")
  | (first, letter) :: others =>
    match ((first, letter) :: others).find? fun (n, _) => n.toList == name with
    | some found => .ok found
    | none =>
      if others.all fun (_, other) => other == letter then .ok (first, letter)
      else
        let shown := (first :: others.map Prod.fst).map fun n => " '--" ++ n ++ "'"
        .error ("option '" ++ String.ofList arg ++ "' is ambiguous; possibilities:"
          ++ String.join shown)

/-- Reads arguments. -/
def read (x : OptionForms) : List Bytes → Except String Call
  | [] => .ok ⟨[], []⟩
  | arg :: rest =>
    match arg with
    | ['-', '-'] => .ok ⟨[], rest⟩
    | '-' :: '-' :: text => do
      let name := text.takeWhile (· != '=')
      let (full, letter) ← nameIn x arg name
      let attached := name.length < text.length
      let value := text.drop (name.length + 1)
      if x.valued.toList.contains letter && !attached then
        match rest with
        | value :: rest => return (← read x rest).withOption letter value
        | [] => .error ("option '--" ++ full ++ "' requires an argument")
      else if x.valued.toList.contains letter then
        return (← read x rest).withOption letter value
      else if attached && !x.loose.toList.contains letter then
        .error ("option '--" ++ full ++ "' doesn't allow an argument")
      else return (← read x rest).withOption letter value
    | '-' :: c :: more => do
      let (options, open_) ← letters x (c :: more)
      let add (call : Call) : Call := { call with options := options ++ call.options }
      match open_, rest with
      | none, rest => return add (← read x rest)
      | some letter, value :: rest => return add ((← read x rest).withOption letter value)
      | some letter, [] =>
        .error ("option requires an argument -- '" ++ String.ofList [letter] ++ "'")
    | arg =>
      if x.inFront then .ok ⟨[], arg :: rest⟩
      else do
        let call ← read x rest
        return { call with operands := arg :: call.operands }

end Call

/-- A utility does not know what to do with its arguments. -/
def misused (code : Nat) (reason : String) (s : State) : State :=
  s.report code (reason ++ "\nTry '" ++ s.program ++ " --help' for more information.")

/-- A utility with options. -/
def withOptions (code : Nat) (x : OptionForms) (f : Call → State → State) : Utility :=
  fun args s =>
    match Call.read x args with
    | .ok call => f call s
    | .error reason => misused code reason s

/-- A utility that takes only so many operands. -/
def atMost (most code : Nat) (f : Call → State → State) (call : Call) (s : State) : State :=
  match call.operands.drop most with
  | extra :: _ => misused code ("extra operand " ++ Quoting.plain extra) s
  | [] => f call s

/-- The first of the words of like meaning one of which the value of an option stands for, which
may be cut short; or what is said of it. -/
def chooseAmong (option : String) (groups : List (List String)) (value : Bytes) :
    Except String String :=
  let word := String.ofList value
  let found := groups.filter fun words => words.any fun word => value.isPrefixOf word.toList
  let wrong (what : String) : Except String String :=
    let shown (words : List String) : String :=
      "\n  - " ++ ", ".intercalate (words.map fun word => "'" ++ word ++ "'")
    .error (what ++ " argument " ++ Quoting.plain value ++ " for '" ++ option
      ++ "'\nValid arguments are:" ++ String.join (groups.map shown))
  match groups.find? (·.contains word), found with
  | some words, _ => .ok (words.headD word)
  | none, [words] => .ok (words.headD word)
  | none, [] => wrong "invalid"
  | none, _ => wrong "ambiguous"

/-- The word of a list that the value of an option stands for, which may be cut short; or what is
said of it. -/
def choose (option : String) (words : List String) (value : Bytes) : Except String String :=
  chooseAmong option (words.map fun word => [word]) value

/-! ### Files -/

/-- Takes all that is left to read. -/
def drain (s : State) : Bytes × State := (s.input, { s with input := [] })

/-- Why a file cannot be used. -/
def reasonOf : Fault → String
  | .isDirectory => "Is a directory"
  | .notDirectory => "Not a directory"
  | .permissionDenied => "Permission denied"
  | .because reason => String.ofList (reason.toList.takeWhile (· != '(')).dropLast
  | _ => "No such file or directory"

/-- A message about a file of a utility. -/
def aboutFile (action : String) (file : Bytes) (reason : String) : String :=
  action ++ " " ++ Quoting.always file ++ ": " ++ reason

/-- Asks a question; the answer that is read is a yes when it starts with its first letter. -/
def asks (question : String) (s : State) : Bool × State :=
  let s := s.emit 2 (s.program ++ ": " ++ question ++ "? ").toList
  let answer := s.input.takeWhile (· != '\n')
  let yes := answer.head?.any fun c => c == 'y' || c == 'Y'
  (yes, { s with input := s.input.drop (answer.length + 1) })

/-- How many zeros are read where there is no end of them. -/
def zerosRead : Nat := 1048576

/-- What a file holds, or the input for a hyphen; or why it cannot be read. -/
def fileText (file : Bytes) (s : State) : Except Fault Bytes × State :=
  if file == ['-'] || file == "/dev/stdin".toList then
    let (text, s) := drain s
    (.ok text, s)
  else if file == "/dev/null".toList then (.ok [], s)
  else if file == "/dev/zero".toList then (.ok (List.replicate zerosRead '\x00'), s)
  else ((s.disk.read (pathOf file)).map ofByteArray, s)

/-- Writes a text in place of what a file held, or behind that. -/
def saveText (file text : Bytes) (append : Bool) (s : State) : Except Fault State :=
  if file == "/dev/null".toList then .ok s
  else if file == "/dev/stdout".toList then .ok (s.emit 1 text)
  else if file == "/dev/stderr".toList then .ok (s.emit 2 text)
  else
    let path := pathOf file
    let old : Bytes :=
      match append, s.disk.read path with
      | true, .ok bytes => ofByteArray bytes
      | _, _ => []
    (s.disk.write path (toByteArray (old ++ text))).map fun disk => { s with disk := disk }

/-- How the faults of files are reported. -/
structure Reports where
  /-- The exit code. -/
  code : Nat
  wording : Bytes → Fault → String

namespace Reports

/-- The name of a file and the reason. -/
def plain (code : Nat) : Reports :=
  ⟨code, fun file fault => Quoting.asNeeded file ++ ": " ++ reasonOf fault⟩

/-- A file cannot be opened, or it is a directory and cannot be read. -/
def opening (code : Nat) : Reports :=
  ⟨code, fun file fault =>
    let name := Quoting.always file
    if fault == .isDirectory then "error reading " ++ name ++ ": " ++ reasonOf fault
    else "cannot open " ++ name ++ " for reading: " ++ reasonOf fault⟩

end Reports

/-- Goes through the texts of files with a value that each of them may change, or through the
input when no file is named; a file that cannot be read is reported. -/
def foldTexts (x : Reports) (files : List Bytes) (f : α → Bytes → Bytes → State → α × State)
    (start : α) (s : State) : α × State :=
  (if files.isEmpty then [['-']] else files).foldl (fun (a, s) file =>
    match fileText file s with
    | (.ok text, s) => f a file text s
    | (.error fault, s) => (a, s.report x.code (x.wording file fault))) (start, s.withStatus 0)

/-- Does something with the texts of files. -/
def forTexts (x : Reports) (files : List Bytes) (f : Bytes → Bytes → State → State) (s : State) :
    State :=
  (foldTexts x files (fun _ file text s => ((), f file text s)) () s).2

/-- The texts of files, each with its name. -/
def textsOf (x : Reports) (files : List Bytes) (s : State) : List (Bytes × Bytes) × State :=
  let (texts, s) := foldTexts x files (fun texts file text s => ((file, text) :: texts, s)) [] s
  (texts.reverse, s)

end MojoToolchain.Shell
