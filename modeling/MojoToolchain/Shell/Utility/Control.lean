import MojoToolchain.Shell.Utility.File
import MojoToolchain.Shell.Utility.Format
import MojoToolchain.Shell.Utility.Job

/-!
# Control

The commands that a shell has itself: they change its arguments and variables, leave loops and
functions, and end it.
-/

namespace MojoToolchain.Shell

/-! ### Ending -/

/-- Ends the shell. -/
def exit : Utility := fun args s =>
  withNumber args s.status s fun n =>
    { s with status := n % 256, ended := some (.exit (n % 256)) }

/-- Comes back from a function. -/
def comeBack : Utility := fun args s =>
  withNumber args s.status s fun n => { s with status := n, ended := some .back }

/-- Does something with a number of loops, unless there is none around. -/
def withLoops (f : Nat → Ending) : Utility := fun args s =>
  withNumber args 1 s fun n =>
    if n == 0 then s.abort 2 "Illegal number: 0"
    else if s.loops == 0 then s.withStatus 0
    else { s with status := 0, ended := some (f (min n s.loops)) }

/-- Leaves loops. -/
def leaveLoops : Utility := withLoops .leave

/-- Goes on with the next round of a loop. -/
def nextRound : Utility := withLoops .next

/-- A text between single quotes, as a shell reads it back. -/
def singleQuoted (text : Bytes) : Bytes :=
  '\'' :: text.flatMap (fun c => if c == '\'' then "'\"'\"'".toList else [c]) ++ ['\'']

/-- Keeps what runs when signals come and when the shell ends, forgets it, or lists it. -/
def trap : Utility := fun args s =>
  let args := if args.head? == some ['-', '-'] then args.drop 1 else args
  let forget (names : List Bytes) : State :=
    let numbers := names.filterMap signalNumber
    { s with traps := s.traps.filter (fun (n, _) => !numbers.contains n), status := 0 }
  match args with
  | [] =>
    let rows := (s.traps.mergeSort fun a b => a.1 ≤ b.1).map fun (n, command) =>
      "trap -- ".toList ++ singleQuoted command ++ ' ' :: signalName n
    (emitLines s rows).withStatus 0
  | [name] => forget [name]
  | command :: names =>
    if command == ['-'] || (String.ofList command).isNat then
      forget (if command == ['-'] then names else command :: names)
    else
      match names.find? fun n => (signalNumber n).isNone with
      | some name => s.fail 1 ("trap: " ++ String.ofList name ++ ": bad trap")
      | none =>
        let numbers := names.filterMap signalNumber
        let others := s.traps.filter fun (n, _) => !numbers.contains n
        { s with traps := numbers.map (fun n => (n, command)) ++ others, status := 0 }

/-- Writes how long the shell and its commands have run, which is no time at all. -/
def times : Utility := fun _ s =>
  let none := "0m0.000000s 0m0.000000s".toList
  (emitLines s [none, none]).withStatus 0

/-- Writes the limits of a process, of which there are none. -/
def ulimit : Utility :=
  withLetters "HSatfdscmlpnvwr" "" fun call s =>
    if !call.operands.isEmpty then s.withStatus 0
    else if call.has 'c' then (emitLines s [['0']]).withStatus 0
    else (emitLines s ["unlimited".toList]).withStatus 0

/-! ### Aliases -/

/-- The place of a name among those of a shell, which keeps them in so many rows. -/
def rowOf (name : Bytes) : Nat :=
  name.foldl (fun n c => n + c.toNat) (16 * (name.headD '\x00').toNat) % 39

/-- An alias as a shell reads it back. -/
def aliasRow (entry : Bytes × Bytes) : Bytes := entry.1 ++ '=' :: singleQuoted entry.2

/-- Lets words stand for texts, or lists what they stand for. -/
def alias_ : Utility := fun args s =>
  if args.isEmpty then
    (emitLines s ((s.aliases.mergeSort fun a b => rowOf a.1 ≤ rowOf b.1).map aliasRow)).withStatus 0
  else
    args.foldl (fun s arg =>
      let name := arg.take 1 ++ (arg.drop 1).takeWhile (· != '=')
      if name.length < arg.length then
        let text := arg.drop (name.length + 1)
        if s.aliases.any (·.1 == name) then
          { s with aliases := s.aliases.map fun (n, t) => (n, if n == name then text else t) }
        else { s with aliases := s.aliases ++ [(name, text)] }
      else
        match s.aliases.lookup name with
        | some text => emitLines s [aliasRow (name, text)]
        | none => s.fail 1 ("alias: " ++ String.ofList name ++ " not found")) (s.withStatus 0)

/-- Lets words stand for themselves again. -/
def unalias : Utility :=
  withLetters "a" "" fun call s =>
    if call.has 'a' then { s with aliases := [], status := 0 }
    else
      call.operands.foldl (fun s name =>
        if s.aliases.any (·.1 == name) then
          { s with aliases := s.aliases.filter (·.1 != name) }
        else s.fail 1 ("unalias: " ++ String.ofList name ++ " not found")) (s.withStatus 0)

/-! ### Arguments and variables -/

/-- Drops the first arguments. -/
def shift : Utility := fun args s =>
  withNumber args 1 s fun n =>
    if s.args.length < n then s.abort 2 "can't shift that many"
    else { s with args := s.args.drop n, status := 0 }

/-- A word that may assign to a variable: the name, and the value if there is one. -/
def assignmentIn (arg : Bytes) : Bytes × Option Bytes :=
  let name := arg.takeWhile (· != '=')
  (name, if name.length < arg.length then some (arg.drop (name.length + 1)) else none)

/-- A name that a variable can have. -/
def isVariableName (name : Bytes) : Bool :=
  name.head?.any (fun c => c.isAlpha || c == '_') && name.all fun c => c.isAlphanum || c == '_'

/-- Does something with variables and sets them; a name that none can have ends the shell. -/
def withVariables (f : State → Bytes → State) (args : List Bytes) (s : State) : State :=
  args.foldl (fun s arg =>
    let (name, value) := assignmentIn arg
    if s.ended.isSome then s
    else if !isVariableName name then
      s.abort 2 (String.ofList name ++ ": bad variable name")
    else
      match value with
      | some value => f (s.assign name value) name
      | none => f s name) (s.withStatus 0)

/-- Lists variables, each behind a word. -/
def listVariables (word : String) (names : List Bytes) (s : State) : State :=
  let rows := (names.eraseDups.mergeSort fun a b => !decide (b < a)).map fun name =>
    match s.vars.lookup name with
    | some value => word.toList ++ ' ' :: name ++ '=' :: singleQuoted value
    | none => word.toList ++ ' ' :: name
  (emitLines s rows).withStatus 0

/-- Gives variables to other programs, or lists those that they get. -/
def export_ : Utility :=
  withLetters "p" "" fun call s =>
    if call.has 'p' || call.operands.isEmpty then listVariables "export" s.exported s
    else
      withVariables (fun s name => { s with exported := name :: s.exported }) call.operands s

/-- Lets variables keep what they hold, or lists those that do. -/
def readonly : Utility :=
  withLetters "p" "" fun call s =>
    if call.has 'p' || call.operands.isEmpty then listVariables "readonly" s.fixed s
    else withVariables (fun s name => { s with fixed := name :: s.fixed }) call.operands s

/-- Variables that belong to a function, outside of which the shell ends; `-` stands for the
options. -/
def local_ : Utility := fun args s =>
  if !s.inFunction then s.abort 2 "not in a function"
  else
    withVariables (fun s _ => s) (args.filter (· != ['-']))
      (args.foldl (fun (s : State) arg => s.save (assignmentIn arg).1) s)

/-- Forgets variables and functions. -/
def unset : Utility :=
  withLetters "vf" "" fun call s =>
    if call.last? "vf" == some ('f', []) then
      let names := call.operands
      { s with functions := s.functions.filter fun (n, _) => !names.contains n, status := 0 }
    else withVariables (fun s name => s.forget name) call.operands s

/-- The options of a shell by their names; some have no letter of their own. -/
def optionNames : List (String × Option Char) :=
  [("errexit", some 'e'), ("noglob", some 'f'), ("ignoreeof", some 'I'),
   ("interactive", some 'i'), ("monitor", some 'm'), ("noexec", some 'n'), ("stdin", some 's'),
   ("xtrace", some 'x'), ("verbose", some 'v'), ("vi", some 'V'), ("emacs", some 'E'),
   ("noclobber", some 'C'), ("allexport", some 'a'), ("notify", some 'b'), ("nounset", some 'u'),
   ("privileged", some 'p'), ("nolog", none), ("debug", none)]

/-- The options with their states, or as a shell reads them back. -/
def optionRows (s : State) (readBack : Bool) : List Bytes :=
  let isOn (letter : Option Char) : Bool := letter.any s.has
  if readBack then
    optionNames.map fun (name, letter) =>
      (if isOn letter then "set -o " else "set +o ").toList ++ name.toList
  else
    "Current option settings".toList :: optionNames.map fun (name, letter) =>
      name.toList ++ List.replicate (16 - name.length) ' '
        ++ if isOn letter then "on".toList else "off".toList

/-- The letter of an option. -/
def optionLetter? (name : Bytes) : Option Char :=
  (optionNames.lookup (String.ofList name)).join

/-- Sets options of the shell and its arguments. -/
def setFrom (s : State) : Nat → List Bytes → State
  | 0, _ => s
  | _ + 1, [] => s
  | bound + 1, arg :: rest =>
    match arg with
    | ['-', '-'] => { s with args := rest }
    | ['-'] => if rest.isEmpty then s else { s with args := rest }
    | '-' :: letters => turned bound true letters rest
    | '+' :: letters => turned bound false letters rest
    | arg => { s with args := arg :: rest }
where
  /-- Turns options on or off and goes on with the other arguments. -/
  turned (bound : Nat) (on : Bool) (letters : Bytes) (rest : List Bytes) : State :=
    if letters.contains 'o' then
      match rest.head?.map optionLetter? with
      | some (some letter) =>
        let letters := letter :: letters.filter (· != 'o')
        setFrom (s.turnOptions on letters) bound (rest.drop 1)
      | some none => s.abort 2 ("Illegal option -o " ++ String.ofList (rest.headD []))
      | none => emitLines s (optionRows s !on)
    else
      match letters.find? fun c => !State.optionLetters.contains c with
      | some c => s.abort 2 ("Illegal option " ++ String.ofList [if on then '-' else '+', c])
      | none => setFrom (s.turnOptions on letters) bound rest

/-- Sets options of the shell and its arguments, or lists its variables. -/
def set : Utility := fun args s =>
  match args with
  | [] =>
    let rows := (s.vars.mergeSort fun a b => !decide (b.1 < a.1)).map fun (name, value) =>
      name ++ '=' :: singleQuoted value
    (emitLines s rows).withStatus 0
  | args => setFrom (s.withStatus 0) (args.length + 1) args

/-- The values of variables from a line: each but the last takes a word. -/
def splitLine (separators : Bytes) : List Bytes → Bytes → List (Bytes × Bytes)
  | [], _ => []
  | [name], line => [(name, line)]
  | name :: rest, line =>
    let isGap (c : Char) : Bool := separators.contains c && (c == ' ' || c == '\t')
    let word := line.takeWhile fun c => !separators.contains c
    let after := (line.drop word.length).dropWhile isGap
    let after := if after.head?.any separators.contains then after.drop 1 else after
    (name, word) :: splitLine separators rest (after.dropWhile isGap)

/-- The line at the front and the text after it; a backslash joins lines and keeps a character
from meaning something, unless lines are `raw`. -/
def takeLine (raw : Bool) : Bytes → Bytes × Option Bytes
  | [] => ([], none)
  | '\n' :: r => ([], some r)
  | '\\' :: '\n' :: r =>
    let (line, rest) := takeLine raw r
    (if raw then ['\\'] else line, if raw then some r else rest)
  | '\\' :: c :: r =>
    let (line, rest) := takeLine raw r
    (if raw then '\\' :: c :: line else c :: line, rest)
  | c :: r =>
    let (line, rest) := takeLine raw r
    (c :: line, rest)

/-- Reads a line into variables; a mark in front of it is shown only where people can see it. -/
def readLine : Utility :=
  withLetters "r" "p" fun call s =>
    let names := call.operands
    if names.isEmpty then s.abort 2 "arg count"
    else
      let (line, rest) := takeLine (call.has 'r') s.input
      let isGap (c : Char) : Bool := s.separators.contains c && (c == ' ' || c == '\t')
      let trimmed := ((line.dropWhile isGap).reverse.dropWhile isGap).reverse
      let s := { s with input := rest.getD [] }
      let s := (splitLine s.separators names trimmed).foldl (fun (s : State) (name, value) =>
        if s.ended.isSome then s
        else if !isVariableName name then s.abort 2 (String.ofList name ++ ": bad variable name")
        else s.assign name value) s
      if s.ended.isSome then s else s.withStatus (if rest.isNone then 1 else 0)

/-- The paths at which a directory is looked for, each with whether it is shown where it is. -/
def placesOf (s : State) (dir : Bytes) : List (Bytes × Bool) :=
  let isFixed := ["/".toList, "./".toList, "../".toList].any fun front => front.isPrefixOf dir
  let own := [(dir, false)]
  if isFixed || dir == ['.'] || dir == ['.', '.'] then own
  else
    let listed := ((s.value? "CDPATH".toList).getD []).splitOn ':'
    listed.filterMap (fun front =>
      if front.isEmpty then none else some (front ++ '/' :: dir, true)) ++ own

/-- Goes to a directory, where relative paths start from then on; `-` leads back. -/
def cd : Utility :=
  withLetters "LP" "" fun call s =>
    let home := (s.value? "HOME".toList).getD []
    let given := call.operands.headD home
    let dir := if given == ['-'] then (s.value? "OLDPWD".toList).getD [] else given
    let dir := if dir.isEmpty then ['.'] else dir
    let found := (placesOf s dir).findSome? fun (path, isShown) =>
      match s.kindAt path, s.disk.locate (pathOf path) with
      | some .directory, .ok place => some (place, isShown)
      | _, _ => none
    match found with
    | some (place, isShown) =>
      let old := s.directory
      let s := { s with disk := { s.disk with here := place } }
      let s := (s.assign "OLDPWD".toList old).withStatus 0
      let s := s.assign "PWD".toList s.directory
      let s := { s with exported := "OLDPWD".toList :: "PWD".toList :: s.exported }
      if isShown || given == ['-'] then emitLines s [s.directory] else s
    | none => s.abort 2 ("can't cd to " ++ String.ofList dir)

/-- Writes where relative paths start, as the shell does it itself. -/
def here : Utility :=
  withLetters "LP" "" fun _ s => (emitLines s [s.directory]).withStatus 0

/-- Reads the next option of arguments into a variable, by a list of letters; a letter with a colon
behind it takes a value. -/
def getopts : Utility := fun args s =>
  match args with
  | letters :: name :: given =>
    let args := if given.isEmpty then s.args else given
    let quiet := letters.head? == some ':'
    let index := (((s.value? "OPTIND".toList).bind numberOf).getD 1).toNat
    let place := if index ≤ 1 && s.optionPlace == 0 then 0 else s.optionPlace
    let settled (s : State) (index place : Nat) : State :=
      { s.assign "OPTIND".toList (Nat.toDigits 10 index) with optionPlace := place }
    let arg := (args[index - 1]?).getD []
    if place == 0 && (arg.length < 2 || arg.head? != some '-') then
      (settled (s.assign name ['?']) index 0).withStatus 1
    else if place == 0 && arg == ['-', '-'] then
      (settled (s.assign name ['?']) (index + 1) 0).withStatus 1
    else
      let place := if place == 0 then 1 else place
      let c := (arg[place]?).getD '?'
      let more := place + 1 < arg.length
      let next (s : State) : State :=
        if more then settled s index (place + 1) else settled s (index + 1) 0
      match letters.dropWhile (· != c) with
      | _ :: ':' :: _ =>
        if more then
          (settled ((s.assign name [c]).assign "OPTARG".toList (arg.drop (place + 1)))
            (index + 1) 0).withStatus 0
        else
          match args[index]? with
          | some value =>
            (settled ((s.assign name [c]).assign "OPTARG".toList value) (index + 2) 0).withStatus 0
          | none =>
            let s := settled s (index + 1) 0
            if quiet then ((s.assign name [':']).assign "OPTARG".toList [c]).withStatus 0
            else
              ((s.forget "OPTARG".toList).assign name ['?']).fail 0
                ("No arg for -" ++ String.ofList [c] ++ " option")
      | _ :: _ => (next ((s.assign name [c]).assign "OPTARG".toList [])).withStatus 0
      | [] =>
        let s := next s
        if quiet then ((s.assign name ['?']).assign "OPTARG".toList [c]).withStatus 0
        else
          ((s.forget "OPTARG".toList).assign name ['?']).fail 0
            ("Illegal option -" ++ String.ofList [c])
  | _ => s.abort 2 "Usage: getopts optstring var [arg...]"

/-! ### Permissions -/

/-- Writes which permissions new files lack, or sets that. -/
def umask : Utility :=
  withLetters "S" "" fun call s =>
    match call.operands with
    | [] =>
      let row :=
        if call.has 'S' then Permissions.clauses (0o777 - s.mask % 512)
        else Permissions.digits s.mask
      (emitLines s [row]).withStatus 0
    | arg :: _ =>
      if arg.head?.any Char.isDigit then
        match Permissions.octal? arg with
        | some n => { s with mask := n % 512, status := 0 }
        | none => s.abort 2 ("Illegal number: " ++ String.ofList arg)
      else
        match Permissions.changeAll 0 (0o777 - s.mask % 512) (arg.splitOn ',') with
        | some mode => { s with mask := 0o777 - mode, status := 0 }
        | none => s.abort 2 ("Illegal mode: " ++ String.ofList arg)

/-! ### The commands -/

/-- Ends well. -/
def succeed : Utility := fun _ s => s.withStatus 0

/-- Ends badly. -/
def failed : Utility := fun _ s => s.withStatus 1

/-- What only a shell can do. -/
def builtins : Utilities :=
  [(":", succeed), ("exit", exit), ("return", comeBack), ("break", leaveLoops),
   ("continue", nextRound), ("shift", shift), ("export", export_), ("local", local_),
   ("unset", unset), ("set", set), ("read", readLine), ("cd", cd), ("trap", trap),
   ("umask", umask), ("wait", wait), ("ulimit", ulimit), ("jobs", jobs), ("fg", takeUp),
   ("bg", takeUp), ("alias", alias_), ("unalias", unalias), ("chdir", cd), ("getopts", getopts),
   ("readonly", readonly), ("times", times)]

/-- What a shell can do itself and other programs can do too. -/
def sharedBuiltins : Utilities :=
  [("echo", echo), ("printf", printf), ("kill", kill), ("pwd", here), ("true", succeed),
   ("false", failed)] ++ testBuiltins

end MojoToolchain.Shell
