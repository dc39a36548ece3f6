import MojoToolchain.Shell.Arguments
import MojoToolchain.Shell.Arithmetic
import MojoToolchain.Shell.Program
import MojoToolchain.Shell.Reader

/-!
# Starting programs

The state in which a program starts, what a shell is left with behind a program that it has called,
and what names stand for.
-/

namespace MojoToolchain.Shell

open Host (Fault)

/-! ### Start -/

/-- The directories in which a shell looks for programs when nothing else is said. -/
def shellPath : Bytes := "/usr/local/sbin:/usr/local/bin:/usr/sbin:/usr/bin:/sbin:/bin".toList

/-- The variables that a shell has from its start on, with what they hold unless something else has
been given. -/
def startValues : List (String × Bytes) :=
  [("PS4", ['+', ' ']), ("PS2", ['>', ' ']), ("PS1", ['#', ' ']), ("PATH", shellPath)]

/-- The state of a program as that of a shell at its start. -/
def asShell (s : State) : State :=
  let s := { s with
    vars := s.vars.filter fun (n, _) => isVariableName n
    exported := s.exported.filter isVariableName }
  let s := startValues.foldl (fun (s : State) (name, value) =>
    if s.vars.any (·.1 == name.toList) then s else s.put name.toList value) s
  let own : List (String × Bytes) :=
    [("IFS", [' ', '\t', '\n']), ("OPTIND", ['1']), ("PPID", ['4', '2', '4', '1']),
     ("PWD", s.directory)]
  let s := own.foldl (fun (s : State) (name, value) => s.put name.toList value) s
  if s.exported.contains "PWD".toList then s else { s with exported := "PWD".toList :: s.exported }

/-- The state of a shell at its start, with its name, its arguments and its options. -/
def openShell (s : State) (name : Bytes) (args : List Bytes) (options : Bytes) : State :=
  { asShell s with name := name, args := args, options := [], line := 0 }.turnOptions true options

/-- Variables in the order in which a shell goes through them, the first one at the end. -/
def inRows (names : List Bytes) : List Bytes :=
  (names.reverse.eraseDups.mergeSort fun a b => rowOf a ≤ rowOf b).reverse

/-! ### Calls -/

/-- How deep calls of functions may be nested. -/
def depthOfFunctions : Nat := 1000

/-- How long it takes until a program runs. -/
def programTime : Nat := 2

/-- The state in which a program is called: it gets the variables that are given to others. -/
def called (s : State) : State :=
  { s with
    vars := s.vars.filter fun (n, _) => s.exported.contains n
    exported := inRows s.exported
    functions := []
    aliases := []
    fixed := []
    doing := ""
    saved := []
    loops := 0
    inFunction := false
    depth := 0
    options := []
    sheltered := false
    isPart := false
    background := none
    jobs := s.jobs.map fun job => { job with isOwn := false }
    notices := []
    traps := s.traps.filter fun (_, command) => command.isEmpty
    pending := []
    optionPlace := 0 }

/-- The state of a program behind another one that it has called, whose end is not its own. -/
def regained (s ran : State) : State :=
  let back := { ran with
    name := s.name
    program := s.program
    args := s.args
    vars := s.vars
    exported := s.exported
    fixed := s.fixed
    doing := s.doing
    functions := s.functions
    aliases := s.aliases
    saved := s.saved
    loops := s.loops
    inFunction := s.inFunction
    depth := s.depth
    mask := s.mask
    line := s.line
    options := s.options
    sheltered := s.sheltered
    isPart := s.isPart
    background := s.background
    jobs := s.jobs
    notices := s.notices ++ ran.notices
    traps := s.traps
    pending := s.pending
    optionPlace := s.optionPlace
    disk := { ran.disk with here := s.disk.here }
    ended := none }
  let back := back.deliver.lookAround
  match ran.ended with
  | some (.signal n) => back.withStatus (128 + n)
  | some (.expired n) => { back with ended := some (.expired n) }.outlive
  | some (.exit code) => back.withStatus code
  | _ => back

/-- The state of a shell behind a program that it has called; it says so when a signal has ended
that. -/
def behindCall (s ran : State) : State :=
  let back := regained s ran
  let signal? : Option Nat :=
    match ran.ended with
    | some (.signal n) => some n
    | some (.expired n) => if back.ended.isNone then some n else none
    | _ => none
  match signal?.bind farewellOf with
  | some words => back.emit 2 (ofText (words ++ "\n"))
  | none => back

/-- A program that cannot be run. -/
def cannotRun (s : State) (name : Bytes) (fault : Fault) : State :=
  let shown := String.ofList name ++ ": "
  match fault with
  | .permissionDenied =>
    s.complain (if name.contains '/' then 126 else 127) (shown ++ "Permission denied")
  | .because reason => s.complain 127 (shown ++ reasonOf (.because reason))
  | _ => s.complain 127 (shown ++ if name.isEmpty then "Permission denied" else "not found")

/-- The directories in which a program looks for others. -/
def callPath (s : State) : Bytes := (s.value? "PATH".toList).getD "/bin:/usr/bin".toList

/-- A program says why it cannot call another one. -/
def cannotCall (s : State) (front : String) (fault : Fault) : State :=
  s.report (if fault == .permissionDenied then 126 else 127) (front ++ ": " ++ reasonOf fault)

/-- The commands that are a part of the language: assignments in front of them last, and a stream
that cannot be directed ends the shell. -/
def specialNames : List String :=
  [":", ".", "eval", "exec", "exit", "export", "local", "readonly", "return", "break", "continue",
   "set", "shift", "times", "trap", "unset"]

/-- The shell does something itself at a name. -/
def isBuiltin (name : String) : Bool :=
  (builtin? name).isSome || ["eval", ".", "exec", "command", "type", "hash"].contains name

/-- What a name stands for, for a `command` that only asks. -/
def whereIs (s : State) (name : Bytes) : State :=
  let text := String.ofList name
  match keywords.contains text, s.aliases.lookup name with
  | false, some value =>
    (emitLines s ["alias ".toList ++ aliasRow (name, value)]).withStatus 0
  | isKeyword, _ =>
    if isKeyword || isBuiltin text || (s.functions.lookup name).isSome then
      (emitLines s [name]).withStatus 0
    else
      match pathOfProgram s.disk (searchPath s) name with
      | .ok path =>
        if isExecutable s path || (executableAt s.disk (pathOf path)) matches .ok _ then
          (emitLines s [path]).withStatus 0
        else s.withStatus 127
      | .error _ => s.withStatus 127

/-- Looks for programs, and says which are not there. -/
def findEach (s : State) (names : List Bytes) : State :=
  match readLetters "rv" "" names with
  | .error reason => { { s with doing := "hash" }.complain 2 reason with doing := s.doing }
  | .ok call =>
    call.operands.foldl (fun s name =>
      match isBuiltin (String.ofList name), pathOfProgram s.disk (searchPath s) name with
      | false, .error _ =>
        let named := { s with doing := "hash" }
        { named.complain 1 (String.ofList name ++ ": not found") with doing := s.doing }
      | _, _ => s) (s.withStatus 0)

/-- Says what names stand for. -/
def describeNames (s : State) (names : List Bytes) : State :=
  names.foldl (fun s name =>
    let text := String.ofList name
    let say (words : String) : State := emitLines s [name ++ words.toList]
    if keywords.contains text then say " is a shell keyword"
    else if let some value := s.aliases.lookup name then
      say (" is an alias for " ++ String.ofList value)
    else if (s.functions.lookup name).isSome then say " is a shell function"
    else if specialNames.contains text then say " is a special shell builtin"
    else if isBuiltin text then say " is a shell builtin"
    else
      match pathOfProgram s.disk (searchPath s) name with
      | .ok path =>
        if (executableAt s.disk (pathOf path)) matches .ok _ then say (" is " ++ String.ofList path)
        else { say ": not found" with status := 127 }
      | .error _ => { say ": not found" with status := 127 }) (s.withStatus 0)

/-! ### Values -/

/-- The wording of why an expression has no value. -/
def Arithmetic.Trouble.message (text : Bytes) : Arithmetic.Trouble → String
  | divisionByZero => "arithmetic expression: division by zero: \"" ++ String.ofList text ++ "\""
  | illegalNumber n => "Illegal number: " ++ String.ofList n

/-- The value of the text of an expression; one that has none ends the shell. -/
def calculate (text : Bytes) (s : State) : Bytes × State :=
  match Arithmetic.parse text with
  | .error lack =>
    let shown := "\"" ++ String.ofList text ++ "\""
    ([], s.abort 2 ("arithmetic expression: " ++ lack.message ++ ": " ++ shown))
  | .ok e =>
    match e.eval s with
    | .ok (n, s) => (Arithmetic.textOf n, s)
    | .error trouble => ([], s.abort 2 (trouble.message text))

/-- What shows the commands that a shell runs stands behind this text. -/
def traceMark (s : State) : Bytes := (s.value? "PS4".toList).getD ['+', ' ']

end MojoToolchain.Shell
