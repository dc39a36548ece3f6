import MojoToolchain.Shell.Utility.Surroundings
import MojoToolchain.Shell.Utility.Waiting

/-!
# Calls of programs by programs

Some programs call another one, under other conditions.  A `Handover` is what comes of their
arguments: the program that is called, or an end before that.
-/

namespace MojoToolchain.Shell

/-- What a program that calls another one makes of its arguments. -/
inductive Handover where
  /-- It comes to its end itself. -/
  | over (s : State)
  /-- It calls a command; the text says in front of a reason that this cannot be done. -/
  | handing (command : List Bytes) (failure : String) (s : State)
  /-- It calls a command and makes something of what that leaves. -/
  | watching (command : List Bytes) (failure : String) (s : State) (behind : State → State)

namespace Handover

/-- The exit code of a program that comes to nothing before it calls another one. -/
def cancelled : Nat := 125

/-- A program that reads options in front of a command. -/
def withOptions (code : Nat) (x : OptionForms) (f : Shell.Call → State → Handover)
    (args : List Bytes) (s : State) : Handover :=
  match Shell.Call.read { x with inFront := true } args with
  | .ok options => f options s
  | .error reason => .over (misused code reason s)

/-- A failure that names the command. -/
def failureToRun (command : List Bytes) : String :=
  "failed to run command " ++ Quoting.always (command.headD [])

end Handover

/-! ### Other variables -/

namespace SplitText

/-- The words that have been read: whether a new one starts with the next character, and the words
from the last one on, each from its end. -/
structure Words where
  apart : Bool
  words : List Bytes

/-- Adds characters to the last word, or starts one with them. -/
def Words.add (x : Words) (text : Bytes) : Words :=
  match x.apart, x.words with
  | false, last :: rest => ⟨false, (text.reverse ++ last) :: rest⟩
  | _, words => ⟨false, text.reverse :: words⟩

/-- The character that a letter after a backslash stands for. -/
def escaped : Char → Option Char
  | 'f' => some '\x0c'
  | 'n' => some '\n'
  | 'r' => some '\r'
  | 't' => some '\t'
  | 'v' => some '\x0b'
  | c => if ['"', '#', '$', '\'', '\\'].contains c then some c else none

/-- The name between braces at the front of a text, and how much stands up to its end. -/
def nameIn (text : Bytes) : Option (Bytes × Nat) :=
  match text with
  | '$' :: '\x7b' :: r =>
    let name := r.takeWhile fun c => c.isAlphanum || c == '_'
    if r.drop name.length |>.head? |>.any (· == '\x7d') then some (name, name.length + 3) else none
  | _ => none

/-- Splits a text into words, as quotes and escapes say. -/
def read (valueOf : Bytes → Option Bytes) : Nat → Option Char → Words → Bytes →
    Except String Words
  | 0, _, x, _ => .ok x
  | _ + 1, none, x, [] => .ok x
  | _ + 1, some _, _, [] => .error "no terminating quote in -S string"
  | bound + 1, quote, x, c :: r =>
    let doubled := quote == some '"'
    let single := quote == some '\''
    let plain : Except String Words := read valueOf bound quote (x.add [c]) r
    let isGap := c == ' ' || ('\t' ≤ c && c ≤ '\r')
    if c == '\'' && !doubled || c == '"' && !single then
      read valueOf bound (if quote.isSome then none else some c) (x.add []) r
    else if isGap && quote.isNone then read valueOf bound quote { x with apart := true } r
    else if c == '#' && x.apart then .ok x
    else if c == '$' && !single then
      match nameIn (c :: r) with
      | none =>
        .error ("only $\x7bVARNAME\x7d expansion is supported, error at: "
          ++ String.ofList (c :: r))
      | some (name, size) =>
        let x := (valueOf name).elim x x.add
        read valueOf bound quote x ((c :: r).drop size)
    else if c == '\\' && !(single && !(r.head?.any ['\\', '\''].contains)) then
      match r with
      | [] => .error "invalid backslash at end of string in -S"
      | d :: r =>
        match escaped d, d with
        | some e, _ => read valueOf bound quote (x.add [e]) r
        | none, '_' =>
          if doubled then read valueOf bound quote (x.add [' ']) r
          else read valueOf bound quote { x with apart := true } r
        | none, 'c' =>
          if doubled then .error "'\\c' must not appear in double-quoted -S string" else .ok x
        | none, d => .error ("invalid sequence '\\" ++ String.ofList [d] ++ "' in -S")
    else plain

/-- The words of a text. -/
def wordsOf (valueOf : Bytes → Option Bytes) (text : Bytes) : Except String (List Bytes) :=
  (read valueOf (text.length + 1) none ⟨true, []⟩ text).map fun x =>
    (x.words.map List.reverse).reverse

end SplitText

/-- A call of a command with other variables. -/
structure EnvCall where
  options : Call
  assigned : List (Bytes × Bytes)
  command : List Bytes

namespace EnvCall

/-- The options of such a call. -/
def forms : OptionForms where
  flags := "iv0"
  valued := "uCS"
  names := [("ignore-environment", 'i'), ("null", '0'), ("unset", 'u'), ("chdir", 'C'),
    ("split-string", 'S'), ("debug", 'v')]
  inFront := true

/-- Arguments with the words of a text in place of each option that has to be split. -/
def spread (valueOf : Bytes → Option Bytes) : Nat → List Bytes → Except String (List Bytes)
  | 0, args => .ok args
  | _ + 1, [] => .ok []
  | bound + 1, arg :: rest =>
    let split (text : Bytes) (rest : List Bytes) : Except String (List Bytes) := do
      spread valueOf bound ((← SplitText.wordsOf valueOf text) ++ rest)
    let name := "--split-string".toList
    match arg with
    | ['-', '-'] => .ok (arg :: rest)
    | '-' :: '-' :: _ =>
      match arg == name, rest with
      | true, text :: rest => split text rest
      | _, rest =>
        if (name ++ ['=']).isPrefixOf arg then split (arg.drop (name.length + 1)) rest
        else (spread valueOf bound rest).map (arg :: ·)
    | '-' :: c :: more =>
      let front := (c :: more).takeWhile fun d => d != 'u' && d != 'C' && d != 'S'
      let own := if front.isEmpty then [] else ['-' :: front]
      match (c :: more).drop front.length, rest with
      | ['S'], text :: rest => (split text rest).map (own ++ ·)
      | 'S' :: d :: text, rest => (split (d :: text) rest).map (own ++ ·)
      | [_], value :: rest => (spread valueOf bound rest).map (arg :: value :: ·)
      | _, rest => (spread valueOf bound rest).map (arg :: ·)
    | arg => .ok (arg :: rest)

/-- Assignments in front of a command. -/
def assignments : List Bytes → List (Bytes × Bytes) × List Bytes
  | [] => ([], [])
  | arg :: rest =>
    match assignmentIn arg with
    | (name, some value) =>
      let (more, command) := assignments rest
      ((name, value) :: more, command)
    | (_, none) => ([], arg :: rest)

/-- A single hyphen stands for an option of its own. -/
def withHyphen : List Bytes → List Bytes
  | ['-'] :: rest => ['-', 'i'] :: rest
  | args => args

/-- The call that arguments make. -/
def read (s : State) (args : List Bytes) : Except (Bool × String) EnvCall := do
  let valueOf (name : Bytes) : Option Bytes :=
    if s.exported.contains name then s.vars.lookup name else none
  let args ← (spread valueOf (args.length + 64) args).mapError fun reason => (false, reason)
  let call ← (Call.read forms (withHyphen args)).mapError fun reason =>
    let hint := "\n" ++ s.program ++ ": use -[v]S to pass options in shebang lines"
    (true, if reason == "invalid option -- ' '" then reason ++ hint else reason)
  let (assigned, command) := assignments (match call.operands with
    | ['-'] :: rest => rest
    | operands => operands)
  .ok ⟨call, assigned, command⟩

/-- The names of variables that are forgotten. -/
def forgotten (call : EnvCall) : List Bytes :=
  (call.options.options.filter (·.1 == 'u')).map Prod.snd

/-- A state with the variables of a call. -/
def given (call : EnvCall) (s : State) : State :=
  let clears := call.options.has 'i' || call.options.operands.head? == some ['-']
  let s := if clears then { s with vars := [], exported := [] } else s
  let s := call.forgotten.foldl State.forget s
  call.assigned.foldl (fun s (name, value) =>
    { s.assign name value with exported := name :: s.exported }) s

end EnvCall

/-- Changes variables, and calls a command or lists them. -/
def envHandover (args : List Bytes) (s : State) : Handover :=
  match EnvCall.read s args with
  | .error (true, reason) => .over (misused Handover.cancelled reason s)
  | .error (false, reason) => .over (s.report Handover.cancelled reason)
  | .ok call =>
    let stop (reason : String) : Handover := .over (misused Handover.cancelled reason s)
    let named := call.forgotten.find? fun name => name.isEmpty || name.contains '='
    match named, call.options.value? 'C', call.command with
    | some name, _, _ =>
      .over (s.report Handover.cancelled
        ("cannot unset " ++ Quoting.always name ++ ": Invalid argument"))
    | none, some _, [] => stop "must specify command with --chdir (-C)"
    | none, none, [] =>
      let end_ := if call.options.has '0' then '\x00' else '\n'
      let s := call.given s
      .over ((emitRows end_ s (givenVariables s)).withStatus 0)
    | none, dir, name :: more =>
      if call.options.has '0' then stop "cannot specify --null (-0) with command"
      else
        let failure := Quoting.always name
        let s := call.given s
        match dir.map fun dir => (dir, s.disk.kindOf (pathOf dir), s.disk.locate (pathOf dir)) with
        | none => .handing (name :: more) failure s
        | some (_, .ok .directory, .ok place) =>
          .handing (name :: more) failure { s with disk := { s.disk with here := place } }
        | some (dir, found, _) =>
          let reason :=
            match found with
            | .error fault => reasonOf fault
            | .ok _ => "Not a directory"
          .over (s.report Handover.cancelled
            ("cannot change directory to " ++ Quoting.always dir ++ ": " ++ reason))

/-! ### Other conditions -/

/-- Calls a command with less or more priority, which makes no difference to what it does. -/
def niceHandover (args : List Bytes) (s : State) : Handover :=
  let renewed := args.head?.toList.flatMap (fun arg =>
    match arg with
    | '-' :: c :: more =>
      if c.isDigit || (c == '-' || c == '+') && more.head?.any Char.isDigit then
        [['-', 'n'], c :: more]
      else [arg]
    | arg => [arg]) ++ args.tail
  Handover.withOptions Handover.cancelled
    { flags := "", valued := "n", names := [("adjustment", 'n')] } (fun call s =>
    match call.value? 'n', call.operands with
    | some value, command =>
      let digits := if value.head? == some '+' then value.drop 1 else value
      if (numberOf digits).isNone then
        .over (s.report Handover.cancelled ("invalid adjustment " ++ Quoting.plain value))
      else if command.isEmpty then
        .over (misused Handover.cancelled "a command must be given with an adjustment" s)
      else .handing command (Quoting.always (command.headD [])) s
    | none, [] => .over ((emitLines s [['0']]).withStatus 0)
    | none, command => .handing command (Quoting.always (command.headD [])) s) renewed s

/-- Calls a command that a signal of its own does not end. -/
def nohupHandover : List Bytes → State → Handover :=
  Handover.withOptions Handover.cancelled { flags := "", valued := "", names := [] } fun call s =>
    if call.operands.isEmpty then .over (misused Handover.cancelled "missing operand" s)
    else .handing call.operands (Handover.failureToRun call.operands) s

/-- Calls a command in a session of its own. -/
def setsidHandover : List Bytes → State → Handover :=
  Handover.withOptions 1
    { flags := "cfw"
      valued := ""
      names := [("ctty", 'c'), ("fork", 'f'), ("wait", 'w')] } fun call s =>
    if call.operands.isEmpty then .over (misused 1 "no command specified" s)
    else
      .handing call.operands ("failed to execute " ++ String.ofList (call.operands.headD [])) s

/-! ### Limits -/

/-- A limit for the time that a command takes: the moments at which signals are sent to it, and what
is made of that. -/
structure TimeLimit where
  /-- What the program that sets the limit is called. -/
  program : String
  /-- The name of the command. -/
  name : Bytes
  /-- The signals, with their moments. -/
  signals : List (Nat × Nat)
  /-- Each signal is announced. -/
  announces : Bool
  /-- The exit code is that of the command, also when a signal is sent to it. -/
  keepsStatus : Bool

namespace TimeLimit

/-- The exit code for a command that takes too long. -/
def exceeded : Nat := 124

/-- The signals of a duration: one behind its end, and the one that kills so much later. -/
def signalsAt (clock signal : Nat) : Duration → Option Duration → List (Nat × Nat)
  | .lasting 0, _ => []
  | .endless, _ => []
  | .lasting n, some (.lasting (k + 1)) =>
    [(clock + n + 1, signal), (clock + n + k + 2, killing)]
  | .lasting n, _ => [(clock + n + 1, signal)]

/-- The state in which the command is called. -/
def around (x : TimeLimit) (s : State) : State :=
  { s with limits := (s.limits ++ x.signals).mergeSort fun a b => a.1 ≤ b.1 }

/-- A signal that was sent at a moment is announced just before that. -/
def announced (x : TimeLimit) (s : State) (sent : Nat × Nat) : State :=
  let said := { s with program := x.program, clock := sent.1 - 1 }.report s.status
    ("sending signal " ++ String.ofList (signalName sent.2) ++ " to command "
      ++ Quoting.always x.name)
  { said with program := s.program, clock := s.clock }

/-- What is made of the state that the command leaves, with the limits that were there before. -/
def behind (x : TimeLimit) (limits : List (Nat × Nat)) (ran : State) : State :=
  let sent := x.signals.filter (·.1 ≤ ran.clock)
  let ran := { ran with limits := limits.filter (ran.clock < ·.1) }
  if sent.isEmpty then ran
  else
    let ran := if x.announces then sent.foldl x.announced ran else ran
    match ran.ended with
    | some (.expired signal) =>
      if signal == killing then { ran with ended := some (.signal signal) }
      else { ran with ended := some (.exit (if x.keepsStatus then 128 + signal else exceeded)) }
    | ended => if x.keepsStatus then { ran with ended := ended }
      else { ran with ended := some (.exit exceeded) }

end TimeLimit

/-- Calls a command that may take so much time. -/
def timeoutHandover : List Bytes → State → Handover :=
  Handover.withOptions Handover.cancelled
    { flags := "vfp"
      valued := "ks"
      names := [("kill-after", 'k'), ("signal", 's'), ("verbose", 'v'), ("foreground", 'f'),
        ("preserve-status", 'p')] } fun call s =>
    let times := (call.options.filter (·.1 == 'k')).map Prod.snd ++ call.operands.take 1
    let chosen := (call.options.filter (·.1 == 's')).map Prod.snd
    let isBad (time : Bytes) : Bool := (Duration.ofText? time).isNone
    match call.operands with
    | time :: name :: more =>
      match times.find? isBad, chosen.find? fun t => (signalNumber t).isNone with
      | _, some signal =>
        .over (misused Handover.cancelled (Quoting.plain signal ++ ": invalid signal") s)
      | some time, none =>
        .over (misused Handover.cancelled ("invalid time interval " ++ Quoting.plain time) s)
      | none, none =>
        let signal := ((call.value? 's').bind signalNumber).getD 15
        let later := (call.value? 'k').bind Duration.ofText?
        let x : TimeLimit := {
          program := s.program
          name := name
          signals := TimeLimit.signalsAt s.clock signal
            ((Duration.ofText? time).getD .endless) later
          announces := call.has 'v'
          keepsStatus := call.has 'p' }
        .watching (name :: more) (Handover.failureToRun (name :: more)) (x.around s)
          (x.behind s.limits)
    | _ =>
      .over (s.fail Handover.cancelled
        ("Try '" ++ s.program ++ " --help' for more information."))

/-- Calls a command whose streams are written out as soon as something is written to them. -/
def stdbufHandover : List Bytes → State → Handover :=
  Handover.withOptions Handover.cancelled
    { flags := ""
      valued := "ioe"
      names := [("input", 'i'), ("output", 'o'), ("error", 'e')] } fun call s =>
    let isMode (letter : Char) (text : Bytes) : Bool :=
      if text == ['L'] then letter != 'i' else !text.isEmpty && text.head?.any Char.isDigit
    match call.options.find? fun (letter, text) => !isMode letter text with
    | some ('i', ['L']) =>
      .over (misused Handover.cancelled "line buffering stdin is meaningless" s)
    | some (_, text) => .over (s.report Handover.cancelled ("invalid mode " ++ Quoting.plain text))
    | none =>
      if call.operands.isEmpty then .over (misused Handover.cancelled "missing operand" s)
      else if call.options.isEmpty then
        .over (misused Handover.cancelled "you must specify a buffering mode option" s)
      else .handing call.operands (Handover.failureToRun call.operands) s

/-- The programs that call the command behind their options. -/
def handovers : List (String × (List Bytes → State → Handover)) :=
  [("env", envHandover), ("nice", niceHandover), ("nohup", nohupHandover),
   ("setsid", setsidHandover), ("timeout", timeoutHandover), ("stdbuf", stdbufHandover)]

end MojoToolchain.Shell
