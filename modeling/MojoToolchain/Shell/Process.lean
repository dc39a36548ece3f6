import MojoToolchain.Shell.Run

/-!
# Processes

`start` finds a program and runs it to its end, with arguments, variables and an input.
-/

namespace MojoToolchain.Shell

open Host (Disk Fault Invocation Output PipedOutput Variables)

/-- The state in which a program starts. -/
def startState (disk : Disk) (vars : Variables) (input : Bytes) : State where
  name := []
  program := ""
  args := []
  vars := vars.map fun (n, v) => (ofText n, ofText v)
  exported := vars.map fun (n, _) => ofText n
  fixed := []
  doing := ""
  functions := []
  aliases := []
  saved := []
  status := 0
  input := input
  rewinds := false
  sources := []
  output := []
  errors := []
  pipes := []
  sinks := [(1, .output), (2, .errors)]
  lost := none
  disk := disk
  line := 1
  loops := 0
  inFunction := false
  depth := 0
  mask := 0o022
  options := []
  sheltered := false
  clock := 0
  limits := []
  writer := 0
  isPart := false
  started := 0
  background := none
  jobs := []
  notices := []
  traps := []
  pending := []
  optionPlace := 0
  ended := none

/-- The fault of a text that cannot be passed to an operating system. -/
def nulInData : Fault := .because "nul byte found in provided data"

/-- A text cannot be passed to an operating system. -/
def holdsNul (text : String) : Bool := text.toList.contains '\x00'

/-- The program that is called, among those of a disk.  A search path of its own is searched by
the new process, which gives files that name no interpreter to the shell. -/
def programOf (disk : Disk) (vars : Variables) (call : Invocation) : Except Fault Program :=
  if holdsNul call.program.text || call.args.any holdsNul
      || call.env.any (fun (n, v) => holdsNul n || holdsNul v) then .error nulInData
  else
    let given := call.env.lookup "PATH"
    let searchPath := ((given <|> vars.lookup "PATH").map ofText).getD usualPath
    findProgram disk searchPath (given.isSome && !call.program.chars.contains '/')
      (ofText call.program.text) (call.args.map ofText)

/-- Starts a program with variables and an input; what it leaves when it has ended. -/
def start (disk : Disk) (vars : Variables) (call : Invocation) (input : Bytes) :
    Except Fault State := do
  let program ← programOf disk vars call
  let own := vars.filter fun (n, _) => !call.env.any (·.1 == n)
  let all := own ++ call.env
  let path := if all.any (·.1 == "PATH") then [] else [("PATH", String.ofList usualPath)]
  let ran := execute depthOfScripts program (startState disk (all ++ path) input)
  .ok { ran with ended := some (ran.ended.getD (.exit ran.status)) }

/-- The exit code of a process; there is none when a signal ended it. -/
def exitCodeOf (s : State) : Option Nat :=
  match s.ended with
  | some (.exit code) => some code
  | _ => none

/-- How many bytes can be written to a process that does not read them. -/
def pipeHolds : Nat := 65536

/-- What a process leaves that was given an input. -/
def pipedOutput (s : State) : PipedOutput where
  stdout := toByteArray s.outputText
  stderr := toByteArray s.errorText
  exitCode := exitCodeOf s
  undelivered := if pipeHolds < s.input.length then some .brokenPipe else none

/-- What a process leaves. -/
def outputOf (s : State) : Output :=
  let code := exitCodeOf s
  { stdout := Text.decodeLossy (toByteArray s.outputText)
    stderr := Text.decodeLossy (toByteArray s.errorText)
    exitCode := (code.map Int.ofNat).getD (-1)
    success := code == some 0 }

end MojoToolchain.Shell
