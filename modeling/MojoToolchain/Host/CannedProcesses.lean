import MojoToolchain.Host.Dialogue

/-!
# Processes with prepared outcomes

A response says how a command line ends.  `respond` prefers the response for the whole command
line to one for the beginning of it; a command line without a response succeeds silently.
-/

namespace MojoToolchain.Host

/-- How a process ends that is run with a command line. -/
structure Response where
  command : String
  outcome : Except Fault Output

/-- The output of a process that says nothing. -/
def silentOutput : Output := ⟨"", "", 0, true⟩

/-- The file name of a program, if it has one, and the arguments, with spaces between. -/
def Invocation.commandLine (call : Invocation) : String :=
  String.intercalate " " (String.ofList (call.program.fileName?.getD []) :: call.args)

/-- The command line starts with a text. -/
def Invocation.startsWith (call : Invocation) (text : String) : Bool :=
  text.toList.isPrefixOf call.commandLine.toList

/-- How a process ends. -/
def respond (responses : List Response) (call : Invocation) : Except Fault Output :=
  match responses.find? (·.command == call.commandLine) with
  | some response => response.outcome
  | none =>
    match responses.find? fun response => call.startsWith response.command with
    | some response => response.outcome
    | none => .ok silentOutput

theorem respond_nil (call : Invocation) :
  respond [] call = .ok silentOutput
  := rfl

end MojoToolchain.Host
