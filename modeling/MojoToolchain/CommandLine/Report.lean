import MojoToolchain.Debug.LaunchFile
import MojoToolchain.Json.Printer
import MojoToolchain.Settings.Text
import MojoToolchain.ToolError

/-!
# What the program writes

A command ends with a value, which is written to the standard output, or fails.  What the user is
told on the way, and why the command fails, is written to the standard error stream.
-/

namespace MojoToolchain.CommandLine

/-- Why a command fails. -/
inductive Failure where
  | settings (failure : Settings.Failure)
  /-- The command needs an SDK; the user has been told why there is none. -/
  | noSdk
  | launchFileUnreadable (file : Path) (fault : Host.Fault)
  | launchFile (failure : Debug.LaunchFile.Failure)
  /-- The configuration runs the active file, and there is none. -/
  | noActiveFile
  /-- The configuration cannot be completed; the user has been told why. -/
  | notCompleted
  /-- The configuration cannot be turned into one for an adapter; the user has been told why. -/
  | notAdapted
  /-- The language server does not handle a file. -/
  | notHandled (file : Path)
  /-- The file to be checked cannot be read. -/
  | sourceUnreadable (fault : Host.Fault)
  | tool (error : ToolError)
  deriving DecidableEq, Repr

namespace Failure

/-- The wording of a failure. -/
def message : Failure → String
  | settings failure => failure.message
  | noSdk => "no usable Mojo SDK found"
  | launchFileUnreadable file _ => "failed to read " ++ file.text
  | launchFile failure => failure.message
  | noActiveFile => "the configuration debugs " ++ Debug.Configuration.activeFile ++ "; pass --file"
  | notCompleted => "could not resolve the debug configuration"
  | notAdapted => "could not translate the debug configuration"
  | notHandled file => file.text ++ " is not a Mojo source file"
  | sourceUnreadable fault => fault.message
  | tool error => error.message

/-- What lies under a failure. -/
def causes : Failure → List String
  | settings failure => [failure.cause]
  | launchFileUnreadable _ fault => [fault.message]
  | launchFile failure => failure.causes
  | tool error => error.causes
  | _ => []

end Failure

/-! ### Writing a failure -/

/-- A text whose lines after the first one are indented. -/
def indentAfter (width : Nat) (text : String) : String :=
  String.ofList (text.toList.flatMap fun c =>
    if c == '\n' then '\n' :: List.replicate width ' ' else [c])

/-- A number at the right end of some columns. -/
def rightAligned (width n : Nat) : String :=
  let digits := Nat.toDigits 10 n
  String.ofList (List.replicate (width - digits.length) ' ' ++ digits)

/-- The lines for what lies under a failure; several causes are numbered. -/
def causeLines : List String → List String
  | [] => []
  | [cause] => ["", "Caused by:", "    " ++ indentAfter 4 cause]
  | causes =>
    "" :: "Caused by:" :: causes.mapIdx fun i cause =>
      rightAligned 5 i ++ ": " ++ indentAfter 7 cause

/-- The lines for a failure. -/
def Failure.lines (f : Failure) : List String := ("Error: " ++ f.message) :: causeLines f.causes

/-- The line for what the user is told. -/
def messageLine (message : String) : String := "error: " ++ message

/-- Lines as one text. -/
def textOfLines (lines : List String) : String := String.join (lines.map (· ++ "\n"))

/-! ### Endings -/

/-- What a command shows in the end. -/
structure Display where
  value : Json
  /-- The command is content; a check that finds something is not. -/
  content : Bool

/-- How a command ends. -/
structure Ending where
  /-- What the user is told. -/
  messages : List String
  result : Except Failure Display

namespace Ending

/-- A command fails without more words. -/
def fail (failure : Failure) : Ending := ⟨[], .error failure⟩

/-- A command shows a value. -/
def display (value : Json) : Ending := ⟨[], .ok ⟨value, true⟩⟩

/-- A command ends, and before that the user is told something. -/
def after (messages : List String) (ending : Ending) : Ending :=
  { ending with messages := messages ++ ending.messages }

end Ending

/-- What the program leaves: its status and what it has written. -/
structure Report where
  status : UInt32
  output : String
  errors : String
  deriving DecidableEq, Repr

/-- What the program leaves when a command ends. -/
def Ending.report (e : Ending) : Report :=
  let told := e.messages.map messageLine
  match e.result with
  | .ok shown =>
    ⟨if shown.content then 0 else 1, shown.value.prettyString ++ "\n", textOfLines told⟩
  | .error failure => ⟨1, "", textOfLines (told ++ failure.lines)⟩

/-- A command that fails shows nothing. -/
theorem report_output_of_error {e : Ending} {f : Failure} (h : e.result = .error f) :
  e.report.output = ""
  := by
  simp [Ending.report, h]

end MojoToolchain.CommandLine
