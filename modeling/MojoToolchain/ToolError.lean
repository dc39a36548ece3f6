import MojoToolchain.Host.Fault
import MojoToolchain.Path.Basic
import MojoToolchain.Text.Utf8

/-!
# Why a tool fails
-/

namespace MojoToolchain

/-- What is wrong with the way in which the formatter ended. -/
inductive FormatFault where
  /-- It failed, with an exit code unless a signal ended it, and said why. -/
  | failed (command : Path) (exitCode : Option Nat) (reason : String)
  /-- The task that gives it the source is no more. -/
  | input (reason : String)
  /-- Its output is no text. -/
  | notText (fault : Text.Utf8Fault)
  deriving DecidableEq, Repr

/-- The wording of an exit code that may be missing. -/
def exitCodeText : Option Nat → String
  | some code => "Some(" ++ toString code ++ ")"
  | none => "None"

/-- The wording of a fault. -/
def FormatFault.message : FormatFault → String
  | failed command exitCode reason =>
    command.text ++ " failed with exit code " ++ exitCodeText exitCode ++ ": " ++ reason
  | input reason => "formatter input task failed: " ++ reason
  | notText fault => "formatter output is not UTF-8: " ++ fault.message

/-- Why a tool of the SDK does not do its work. -/
inductive ToolError where
  /-- There is no SDK; the user has been told. -/
  | noSdk
  /-- The tool does not start. -/
  | spawn (command : Path) (fault : Host.Fault)
  | format (fault : FormatFault)
  /-- A file cannot be read or written, the end of the tool cannot be waited for, or the tool does
  not read its input. -/
  | io (fault : Host.Fault)
  deriving DecidableEq, Repr

namespace ToolError

/-- The wording of an error. -/
def message : ToolError → String
  | noSdk => "No Mojo SDK is available"
  | spawn command fault => "Failed to start " ++ command.text ++ ": " ++ fault.message
  | format fault => "Formatting failed: " ++ fault.message
  | io fault => "IO error: " ++ fault.message

/-- What lies under an error. -/
def causes : ToolError → List String
  | spawn _ fault => [fault.message]
  | io fault => [fault.message]
  | _ => []

end ToolError

end MojoToolchain
