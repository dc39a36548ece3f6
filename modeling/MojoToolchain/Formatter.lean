import MojoToolchain.Host.TextFile
import MojoToolchain.Sdk.Basic
import MojoToolchain.Settings.Basic
import MojoToolchain.Text.Blank
import MojoToolchain.ToolError

/-!
# The formatter

The formatter reads a source and writes the formatted text.  `Formatter.formatText` runs it,
`Formatter.formatFile` writes the result back to the file, and `Formatter.changes` only says
whether the result would differ from the source.
-/

namespace MojoToolchain

open Host (Dialogue Invocation PipeFault PipedOutput Variables)

/-- A formatter and how it is run. -/
structure Formatter where
  command : Path
  env : Variables
  lineLength : UInt32
  deriving DecidableEq, Repr

namespace Formatter

/-- The formatter at a path. -/
def atPath (command : Path) : Formatter := ⟨command, [], defaultLineLength⟩

/-- The formatter of an SDK. -/
def ofSdk (sdk : Sdk) (telemetry : Bool) : Formatter :=
  ⟨sdk.tools.formatter, sdk.environment telemetry, defaultLineLength⟩

/-- The arguments with which the formatter reads a source and writes the result. -/
def args (f : Formatter) : List String :=
  ["--fast", "--preview", "--quiet", "-t", "mojo", "-l", toString f.lineLength, "-"]

/-- The run of the formatter. -/
def invocation (f : Formatter) : Invocation := ⟨f.command, f.args, f.env⟩

/-- What the end of a run means: the formatted text if there is a run to its end and the formatter
succeeds, takes the whole source and writes a text; the first of these that is not so is the
error. -/
def conclude (f : Formatter) : Except PipeFault PipedOutput → Except ToolError String
  | .error (.start fault) => .error (.spawn f.command fault)
  | .error (.wait fault) => .error (.io fault)
  | .error (.input reason) => .error (.format (.input reason))
  | .ok output =>
    if output.exitCode != some 0 then
      .error (.format (.failed f.command output.exitCode
        (Text.trimString (Text.decodeLossy output.stderr))))
    else
      match output.undelivered, Text.decode output.stdout with
      | some fault, _ => .error (.io fault)
      | none, .error fault => .error (.format (.notText fault))
      | none, .ok text => .ok text

/-- The formatted text of a source. -/
def formatText (f : Formatter) (source : String) : Dialogue (Except ToolError String) := do
  return f.conclude (← Dialogue.question (.pipe f.invocation source))

/-- The text of a file, and the formatted text. -/
def formatted (f : Formatter) (file : Path) : Dialogue (Except ToolError (String × String)) := do
  match ← Dialogue.readText file with
  | .error fault => return .error (.io fault)
  | .ok source =>
    match ← f.formatText source with
    | .error e => return .error e
    | .ok text => return .ok (source, text)

/-- Formatting would change a source. -/
def changes (f : Formatter) (source : String) : Dialogue (Except ToolError Bool) := do
  match ← f.formatText source with
  | .error e => return .error e
  | .ok text => return .ok (text != source)

/-- Formats a file in place; it is written only if that changes it.  The answer says whether it
does. -/
def formatFile (f : Formatter) (file : Path) : Dialogue (Except ToolError Bool) := do
  match ← f.formatted file with
  | .error e => return .error e
  | .ok (source, text) =>
    if text == source then return .ok false
    match ← Dialogue.question (.write file text) with
    | .error fault => return .error (.io fault)
    | .ok () => return .ok true

end Formatter

end MojoToolchain
