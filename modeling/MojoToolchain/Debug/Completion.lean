import MojoToolchain.Debug.FileLaunch
import MojoToolchain.Host.Dialogue
import MojoToolchain.Settings.Basic

/-!
# Complete configurations

`Configuration.complete` makes a configuration that the SDK's own debugger can be started with.
What the configuration sets is kept; a source file to run becomes a program and its arguments;
the commands and variables that the SDK needs come before those of the configuration.
-/

namespace MojoToolchain.Debug

open Host (Dialogue Invocation)

/-! ### What the SDK adds -/

/-- How a stack frame is shown. -/
def frameFormat : String :=
  "frame #$\x7bframe.index\x7d: $\x7bframe.pc\x7d\x7b $\x7bmodule.file.basename\x7d\x7b`"
    ++ "$\x7bfunction.name-with-args\x7d\x7d\x7d\x7b at $\x7bline.file.basename\x7d:"
    ++ "$\x7bline.number\x7d\x7d\n"

/-- What marks a command for the debugger in the debug console. -/
def commandEscape : String := ":"

/-- The variable for the time that the debugger may take to start. -/
def timeoutVariable : String := "LLDB_VSCODE_RIT_TIMEOUT_IN_MS"

/-- The commands that come before all others. -/
def firstCommands (sdk : Sdk) : List String :=
  ["plugin load " ++ sdk.tools.debugPlugin.text,
   "settings set target.show-hex-variable-values-with-leading-zeroes false",
   "settings set target.process.optimization-warnings false",
   "mojo telemetry session-start"]

/-- Seconds as milliseconds, or the greatest number of 64 bits if that is too small. -/
def milliseconds (seconds : UInt64) : Nat := min (1000 * seconds.toNat) (UInt64.size - 1)

/-- The variables that come before those of the configuration. -/
def firstVariables (sdk : Sdk) (telemetry : Bool) (timeout : UInt64) : List String :=
  (timeoutVariable ++ "=" ++ toString (milliseconds timeout))
    :: (sdk.environment telemetry).map fun (name, value) => name ++ "=" ++ value

/-! ### Scripting -/

/-- The question to the debugger whether it can run scripts: it adds two numbers. -/
def scriptingProbe (sdk : Sdk) : Invocation :=
  ⟨sdk.tools.debugger, ["-b", "-o", "script print(100+1)"], sdk.environment false⟩

/-- The debugger can run scripts; it is asked unless the answer is known. -/
def supportsScripting (sdk : Sdk) : Option Bool → Dialogue Bool
  | some known => pure known
  | none => do
    match ← Dialogue.question (.run (scriptingProbe sdk)) with
    | .ok output => return Text.containsString "101" output.combined
    | .error _ => return false

/-- The commands that import the visualizers, in ascending order of paths or as they are
listed. -/
def visualizerCommands (sdk : Sdk) (sorted : Bool) : Dialogue (List String) := do
  match ← Dialogue.question (.list sdk.tools.visualizersDir) with
  | .error _ => return []
  | .ok entries =>
    let ordered := if sorted then entries.mergeSort Path.le else entries
    return ordered.map fun entry => "command script import " ++ entry.text

/-! ### Completing a configuration -/

namespace Configuration

/-- Runs the source file of a configuration with the runtime. -/
def runFile (sdk : Sdk) (file : String) (c : Configuration) : Configuration :=
  { c with
    args := some (runArguments file (c.buildArgs.getD []) (c.args.getD []))
    program := some sdk.tools.runtime.text }

/-- The configuration with its request: one that does not attach launches the file or program
unless it says otherwise. -/
def withRequest (sdk : Sdk) (c : Configuration) : Except DebugError Configuration :=
  if c.isAttach then .ok { c with request := some .attach }
  else
    match c.mojoFile with
    | none => .ok { c with request := some (c.request.getD .launch) }
    | some file => do
      checkFileLaunch sdk file
      return { c.runFile sdk file with request := some (c.request.getD .launch) }

/-- Sets what is unset, and puts the commands and variables of the SDK before those of the
configuration and the visualizers behind them. -/
def fill (options : NormalizerOptions) (sdk : Sdk) (visualizers : List String)
    (c : Configuration) : Configuration :=
  let timeout := c.timeout.getD options.initTimeoutSecs
  { c with
    type := some (c.type.getD ownType)
    customFrameFormat := some (c.customFrameFormat.getD frameFormat)
    enableSyntheticChildDebugging := some (c.enableSyntheticChildDebugging.getD true)
    enableAutoVariableSummaries := some (c.enableAutoVariableSummaries.getD true)
    commandEscapePrefix := some (c.commandEscapePrefix.getD commandEscape)
    timeout := some timeout
    initCommands := some (firstCommands sdk ++ c.initCommands.getD [] ++ visualizers)
    env := some (firstVariables sdk options.telemetry timeout ++ c.env.getD [])
    debuggerPath := some (c.debuggerPath.getD sdk.tools.debugger.text)
    debugAdapterPath := some sdk.tools.debugAdapter.text }

/-- Completes a configuration.  `known` is what is known about scripting; the second part of the
result is what is known after. -/
def complete (options : NormalizerOptions) (sdk : Sdk) (known : Option Bool) (c : Configuration) :
    Dialogue (Except DebugError Configuration × Option Bool) := do
  match c.withRequest sdk with
  | .error e => return (.error e, known)
  | .ok c =>
    let scripting ← supportsScripting sdk known
    let visualizers ←
      if scripting then visualizerCommands sdk options.sortVisualizers else pure []
    return (.ok (c.fill options sdk visualizers), some scripting)

theorem withRequest_of_isAttach {c : Configuration} (h : c.isAttach) (sdk : Sdk) :
  c.withRequest sdk = .ok { c with request := some .attach }
  := by
  simp [withRequest, h]

end Configuration

end MojoToolchain.Debug
