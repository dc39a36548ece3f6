import MojoToolchain.Json.Value
import MojoToolchain.Path.Basic
import MojoToolchain.Text.Substring

/-!
# Launch configurations

A `Configuration` says what to debug and how.  Every field may be unset; members that this
library does not know are kept in `extra`.  `substitute` writes the active file for its
placeholder.
-/

namespace MojoToolchain.Debug

/-- Whether a program is started or a running one is attached to. -/
inductive Request where
  | launch
  | attach
  deriving DecidableEq, Repr

/-- The name of a request. -/
def Request.name : Request → String
  | launch => "launch"
  | attach => "attach"

/-- A launch configuration. -/
structure Configuration where
  type : Option String
  request : Option Request
  name : Option String
  /-- The process to attach to. -/
  pid : Option UInt32
  /-- The source file to run under the debugger. -/
  mojoFile : Option String
  program : Option String
  args : Option (List String)
  /-- Arguments for building the source file. -/
  buildArgs : Option (List String)
  /-- Variables, each as `NAME=value`. -/
  env : Option (List String)
  cwd : Option String
  stopOnEntry : Option Bool
  initCommands : Option (List String)
  customFrameFormat : Option String
  enableSyntheticChildDebugging : Option Bool
  enableAutoVariableSummaries : Option Bool
  commandEscapePrefix : Option String
  /-- The seconds that the debugger may take to start. -/
  timeout : Option UInt64
  debuggerPath : Option String
  debugAdapterPath : Option String
  /-- The members that are not known, in ascending order of keys. -/
  extra : Json.Members
  deriving Inhabited

namespace Configuration

/-- Nothing is set. -/
def unset : Configuration where
  type := none
  request := none
  name := none
  pid := none
  mojoFile := none
  program := none
  args := none
  buildArgs := none
  env := none
  cwd := none
  stopOnEntry := none
  initCommands := none
  customFrameFormat := none
  enableSyntheticChildDebugging := none
  enableAutoVariableSummaries := none
  commandEscapePrefix := none
  timeout := none
  debuggerPath := none
  debugAdapterPath := none
  extra := []

/-- The configuration attaches to a running process. -/
def isAttach (c : Configuration) : Bool := c.pid.isSome || c.request == some .attach

/-! ### The active file -/

/-- What stands for the file in the active editor. -/
def activeFile : String := "$\x7bfile\x7d"

/-- The configuration with its paths and its lists of texts changed. -/
def mapTexts (f : String → String) (c : Configuration) : Configuration :=
  { c with
    mojoFile := c.mojoFile.map f
    program := c.program.map f
    cwd := c.cwd.map f
    args := c.args.map (List.map f)
    env := c.env.map (List.map f)
    buildArgs := c.buildArgs.map (List.map f)
    initCommands := c.initCommands.map (List.map f) }

/-- Writes a file for every occurrence of the placeholder. -/
def substitute (file : String) (c : Configuration) : Configuration :=
  c.mapTexts (Text.replaceAllString activeFile file)

/-- The configuration asks for the active file to be run. -/
def runsActiveFile (c : Configuration) : Bool :=
  c.mojoFile.any (Text.containsString activeFile)

/-! ### Defaults -/

/-- The type of a configuration for the SDK's own debugger. -/
def ownType : String := "mojo-lldb"

/-- The configuration that runs the active file. -/
def forActiveFile : Configuration :=
  { unset with
    type := some ownType
    request := some .launch
    name := some "Mojo: Debug current Mojo file"
    mojoFile := some activeFile }

/-- A configuration that asks for nothing becomes the one that runs the active file; it keeps
the members that are not known. -/
def orActiveFile (c : Configuration) : Configuration :=
  if c.request.isNone then { forActiveFile with extra := c.extra } else c

theorem orActiveFile_of_isSome {c : Configuration} (h : c.request.isSome) :
  c.orActiveFile = c
  := by
  cases hr : c.request <;> simp_all [orActiveFile]

end Configuration

/-! ### Source files -/

/-- The extensions of source files. -/
def sourceExtensions : List String := ["mojo", "🔥"]

/-- A path has the extension of a source file. -/
def isSource (file : String) : Bool :=
  match (Path.mk file).extension? with
  | some extension => sourceExtensions.contains (String.ofList extension)
  | none => false

/-- The flags that make a program debuggable. -/
def runFlags : List String := ["run", "--no-optimization", "--debug-level", "full"]

/-- The arguments with which the runtime runs a source file under a debugger. -/
def runArguments (file : String) (buildArgs programArgs : List String) : List String :=
  runFlags ++ buildArgs ++ file :: programArgs

/-- A variable of the form `NAME=value` as its name and its value, which is empty when there is
no `=`. -/
def splitVariable (entry : String) : String × String :=
  match Text.splitAtFirst '=' entry.toList with
  | some (name, value) => (String.ofList name, String.ofList value)
  | none => (entry, "")

end MojoToolchain.Debug
