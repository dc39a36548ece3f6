import MojoToolchain.CommandLine.Call
import MojoToolchain.CommandLine.Report
import MojoToolchain.CommandLine.Terminal
import MojoToolchain.Debug.Provider
import MojoToolchain.Formatter
import MojoToolchain.Path.Resolution
import MojoToolchain.Sdk.Lookup
import MojoToolchain.Sdk.Written
import MojoToolchain.Server.Written
import MojoToolchain.Settings.Load

/-!
# Running commands

`Request.run` is what a command line comes to, as a dialogue with the host.  The commands share a
`Scene`: the directory that is the workspace, the settings and the terminal.
-/

namespace MojoToolchain.CommandLine

open Debug (Configuration CompanionConfiguration LaunchFile.parse Outcome)
open Host (Dialogue Variables)

/-- What the program finds where it is started. -/
structure Surroundings where
  /-- The current directory. -/
  directory : Path
  /-- The values of variables. -/
  valueOf : String → Option String

/-- What the commands share. -/
structure Scene where
  cwd : Path
  settings : Settings
  terminal : Terminal
  deriving DecidableEq, Repr

namespace Scene

/-- A path that is named on the command line. -/
def locate (s : Scene) (path : Path) : Path := path.absolutize s.cwd

/-- The SDK, and what the user is told. -/
def lookUp (s : Scene) : Dialogue (Option Sdk × List String) := Sdk.lookUp.run s.terminal.ask

/-- Goes on with the SDK, or fails without one. -/
def withSdk (s : Scene) (failure : Failure) (next : Sdk → Dialogue Ending) : Dialogue Ending := do
  let (sdk, messages) ← s.lookUp
  match sdk with
  | none => return (Ending.fail failure).after messages
  | some sdk => return (← next sdk).after messages

end Scene

/-! ### The SDK and its variables -/

/-- Shows the SDK. -/
def showSdk (s : Scene) : Dialogue Ending :=
  s.withSdk .noSdk fun sdk => pure (.display sdk.json)

/-- Variables as a value. -/
def variablesJson (vars : Variables) : Json :=
  .object (vars.map fun (name, value) => (name, .string value))

/-- Shows the variables that the tools of the SDK get. -/
def showVariables (s : Scene) : Dialogue Ending :=
  s.withSdk .noSdk fun sdk =>
    pure (.display (variablesJson (sdk.environment s.settings.telemetryOn)))

/-! ### Debug configurations -/

/-- The configuration in a launch file; without a file, nothing is set. -/
def readConfiguration (s : Scene) (launchFile : Option Path) (name : Option String) :
    Dialogue (Except Failure Configuration) := do
  match launchFile.map s.locate with
  | none => return .ok .unset
  | some file =>
    match ← Dialogue.readText file with
    | .error fault => return .error (.launchFileUnreadable file fault)
    | .ok text =>
      match LaunchFile.parse text name with
      | .error failure => return .error (.launchFile failure)
      | .ok c => return .ok c

/-- The configuration with a file in place of the placeholder for the active file.  A
configuration that runs the active file needs one. -/
def placeFile (c : Configuration) : Option Path → Except Failure Configuration
  | some file => .ok (c.substitute file.text)
  | none => if c.runsActiveFile then .error .noActiveFile else .ok c

/-- The configuration that is asked for, before the SDK is looked for. -/
def prepareConfiguration (s : Scene) (launchFile : Option Path) (name file : Option String) :
    Dialogue (Except Failure Configuration) := do
  match ← readConfiguration s launchFile name with
  | .error failure => return .error failure
  | .ok c => return placeFile c.orActiveFile (file.map fun f => s.locate ⟨f⟩)

/-- Shows what a request for a configuration gives, or fails. -/
def endingOf (failure : Failure) (members : α → Json.Members) (outcome : Outcome α) : Ending :=
  let ending : Ending :=
    match outcome.result? with
    | some c => .display (.object (members c))
    | none => .fail failure
  ending.after outcome.messages

/-- Shows the configuration for the debugger of the SDK. -/
def showConfiguration (s : Scene) (c : Configuration) : Dialogue Ending := do
  let (sdk, messages) ← s.lookUp
  let (outcome, _) ← Debug.provide s.settings.normalizerOptions sdk none c
  return (endingOf .notCompleted Configuration.members outcome).after messages

/-- Shows the configuration for the companion debugger, whose extension is looked for before the
SDK. -/
def showCompanion (s : Scene) (c : Configuration) : Dialogue Ending := do
  match Debug.checkCompanion (Terminal.isInstalled s.settings.installedExtensions) with
  | .error e => return endingOf .notAdapted CompanionConfiguration.members (.refused e)
  | .ok () =>
    let (sdk, messages) ← s.lookUp
    return (endingOf .notAdapted CompanionConfiguration.members
      (Debug.provideCompanion sdk c.orActiveFile)).after messages

/-- Shows a configuration for a debugger. -/
def debugConfig (s : Scene) (backend : Backend) (launchFile : Option Path)
    (name file : Option String) : Dialogue Ending := do
  match ← prepareConfiguration s launchFile name file with
  | .error failure => return .fail failure
  | .ok c =>
    match backend with
    | .lldb => showConfiguration s c
    | .gdb => showCompanion s c

/-! ### The language server -/

/-- The members of a launch, with the root of a project. -/
def launchMembers (launch : ServerLaunch) (root : Option Path) : Json.Members :=
  launch.members ++ Json.memberOf "workspaceRoot" root fun path => .string path.text

/-- Shows how the language server is started, and the root of the project of a file that it
handles. -/
def showLaunch (s : Scene) (file : Option Path) : Dialogue Ending :=
  s.withSdk (.tool .noSdk) fun sdk => do
    let options := s.settings.supervisorOptions
    let launch := ServerLaunch.ofSdk sdk options.telemetry options.extraArgs
    match file.map s.locate with
    | none => return .display (.object (launchMembers launch none))
    | some file =>
      if launch.handlesFile file then
        let root ← launch.findRoot file
        return .display (.object (launchMembers launch root))
      else return .fail (.notHandled file)

/-! ### Formatting -/

/-- Says whether formatting changes a file, or would change it. -/
def formatDisplay (file : Path) (changed content : Bool) : Ending :=
  ⟨[], .ok ⟨.object [("file", .string file.text), ("changed", .bool changed)], content⟩⟩

/-- Checks whether formatting would change a file. -/
def checkFormat (formatter : Formatter) (file : Path) : Dialogue Ending := do
  match ← Dialogue.readText file with
  | .error fault => return .fail (.sourceUnreadable fault)
  | .ok source =>
    match ← formatter.changes source with
    | .error e => return .fail (.tool e)
    | .ok changed => return formatDisplay file changed (!changed)

/-- Formats a file. -/
def applyFormat (formatter : Formatter) (file : Path) : Dialogue Ending := do
  match ← formatter.formatFile file with
  | .error e => return .fail (.tool e)
  | .ok changed => return formatDisplay file changed true

/-- Formats a file, or checks whether that would change it. -/
def format (s : Scene) (file : Path) (lineLength : Option UInt32) (check : Bool) :
    Dialogue Ending :=
  s.withSdk .noSdk fun sdk =>
    let formatter :=
      { Formatter.ofSdk sdk s.settings.telemetryOn with
        lineLength := lineLength.getD s.settings.lineLength }
    if check then checkFormat formatter (s.locate file) else applyFormat formatter (s.locate file)

/-! ### Calls -/

/-- Runs a command. -/
def Command.run (s : Scene) : Command → Dialogue Ending
  | resolve => showSdk s
  | env => showVariables s
  | debugConfig backend launchFile name file =>
    CommandLine.debugConfig s backend launchFile name file
  | lspCommand file => showLaunch s file
  | format file lineLength check => CommandLine.format s file lineLength check
  | settings => pure (.display s.settings.json)

/-- The log file of a call: the one that is named, or that of the user if the call is verbose. -/
def Call.log? (call : Call) (around : Surroundings) : Option Path :=
  call.logFile <|> if call.verbose then Settings.userLog around.valueOf else none

/-- The directory that is the workspace of a call. -/
def Call.workspace (call : Call) (around : Surroundings) : Path :=
  match call.cwd with
  | some dir => dir.absolutize around.directory
  | none => around.directory

/-- The scene of a call. -/
def Call.scene (call : Call) (around : Surroundings) (settings : Settings) : Scene :=
  let cwd := call.workspace around
  let named := (call.environment <|> settings.environmentPrefix).map fun p => p.absolutize cwd
  ⟨cwd, settings, ⟨cwd, Terminal.detectEnvironment named around.valueOf⟩⟩

/-- Opens a log file, if there is one. -/
def openLog : Option Path → Dialogue Unit
  | some file => Dialogue.question (.openLog file)
  | none => pure ()

/-- Runs a call. -/
def Call.run (call : Call) (around : Surroundings) : Dialogue Ending := do
  match ← Settings.load (Settings.userDir around.valueOf) (some (call.workspace around)) with
  | .error failure => return .fail (.settings failure)
  | .ok (settings, _) =>
    openLog (call.log? around)
    call.command.run (call.scene around settings)

/-! ### Requests -/

/-- The program and its version. -/
def versionText : String := "mojo-bridge 0.1.2\n"

/-- How the program is used. -/
def usageText : String :=
  "Usage: mojo-bridge [OPTIONS] <COMMAND>\n\n"
    ++ "Commands: resolve, env, debug-config, lsp-command, format, settings, help\n\n"
    ++ "Options: --verbose, --env-prefix <PATH>, --cwd <PATH>, --log-file <PATH>, --help, "
    ++ "--version\n"

/-- What a request comes to. -/
def Request.run (around : Surroundings) : Request → Dialogue Report
  | call c => return (← c.run around).report
  | version => pure ⟨0, versionText, ""⟩
  | help => pure ⟨0, usageText, ""⟩
  | misuse => pure ⟨2, "", usageText⟩

/-- What a command line comes to. -/
def run (around : Surroundings) (args : List String) : Dialogue Report :=
  (Request.ofArguments args).run around

theorem run_of_misuse {args : List String} (h : Request.ofArguments args = .misuse)
    (around : Surroundings) :
  run around args = pure ⟨2, "", usageText⟩
  := by
  rw [run, h]
  rfl

end MojoToolchain.CommandLine
