import MojoToolchain.Debug.FileLaunch
import MojoToolchain.Text.Words

/-!
# Configurations for the companion debugger

The companion debugger comes with an editor extension.  It takes its arguments as one quoted
text and its variables as records of name and value; `toCompanion` writes a configuration in its
terms.
-/

namespace MojoToolchain.Debug

open Json (memberOf)

/-- A configuration for the companion debugger. -/
structure CompanionConfiguration where
  type : String
  request : Request
  name : Option String
  program : Option String
  /-- All arguments in one quoted text. -/
  args : Option String
  cwd : Option String
  stopAtEntry : Option Bool
  processId : Option UInt32
  /-- Variables by name and value. -/
  environment : List (String × String)
  miMode : String
  /-- The members that are not known, in ascending order of keys. -/
  extra : Json.Members

namespace CompanionConfiguration

/-- The type of a configuration for the companion debugger. -/
def ownType : String := "cppdbg"

/-- The debugger that the companion runs. -/
def gdb : String := "gdb"

/-- The editor extension of the companion debugger. -/
def extension : String := "ms-vscode.cpptools"

/-! ### Writing -/

/-- A variable as a value. -/
def variableJson : String × String → Json
  | (name, value) => .object [("name", .string name), ("value", .string value)]

/-- The members of a configuration: the known ones that are set, and then the others. -/
def members (c : CompanionConfiguration) : Json.Members :=
  [("type", .string c.type), ("request", .string c.request.name)]
    ++ memberOf "name" c.name .string
    ++ memberOf "program" c.program .string
    ++ memberOf "args" c.args .string
    ++ memberOf "cwd" c.cwd .string
    ++ memberOf "stopAtEntry" c.stopAtEntry .bool
    ++ memberOf "processId" c.processId (fun n => .natural n.toNat)
    ++ [("environment", .array (c.environment.map variableJson)), ("MIMode", .string c.miMode)]
    ++ c.extra

/-- A configuration as a value; it may have a key twice, when a member that is not known has the
key of one that is. -/
def json (c : CompanionConfiguration) : Json := .object c.members

end CompanionConfiguration

/-! ### From one form to the other -/

namespace Configuration

/-- What a configuration asks for: an attach if it attaches, and otherwise a launch unless it
says so itself. -/
def requestOf (c : Configuration) : Request :=
  if c.isAttach then .attach else c.request.getD .launch

/-- The program of a configuration and its arguments; a source file to launch runs with the
runtime, without arguments for building it. -/
def programOf (sdk : Sdk) (c : Configuration) :
    Except DebugError (Option String × Option (List String)) :=
  match c.mojoFile, c.requestOf with
  | some file, .launch => do
    checkFileLaunch sdk file
    return (some sdk.tools.runtime.text, some (runArguments file [] (c.args.getD [])))
  | _, _ => .ok (c.program, c.args)

/-- Arguments as one quoted text. -/
def quoteArguments : Option (List String) → Except DebugError (Option String)
  | none => .ok none
  | some args =>
    match Words.join args with
    | .ok text => .ok (some text)
    | .error argument => .error (.unquotableArgument argument)

/-- The configuration in the terms of the companion debugger. -/
def toCompanion (sdk : Sdk) (c : Configuration) : Except DebugError CompanionConfiguration := do
  let (program, args) ← c.programOf sdk
  let args ← quoteArguments args
  return {
    type := CompanionConfiguration.ownType
    request := c.requestOf
    name := c.name
    program := program
    args := args
    cwd := c.cwd
    stopAtEntry := c.stopOnEntry
    processId := c.pid
    environment := (c.env.getD []).map splitVariable
    miMode := CompanionConfiguration.gdb
    extra := c.extra }

end Configuration

/-- The extension of the companion debugger is installed. -/
def checkCompanion (installed : String → Bool) : Except DebugError Unit :=
  if installed CompanionConfiguration.extension then .ok ()
  else .error (.companionMissing CompanionConfiguration.extension CompanionConfiguration.ownType)

end MojoToolchain.Debug
