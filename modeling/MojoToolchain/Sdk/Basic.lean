import MojoToolchain.Host.Dialogue

/-!
# The Mojo SDK

An `Sdk` says where an installation keeps its seven tools, how it is laid out and which version
it is.  `Sdk.environment` gives the variables for every process started from it.  `Sdk.verify`
asks the host whether all its paths exist, and fails with the list of those that do not.
-/

namespace MojoToolchain

open Host (Dialogue Variables)

namespace Sdk

/-- Where an SDK was found. -/
inductive Kind where
  /-- Installed into the active Python environment. -/
  | environment
  /-- Chosen by the user. -/
  | custom
  /-- Built inside the open workspace. -/
  | internal
  deriving DecidableEq, Repr

/-- The name of a kind. -/
def Kind.name : Kind → String
  | environment => "environment"
  | custom => "custom"
  | internal => "internal"

/-- How an installation is laid out. -/
inductive Flavor where
  /-- Its paths follow the conventions of a package. -/
  | packaged
  /-- Its paths are read from the descriptor file in `home`; `root` is the environment around. -/
  | home (home : Path) (root : Option Path)
  deriving DecidableEq, Repr

/-- The tools that every installation has. -/
structure Tools where
  languageServer : Path
  formatter : Path
  debugPlugin : Path
  debugAdapter : Path
  runtime : Path
  visualizersDir : Path
  debugger : Path
  deriving DecidableEq, Repr

/-- The tools in the order in which they are checked. -/
def Tools.toList (t : Tools) : List Path :=
  [t.languageServer, t.formatter, t.debugPlugin, t.debugAdapter, t.runtime, t.visualizersDir,
    t.debugger]

end Sdk

/-- A Mojo SDK. -/
structure Sdk where
  kind : Sdk.Kind
  version : String
  tools : Sdk.Tools
  flavor : Sdk.Flavor
  /-- The runtime without its wrapper, which only packaged installations have. -/
  unwrappedRuntime : Option Path
  deriving DecidableEq, Repr

namespace Sdk

/-- The version of an installation that does not say its own. -/
def defaultVersion : String := "0.0.0"

/-- A source file can be run under the debugger directly. -/
def supportsFileLaunch (sdk : Sdk) : Bool :=
  match sdk.flavor with
  | .home _ _ => true
  | .packaged => false

/-- The variables for processes started from an SDK, in ascending order of names. -/
def environment (sdk : Sdk) (telemetry : Bool) : Variables :=
  let flag := ("MODULAR_TELEMETRY_ENABLED", if telemetry then "true" else "false")
  match sdk.flavor with
  | .packaged => [flag]
  | .home home root =>
    [("MODULAR_HOME", home.text), flag, ("MOJO_HOME", (root.getD home).text)]

/-- All paths of an SDK in the order in which they are checked. -/
def paths (sdk : Sdk) : List Path := sdk.tools.toList ++ sdk.unwrappedRuntime.toList

/-- The directory that an SDK is said to be in: its home, or what lies two levels above its
runtime. -/
def location (sdk : Sdk) : Path :=
  match sdk.flavor with
  | .home home _ => home
  | .packaged => (sdk.tools.runtime.parent?.bind Path.parent?).getD sdk.tools.runtime

/-- The paths of a list that do not exist, in order. -/
def missingOf : List Path → Dialogue (List Path)
  | [] => pure []
  | path :: rest => do
    let found ← Dialogue.exists? path
    let missing ← missingOf rest
    return if found then missing else path :: missing

/-- The paths of an SDK that do not exist, in order. -/
def missing (sdk : Sdk) : Dialogue (List Path) := missingOf sdk.paths

/-- With a host that does not change, the missing paths are those that do not exist. -/
theorem answered_missingOf (host : (q : Host.Question) → q.Answer) (paths : List Path) :
  (missingOf paths).answered host
    = paths.filter fun p => !((Dialogue.exists? p).answered host)
  := by
  induction paths with
  | nil => rfl
  | cons p rest ih =>
    simp only [missingOf, Bind.bind, Pure.pure, Dialogue.answered_bind, Dialogue.answered,
      List.filter_cons, ih]
    cases (Dialogue.exists? p).answered host <;> simp

end Sdk

end MojoToolchain
