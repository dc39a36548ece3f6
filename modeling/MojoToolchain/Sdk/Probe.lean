import MojoToolchain.Sdk.Home
import MojoToolchain.Text.Blank
import MojoToolchain.Version

/-!
# Looking for the SDK

A `Probe` is one search for the SDK: it asks the host, reports failures and says which
environment it has seen.  `probe` looks into the open workspace first, and then into the active
Python environment, whose failure is final.
-/

namespace MojoToolchain

open Host (Dialogue Question)

/-- One search for the SDK. -/
inductive Probe where
  | done (result : Option Sdk)
  | ask (question : Question) (next : question.Answer → Probe)
  /-- The environment of this name has been seen. -/
  | observe (key : String) (next : Probe)
  | report (error : SdkError) (next : Probe)

namespace Probe

/-- A probe that starts with a dialogue. -/
def after : Dialogue α → (α → Probe) → Probe
  | .done a, f => f a
  | .ask q next, f => ask q fun answer => after (next answer) f

/-- The result when a fixed host answers. -/
def answered (host : (q : Question) → q.Answer) : Probe → Option Sdk
  | done result => result
  | ask q next => (next (host q)).answered host
  | observe _ next => next.answered host
  | report _ next => next.answered host

@[simp]
theorem answered_after (host : (q : Question) → q.Answer) (d : Dialogue α) (f : α → Probe) :
  (after d f).answered host = (f (d.answered host)).answered host
  := by
  induction d with
  | done a => rfl
  | ask q next ih => simp [after, answered, Dialogue.answered, ih]

end Probe

namespace Sdk

/-! ### The sources -/

/-- The directory of a workspace that holds its own build of the SDK. -/
def workspaceDir : String := ".derived"

/-- The SDK built inside the workspace: nothing unless exactly one folder is open and it has
the directory for it. -/
def workspaceSource : Dialogue (Option (Except SdkError Sdk)) := do
  match ← Dialogue.question .workspaceRoots with
  | [root] =>
    let home := root / (workspaceDir : Path)
    match ← Dialogue.question (.kindOf home) with
    | .ok .directory => return some (← loadHome .internal home none)
    | _ => return none
  | _ => return none

/-- The active environment, when it is known to the host. -/
def activeEnvironment : Dialogue (Option Host.Environment) := do
  match ← Dialogue.question .activeEnvironment with
  | none => return none
  | some name => Dialogue.question (.environment name)

/-- The conventional layout of a packaged installation; only the plug-in's name depends on the
operating system. -/
def packaged (root : Path) (os : String) : Sdk :=
  let bin := root / ("bin" : Path)
  let lib := root / ("lib" : Path)
  { kind := .environment
    version := defaultVersion
    tools :=
      { languageServer := bin / ("mojo-lsp-server" : Path)
        formatter := bin / ("mblack" : Path)
        debugPlugin :=
          lib / (("libMojoLLDB." ++ if os == "macos" then "dylib" else "so" : String) : Path)
        debugAdapter := bin / ("mojo-lldb-dap" : Path)
        runtime := bin / ("mojo" : Path)
        visualizersDir := lib / ("lldb-visualizers" : Path)
        debugger := bin / ("mojo-lldb" : Path) }
    flavor := .packaged
    unwrappedRuntime := some (lib / ("mojo" : Path) / ("bin" : Path) / ("mojo" : Path)) }

/-- The version in the output of a runtime: the first dotted version, or else all of the output
without blank characters around it. -/
def versionIn (output : String) : String :=
  match Version.find? output with
  | some version => version
  | none =>
    let all := Text.trimString output
    if all.isEmpty then defaultVersion else all

/-- The version that a runtime says it is. -/
def askVersion (runtime : Path) : Dialogue String := do
  match ← Dialogue.question (.run ⟨runtime, ["--version"], []⟩) with
  | .ok output => return if output.success then versionIn output.stdout else defaultVersion
  | .error _ => return defaultVersion

/-- The packaged SDK of an environment; its runtime is asked for its version only when nothing
is missing. -/
def loadPackaged (environment : Host.Environment) : Dialogue (Except SdkError Sdk) := do
  let draft := packaged environment.sysPrefix "linux"
  match ← draft.missing with
  | [] =>
    let version ← askVersion draft.tools.runtime
    { draft with version := version }.verify
  | missing => return .error (.installationIncomplete environment.sysPrefix missing)

/-- The home of the SDK in an environment. -/
def environmentHome (environment : Host.Environment) : Path :=
  environment.sysPrefix / ("share" : Path) / ("max" : Path)

/-- The SDK of an environment: of its descriptor file, when that exists, and otherwise of its
package. -/
def environmentSource (environment : Host.Environment) : Dialogue (Except SdkError Sdk) := do
  let home := environmentHome environment
  if ← Dialogue.exists? (home / (descriptorName : Path)) then
    loadHome .environment home (some environment.sysPrefix)
  else loadPackaged environment

end Sdk

namespace Probe

/-- The end of a search: the SDK, or a report. -/
def conclude : Except SdkError Sdk → Probe
  | .ok sdk => done (some sdk)
  | .error e => report e (done none)

/-- The search in the active environment. -/
def inEnvironment : Probe :=
  after Sdk.activeEnvironment fun
    | none => conclude (.error .environmentUnavailable)
    | some environment =>
      observe environment.id (after (Sdk.environmentSource environment) conclude)

/-- The search in the workspace, and then in the active environment. -/
def start : Probe :=
  after Sdk.workspaceSource fun
    | some (.ok sdk) => done (some sdk)
    | some (.error e) => report e inEnvironment
    | none => inEnvironment

end Probe

end MojoToolchain
