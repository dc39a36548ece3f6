import MojoToolchain.Host.Dialogue
import MojoToolchain.Text.Case

/-!
# The terminal as a host

In a terminal the workspace is one directory, and the active environment is named on the command
line, in the settings or by a variable.  `Terminal.ask` turns questions about them into questions
about files.
-/

namespace MojoToolchain

open Host (Dialogue Question)

/-- A terminal: the directory that is the workspace, and the active environment. -/
structure Terminal where
  workspace : Path
  environment : Option Path
  deriving DecidableEq, Repr

namespace Terminal

/-- The variables that name the active environment, the preferred one first. -/
def environmentVariables : List String := ["CONDA_PREFIX", "VIRTUAL_ENV"]

/-- The active environment: the one that is named explicitly, or else the first one that a
variable names. -/
def detectEnvironment (explicit : Option Path) (valueOf : String → Option String) :
    Option Path :=
  explicit <|>
    ((environmentVariables.filterMap valueOf).find? fun value => !value.isEmpty).map Path.mk

/-- An extension is among those that are said to be installed; the case of letters does not
matter. -/
def isInstalled (installed : List String) (extension : String) : Bool :=
  installed.any fun id => Text.sameButCase id extension

/-- Answers a question about the workspace and the environment from the terminal, and passes
every other question on.  An environment is a directory. -/
def ask (t : Terminal) : (q : Question) → Dialogue q.Answer
  | .workspaceRoots => pure [t.workspace]
  | .activeEnvironment => pure (t.environment.map Path.text)
  | .environment name => do
    match ← Dialogue.question (.kindOf ⟨name⟩) with
    | .ok .directory => return some ⟨name, ⟨name⟩⟩
    | _ => return none
  | q => Dialogue.question q

theorem detectEnvironment_some (path : Path) (valueOf : String → Option String) :
  detectEnvironment (some path) valueOf = some path
  := rfl

end Terminal

end MojoToolchain
