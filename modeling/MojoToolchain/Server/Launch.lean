import MojoToolchain.Sdk.Basic
import MojoToolchain.Text.Case

/-!
# Launching the language server

A `ServerLaunch` says how the language server is started, which files it handles and how the
root of a project is recognised.  `ServerLaunch.findRoot` looks for the root from the directory
of a file upwards.
-/

namespace MojoToolchain

open Host (Dialogue Variables)

/-- How a language server is started, and what for. -/
structure ServerLaunch where
  language : String
  command : Path
  args : List String
  env : Variables
  /-- The extensions of the files that it handles, without the point. -/
  extensions : List String
  /-- Names that mark the root of a project. -/
  rootPatterns : List String
  deriving DecidableEq, Repr

namespace ServerLaunch

/-- The names that mark the root of a project. -/
def defaultRootPatterns : List String := ["mojoproject.toml", "pixi.toml", "pyproject.toml", ".git"]

/-- The launch of the server of an SDK, with further arguments. -/
def ofSdk (sdk : Sdk) (telemetry : Bool) (args : List String) : ServerLaunch where
  language := "mojo"
  command := sdk.tools.languageServer
  args := args
  env := sdk.environment telemetry
  extensions := ["mojo", "🔥"]
  rootPatterns := defaultRootPatterns

/-- A launch with more arguments. -/
def addArgs (l : ServerLaunch) (more : List String) : ServerLaunch :=
  { l with args := l.args ++ more }

/-- The server handles files with an extension; the case of letters does not matter. -/
def handlesExtension (l : ServerLaunch) (extension : String) : Bool :=
  l.extensions.any fun e => Text.sameButCase e extension

/-- The server handles a file. -/
def handlesFile (l : ServerLaunch) (file : Path) : Bool :=
  match file.extension? with
  | some extension => l.handlesExtension (String.ofList extension)
  | none => false

/-! ### The root of a project -/

/-- Some path of a list exists. -/
def anyExists : List Path → Dialogue Bool
  | [] => pure false
  | path :: rest => do if ← Dialogue.exists? path then return true else anyExists rest

/-- The first of some directories that holds one of the names. -/
def firstMarked (patterns : List String) : List Path → Dialogue (Option Path)
  | [] => pure none
  | dir :: rest => do
    if ← anyExists (patterns.map fun name => dir / Path.mk name) then return some dir
    else firstMarked patterns rest

/-- The root of the project of a file: of the directories above it, the nearest one that holds
one of the names. -/
def findRoot (l : ServerLaunch) (file : Path) : Dialogue (Option Path) :=
  firstMarked l.rootPatterns file.ancestors

theorem answered_anyExists (host : (q : Host.Question) → q.Answer) (paths : List Path) :
  (anyExists paths).answered host = paths.any fun p => (Dialogue.exists? p).answered host
  := by
  induction paths with
  | nil => rfl
  | cons p rest ih =>
    simp only [anyExists, Bind.bind, Dialogue.answered_bind, List.any_cons]
    cases h : (Dialogue.exists? p).answered host
    · simpa using ih
    · rfl

end ServerLaunch

end MojoToolchain
