import MojoToolchain.Host.TextFile
import MojoToolchain.Settings.Text

/-!
# Settings from files

The user has a file of settings in a directory of their own, and a project has one in its
directory.  `Settings.load` reads those that are there; the settings of the project override
those of the user.
-/

namespace MojoToolchain.Settings

open Host (Dialogue)

/-! ### Where settings are kept -/

/-- The name of this program's directory among those of other programs. -/
def ownDir : String := "mojo-bridge"

/-- The name of the user's file. -/
def userFile : String := "config.json"

/-- The names of a project's file, the preferred one first. -/
def projectFiles : List String := ["mojo-bridge.jsonc", "mojo-bridge.json"]

/-- The value of a variable, unless it is empty. -/
def nonEmpty (valueOf : String → Option String) (name : String) : Option String :=
  (valueOf name).filter fun value => !value.isEmpty

/-- The directory of the user: below the directory that a variable names by an absolute path, or
else below the home directory. -/
def userDir (valueOf : String → Option String) : Option Path :=
  let named := ((valueOf "XDG_CONFIG_HOME").map Path.mk).filter Path.isAbsolute
  let atHome := (nonEmpty valueOf "HOME").map fun home => Path.mk home / (".config" : Path)
  (named <|> atHome).map fun dir => dir / (ownDir : Path)

/-- The log file of the user. -/
def userLog (valueOf : String → Option String) : Option Path :=
  (userDir valueOf).map fun dir => dir / ("logs" : Path) / ("mojo-bridge.log" : Path)

/-! ### Loading -/

/-- The first path of a list at which there is a file. -/
def firstFile : List Path → Dialogue (Option Path)
  | [] => pure none
  | path :: rest => do if ← Dialogue.isFile path then return some path else firstFile rest

/-- The files of the user and of a project that are there, in the order in which they count. -/
def findFiles (user project : Option Path) : Dialogue (List Path) := do
  let ofUser ← firstFile (user.toList.map fun dir => dir / (userFile : Path))
  let ofProject ← firstFile
    (project.toList.flatMap fun dir => projectFiles.map fun name => dir / Path.mk name)
  return ofUser.toList ++ ofProject.toList

/-- The settings in a file. -/
def loadFile (file : Path) : Dialogue (Except Failure Settings) := do
  match ← Dialogue.readText file with
  | .error fault => return .error (.unreadable file fault)
  | .ok text => return parse file.text text

/-- The settings in files; the first failure is the result. -/
def loadFiles : List Path → Dialogue (Except Failure (List Settings))
  | [] => pure (.ok [])
  | file :: rest => do
    match ← loadFile file with
    | .error failure => return .error failure
    | .ok settings => return (settings :: ·) <$> (← loadFiles rest)

/-- The settings of the user and of a project, and the files that they come from. -/
def load (user project : Option Path) : Dialogue (Except Failure (Settings × List Path)) := do
  let files ← findFiles user project
  return (fun sources => (mergeAll sources, files)) <$> (← loadFiles files)

theorem load_none_none (host : (q : Host.Question) → q.Answer) :
  (load none none).answered host = .ok (unset, [])
  := rfl

end MojoToolchain.Settings
