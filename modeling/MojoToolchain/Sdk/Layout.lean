import MojoToolchain.Host.Disk
import MojoToolchain.Sdk.Lookup

/-!
# Installations on a disk

A `Layout` puts installations of the SDK on a disk: one in the environment `env`, with or
without a descriptor file, and one in the workspace `workspace`.
-/

namespace MojoToolchain.Sdk

open Host (Dialogue Disk Question)

/-- What is put on a disk. -/
structure Layout where
  /-- There is an environment; the flag says whether it has a descriptor file. -/
  environment : Option Bool
  /-- There is a workspace; the flag says whether it has a build of the SDK. -/
  workspace : Option Bool
  /-- The version in the descriptor files. -/
  version : Option String
  /-- The key that descriptor files leave out. -/
  omitted : Option String
  /-- What stands in the descriptor file of the environment instead. -/
  descriptor : Option ByteArray
  /-- The names of visualizers. -/
  visualizers : List String

namespace Layout

/-- The environment below a root. -/
def environmentDir (root : Path) : Path := root / ("env" : Path)

/-- The home of the environment below a root. -/
def environmentHome (root : Path) : Path := environmentDir root / ("share/max" : Path)

/-- The workspace below a root. -/
def workspaceRoot (root : Path) : Path := root / ("workspace" : Path)

/-- The home of the build in the workspace below a root. -/
def workspaceHome (root : Path) : Path := workspaceRoot root / (workspaceDir : Path)

/-- Puts an empty file on a disk. -/
def touch (disk : Disk) (file : Path) : Disk := disk.addFile file ⟨#[]⟩ false

/-- Puts the tools of an installation on a disk. -/
def install (l : Layout) (base : Path) (disk : Disk) : Disk :=
  let tools := conventionalTools base
  let files :=
    [tools.languageServer, tools.formatter, tools.debugPlugin, tools.debugAdapter, tools.runtime,
      tools.debugger, base / ("lib/mojo/bin/mojo" : Path)]
  let disk := (files.foldl touch disk).makeDirectories tools.visualizersDir
  l.visualizers.foldl (fun disk name =>
    disk.addFile (tools.visualizersDir / Path.mk name) "# visualizer\n".toUTF8 false) disk

/-- The descriptor file of an installation. -/
def describe (l : Layout) (base : Path) : ByteArray :=
  (descriptorText (conventionalTools base) l.version l.omitted).toUTF8

/-- Puts the environment on a disk. -/
def addEnvironment (l : Layout) (root : Path) (disk : Disk) : Disk :=
  match l.environment with
  | none => disk
  | some described =>
    let disk := l.install (environmentDir root) disk
    if described then
      disk.addFile (environmentHome root / (descriptorName : Path))
        (l.descriptor.getD (l.describe (environmentDir root))) false
    else disk

/-- Puts the workspace on a disk. -/
def addWorkspace (l : Layout) (root : Path) (disk : Disk) : Disk :=
  match l.workspace with
  | none => disk
  | some built =>
    let disk := disk.makeDirectories (workspaceRoot root)
    if built then
      (l.install (workspaceHome root) disk).addFile
        (workspaceHome root / (descriptorName : Path)) (l.describe (workspaceHome root)) false
    else disk

/-- Puts a layout on a disk. -/
def build (l : Layout) (root : Path) (disk : Disk) : Disk :=
  l.addWorkspace root (l.addEnvironment root disk)

/-- A host on which the environment is active and the workspace open, and where every program
succeeds and says nothing. -/
def reply (root : Path) (disk : Disk) : (q : Question) → q.Answer
  | .workspaceRoots => [workspaceRoot root]
  | .kindOf path => disk.kindOf path
  | .read path => disk.read path
  | .list path => disk.list path
  | .activeEnvironment => some (environmentDir root).text
  | .environment name => some ⟨name, ⟨name⟩⟩
  | .run _ => .ok ⟨"", "", 0, true⟩
  | .pipe _ _ => .error (.start .notFound)
  | .write _ _ => .ok ()
  | .openLog _ => ()

/-- What looking for the SDK comes to on such a host. -/
def lookUp (root : Path) (disk : Disk) : Option Sdk × List String :=
  Sdk.lookUp.answered (reply root disk)

end Layout

end MojoToolchain.Sdk
