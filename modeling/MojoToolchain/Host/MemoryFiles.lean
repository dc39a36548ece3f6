import MojoToolchain.Host.Dialogue

/-!
# Files in memory

`MemoryFiles` is a list of files and directories in the order in which they came.  A path that
is not in the list is a directory as long as something in the list lies below it.
-/

namespace MojoToolchain.Host

/-- What is kept at a path. -/
inductive Content where
  | file (bytes : ByteArray)
  | directory

/-- The kind of what is kept. -/
def Content.kind : Content → EntryKind
  | file _ => .file
  | directory => .directory

/-- Files and directories in the order in which they came. -/
structure MemoryFiles where
  entries : List (Path × Content)

namespace MemoryFiles

/-- Nothing at all. -/
def empty : MemoryFiles := ⟨[]⟩

/-- What is kept at a path: the first entry whose path names the same place. -/
def find? (files : MemoryFiles) (path : Path) : Option Content :=
  (files.entries.find? fun (p, _) => p.same path).map Prod.snd

/-- The fault of a path at which there is nothing. -/
def nothingAt (path : Path) : Fault := .because (path.text ++ ": no such file or directory")

/-- The bytes of a file. -/
def read (files : MemoryFiles) (path : Path) : Except Fault ByteArray :=
  match files.find? path with
  | some (.file bytes) => .ok bytes
  | some .directory => .error (.because (path.text ++ " is a directory"))
  | none => .error (nothingAt path)

/-- What stands at a path. -/
def kindOf (files : MemoryFiles) (path : Path) : Except Fault EntryKind :=
  match files.find? path with
  | some content => .ok content.kind
  | none =>
    if files.entries.any fun (p, _) => p.startsWith path then .ok .directory
    else .error (nothingAt path)

/-- Appends a path unless the list has one that names the same place. -/
def addNew (paths : List Path) (path : Path) : List Path :=
  if paths.any path.same then paths else paths ++ [path]

/-- The entries of a directory, in the order in which something came at or below them. -/
def list (files : MemoryFiles) (path : Path) : Except Fault (List Path) :=
  match files.entries.filterMap fun (p, _) => p.below? path with
  | [] => .error (nothingAt path)
  | below => .ok ((below.filterMap List.head?).foldl (fun paths c =>
      addNew paths (path / Path.ofChars c.text)) [])

/-- Adds a file; what was kept at its path is gone. -/
def addFile (files : MemoryFiles) (path : Path) (bytes : ByteArray) : MemoryFiles :=
  ⟨(files.entries.filter fun (p, _) => !p.same path) ++ [(path, .file bytes)]⟩

/-- Adds a directory behind what is there. -/
def addDirectory (files : MemoryFiles) (path : Path) : MemoryFiles :=
  ⟨files.entries ++ [(path, .directory)]⟩

/-- Takes away what is kept at a path and below it. -/
def remove (files : MemoryFiles) (path : Path) : MemoryFiles :=
  ⟨files.entries.filter fun (p, _) => !p.startsWith path⟩

theorem find?_addFile (files : MemoryFiles) (path : Path) (bytes : ByteArray) :
  (files.addFile path bytes).find? path = some (.file bytes)
  := by
  have none_before : files.entries.find? (fun _ => false) = none :=
    List.find?_eq_none.2 fun _ _ => Bool.false_ne_true
  simp [find?, addFile, List.find?_append, Path.same, none_before]

end MemoryFiles

end MojoToolchain.Host
