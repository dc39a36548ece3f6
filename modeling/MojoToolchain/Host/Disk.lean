import MojoToolchain.Host.Dialogue

/-!
# A disk in memory

A `Disk` is a tree of directories and files in which paths are followed name by name, as an
operating system follows them: what is passed through has to be a directory, and `..` leads to
the directory above the one that was reached.  A relative path starts at `Disk.here`.
-/

namespace MojoToolchain.Host

/-- A place on a disk: the names on the way from the root. -/
abbrev Place := List (List Char)

/-- What is kept at a place. -/
inductive Node where
  | file (bytes : ByteArray) (executable : Bool)
  | directory

/-- A disk; the root is always there. -/
structure Disk where
  /-- What is kept at the places below the root, in the order in which it came. -/
  nodes : List (Place × Node)
  /-- Where relative paths start. -/
  here : Place

namespace Disk

/-- What is kept at a place. -/
def find? (d : Disk) (place : Place) : Option Node :=
  if place.isEmpty then some .directory else d.nodes.lookup place

/-! ### Following a path -/

/-- The greatest number of bytes in a name. -/
def longestName : Nat := 255

/-- The greatest number of bytes in a path. -/
def longestPath : Nat := 4095

/-- The fault of a name or path that is too long. -/
def tooLong : Fault := .because "File name too long (os error 36)"

/-- The fault of a path that cannot be passed to an operating system. -/
def containsNul : Fault := .because "file name contained an unexpected NUL byte"

/-- Leads to the next piece of a path. -/
def step (d : Disk) (place : Place) (piece : List Char) : Except Fault Place :=
  match d.find? place with
  | none => .error .notFound
  | some (.file _ _) => .error .notDirectory
  | some .directory =>
    if Path.isIdle piece then .ok place
    else if piece == ['.', '.'] then .ok place.dropLast
    else if longestName < (String.ofList piece).utf8ByteSize then .error tooLong
    else if (d.find? (place ++ [piece])).isSome then .ok (place ++ [piece])
    else .error .notFound

/-- The pieces of a path that a system can follow. -/
def piecesOf (path : Path) : Except Fault (List (List Char)) :=
  if path.text.isEmpty then .error .notFound
  else if path.chars.contains '\x00' then .error containsNul
  else if longestPath < path.text.utf8ByteSize then .error tooLong
  else .ok (path.chars.splitOn '/')

/-- Where a path starts. -/
def startOf (d : Disk) (path : Path) : Place := if path.isAbsolute then [] else d.here

/-- The place that a path leads to, where there is something. -/
def locate (d : Disk) (path : Path) : Except Fault Place := do
  (← piecesOf path).foldlM d.step (d.startOf path)

/-- The place that a path leads to, where there may be nothing yet; what is passed through on
the way is there. -/
def locateNew (d : Disk) (path : Path) : Except Fault Place := do
  let pieces ← piecesOf path
  let parent ← pieces.dropLast.foldlM d.step (d.startOf path)
  match d.step parent (pieces.getLastD []) with
  | .ok place => .ok place
  | .error .notFound => .ok (parent ++ [pieces.getLastD []])
  | .error fault => .error fault

/-- What is kept where a path leads. -/
def nodeAt (d : Disk) (path : Path) : Except Fault Node := do
  match d.find? (← d.locate path) with
  | some node => .ok node
  | none => .error .notFound

/-! ### Questions about files -/

/-- What stands at a path. -/
def kindOf (d : Disk) (path : Path) : Except Fault EntryKind := do
  match ← d.nodeAt path with
  | .file _ _ => .ok .file
  | .directory => .ok .directory

/-- The bytes of a file. -/
def read (d : Disk) (path : Path) : Except Fault ByteArray := do
  match ← d.nodeAt path with
  | .file bytes _ => .ok bytes
  | .directory => .error .isDirectory

/-- The names in a directory, in the order in which they came. -/
def namesIn (d : Disk) (place : Place) : List (List Char) :=
  d.nodes.filterMap fun (p, _) =>
    if p.dropLast == place then p.getLast? else none

/-- The entries of a directory. -/
def list (d : Disk) (path : Path) : Except Fault (List Path) := do
  let place ← d.locate path
  match d.find? place with
  | some .directory => .ok ((d.namesIn place).map fun name => path / Path.ofChars name)
  | some (.file _ _) => .error .notDirectory
  | none => .error .notFound

/-! ### Changes -/

/-- Puts something at a place; what was there is replaced where it stands. -/
def put (d : Disk) (place : Place) (node : Node) : Disk :=
  if (d.nodes.lookup place).isSome then
    { d with nodes := d.nodes.map fun (p, n) => if p == place then (p, node) else (p, n) }
  else { d with nodes := d.nodes ++ [(place, node)] }

/-- Writes a file in place of what it held; a new file is not executable. -/
def write (d : Disk) (path : Path) (bytes : ByteArray) : Except Fault Disk := do
  let place ← d.locateNew path
  match d.find? place with
  | some .directory => .error .isDirectory
  | some (.file _ executable) => .ok (d.put place (.file bytes executable))
  | none => .ok (d.put place (.file bytes false))

/-- Makes the directories that are missing on the way through some pieces, from a place on; it
stops at a file. -/
def makeWay (d : Disk) (place : Place) : List (List Char) → Disk
  | [] => d
  | piece :: rest =>
    match d.step place piece with
    | .ok next => d.makeWay next rest
    | .error .notFound => (d.put (place ++ [piece]) .directory).makeWay (place ++ [piece]) rest
    | .error _ => d

/-- Makes a directory and all those above it that are missing. -/
def makeDirectories (d : Disk) (path : Path) : Disk :=
  match piecesOf path with
  | .ok pieces => d.makeWay (d.startOf path) pieces
  | .error _ => d

/-- Makes the directory of a file, and those above it. -/
def makeParent (d : Disk) (path : Path) : Disk :=
  match path.parent? with
  | some parent => d.makeDirectories parent
  | none => d

/-- Puts a file where a path leads, with the directories that are missing on the way. -/
def addFile (d : Disk) (path : Path) (bytes : ByteArray) (executable : Bool) : Disk :=
  let d := d.makeParent path
  match d.locateNew path with
  | .ok place => d.put place (.file bytes executable)
  | .error _ => d

/-- Takes away what is kept where a path leads, and all below it. -/
def remove (d : Disk) (path : Path) : Disk :=
  match d.locate path with
  | .ok place => { d with nodes := d.nodes.filter fun (p, _) => !place.isPrefixOf p }
  | .error _ => d

/-- A log file is there, with the directories above it, as far as that can be done. -/
def openLog (d : Disk) (path : Path) : Disk :=
  let d := d.makeParent path
  match d.locateNew path with
  | .error _ => d
  | .ok place => if (d.find? place).isSome then d else d.put place (.file ⟨#[]⟩ false)

/-- All that is kept below a place, by its names from there. -/
def below (d : Disk) (place : Place) : List (Place × Node) :=
  d.nodes.filterMap fun (p, node) =>
    if place.isPrefixOf p && p != place then some (p.drop place.length, node) else none

theorem find?_nil (d : Disk) :
  d.find? [] = some .directory
  := rfl

end Disk

end MojoToolchain.Host
