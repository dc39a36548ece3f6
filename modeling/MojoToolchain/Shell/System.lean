import MojoToolchain.Shell.State

/-!
# The programs of a system

A system has programs of its own, which stand in directories but are no files of a disk.  A name
alone is looked for in the directories of a search path.
-/

namespace MojoToolchain.Shell

open Host (Disk Fault Place)

/-! ### What can be executed -/

/-- The names of the programs of the system. -/
def systemNames : List String :=
  ["awk", "base64", "basename", "bash", "cat", "chmod", "cksum", "cmp", "comm", "cp", "cut",
   "dash", "date", "dd", "dirname", "echo", "egrep", "env", "expand", "expr", "false", "fgrep",
   "find", "fold", "grep", "groups", "head", "id", "kill", "ls", "mawk", "md5sum", "mkdir",
   "mktemp", "mv", "nice", "nl", "nohup", "od", "paste", "printenv", "printf", "pwd", "readlink",
   "realpath", "rev", "rm", "rmdir", "sed", "seq", "setsid", "sh", "sha1sum", "sha256sum",
   "sleep", "sort", "split", "stdbuf", "sync", "tac", "tail", "tee", "test", "timeout", "touch",
   "tr", "true", "tty", "uname", "unexpand", "uniq", "wc", "which", "whoami", "xargs", "yes", "["]

/-- The directories with the programs of the system. -/
def systemDirs : List Place := [["bin".toList], ["usr".toList, "bin".toList]]

/-- A file that can be executed. -/
inductive Executable where
  | script (bytes : ByteArray)
  | system (name : String)

/-- What can be executed at a path. -/
def executableAt (disk : Disk) (path : Path) : Except Fault Executable := do
  let place ← disk.locateNew path
  match disk.find? place with
  | some .directory => .error .permissionDenied
  | some (.file bytes executable) =>
    if executable then .ok (.script bytes) else .error .permissionDenied
  | none =>
    let name := String.ofList (place.getLastD [])
    if systemDirs.contains place.dropLast && systemNames.contains name then .ok (.system name)
    else .error .notFound

/-- A program of the system stands at a path. -/
def isSystemPath (disk : Disk) (path : Bytes) : Bool :=
  match executableAt disk (pathOf path) with
  | .ok (.system _) => true
  | _ => false

/-! ### Search -/

/-- Goes through directories until there is something to execute; a file that must not be executed
is remembered. -/
def searchIn (disk : Disk) (name : Bytes) (denied : Bool) : List Bytes → Except Fault Bytes
  | [] => .error (if denied then .permissionDenied else .notFound)
  | dir :: rest =>
    let path := if dir.isEmpty then name else dir ++ '/' :: name
    match executableAt disk (pathOf path) with
    | .ok _ => .ok path
    | .error .permissionDenied => searchIn disk name true rest
    | .error .notFound => searchIn disk name denied rest
    | .error .notDirectory => searchIn disk name denied rest
    | .error fault => .error fault

/-- The path of the program that a name stands for; a name with a slash is a path. -/
def pathOfProgram (disk : Disk) (searchPath name : Bytes) : Except Fault Bytes :=
  if name.contains '/' then .ok name
  else if name.isEmpty then .error .notFound
  else if Disk.longestName < name.length then .error Disk.tooLong
  else searchIn disk name false (searchPath.splitOn ':')

end MojoToolchain.Shell
