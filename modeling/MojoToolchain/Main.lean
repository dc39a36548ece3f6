import MojoToolchain.CommandLine.Run
import MojoToolchain.Shell.Process

/-!
# The program

`main` runs a command line on the files and variables of this machine and writes the report.
Files are read and written where they are; programs are read from their files and run by the
library's own shell, without a disk of their own; directories are not listed.
-/

namespace MojoToolchain.Machine

open Host (Disk EntryKind Fault Invocation Output PipedOutput Question Variables)

/-- The fault that an error of the system stands for. -/
def faultOf : IO.Error → Fault
  | .noFileOrDirectory .. => .notFound
  | .permissionDenied .. => .permissionDenied
  | .inappropriateType .. => .isDirectory
  | e => .because e.toString

/-- The result of an action, or the fault that it ends with. -/
def guarded (action : IO α) : IO (Except Fault α) := do
  try
    return .ok (← action)
  catch e =>
    return .error (faultOf e)

/-- What stands at a path: only a file can be read from. -/
def kindOf (path : Path) : IO (Except Fault EntryKind) :=
  guarded do
    let handle ← IO.FS.Handle.mk path.text .read
    try
      discard (handle.read 1)
      return .file
    catch _ =>
      return .directory

/-- A log file is there, with the directory that it is in. -/
def openLog (file : Path) : IO Unit := do
  if let some dir := file.parent? then
    if !dir.text.isEmpty then
      discard (guarded (IO.FS.createDirAll dir.text))
  discard (guarded (IO.FS.Handle.mk file.text .append))

/-- A disk that holds nothing but a program. -/
def diskWith (program : Path) : IO Disk := do
  match ← guarded (IO.FS.readBinFile program.text) with
  | .ok bytes => return Disk.addFile ⟨[], []⟩ program bytes true
  | .error _ => return ⟨[], []⟩

/-- Runs a program with an input. -/
def start (vars : Variables) (call : Invocation) (input : String) :
    IO (Except Fault Shell.State) := do
  return Shell.start (← diskWith call.program) vars call (Shell.ofText input)

/-- Answers a question from this machine. -/
def answer (vars : Variables) : (q : Question) → IO q.Answer
  | .workspaceRoots => return []
  | .kindOf path => kindOf path
  | .read path => guarded (IO.FS.readBinFile path.text)
  | .list _ => return .error (.because "directories are not listed")
  | .activeEnvironment => return none
  | .environment _ => return none
  | .run call => return Shell.outputOf <$> (← start vars call "")
  | .pipe call input => return Shell.pipedOutput <$> (← start vars call input).mapError .start
  | .write file text => guarded (IO.FS.writeFile file.text text)
  | .openLog file => openLog file

/-- The variables that the program looks at. -/
def variableNames : List String := ["HOME", "XDG_CONFIG_HOME"] ++ Terminal.environmentVariables

/-- The values of those variables that are set. -/
def vars : IO Variables := do
  let found ← variableNames.mapM fun name => do
    return (← IO.getEnv name).map fun value => (name, value)
  return found.filterMap id

end MojoToolchain.Machine

open MojoToolchain in
/-- Runs a command line, writes what it leaves, and ends with its status. -/
def main (args : List String) : IO UInt32 := do
  let vars ← Machine.vars
  let around : CommandLine.Surroundings :=
    ⟨⟨toString (← IO.currentDir)⟩, fun name => vars.lookup name⟩
  let report ← (CommandLine.run around args).run (Machine.answer vars)
  IO.print report.output
  IO.eprint report.errors
  return report.status
