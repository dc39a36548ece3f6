import MojoToolchain.Shell.Process

/-!
# A host with a disk

`DiskHost` answers questions about files from a disk, and runs programs that are on it.  It has
no workspace and no environments; a `Terminal` knows about those.
-/

namespace MojoToolchain.Host

/-- A host with a disk, and the variables that every process gets. -/
structure DiskHost where
  disk : Disk
  vars : Variables

namespace DiskHost

/-- The host after a process, and what is made of it. -/
def afterProcess (host : DiskHost) (result : Except ε Shell.State) (f : Shell.State → α) :
    Except ε α × DiskHost :=
  match result with
  | .error e => (.error e, host)
  | .ok s => (.ok (f s), { host with disk := s.disk })

/-- Answers a question. -/
def answer : (q : Question) → StateM DiskHost q.Answer
  | .workspaceRoots => fun host => ([], host)
  | .kindOf path => fun host => (host.disk.kindOf path, host)
  | .read path => fun host => (host.disk.read path, host)
  | .list path => fun host => (host.disk.list path, host)
  | .activeEnvironment => fun host => (none, host)
  | .environment _ => fun host => (none, host)
  | .run call => fun host =>
    host.afterProcess (Shell.start host.disk host.vars call []) Shell.outputOf
  | .pipe call input => fun host =>
    host.afterProcess
      ((Shell.start host.disk host.vars call (Shell.ofText input)).mapError .start)
      Shell.pipedOutput
  | .write file text => fun host =>
    match host.disk.write file text.toUTF8 with
    | .ok disk => (.ok (), { host with disk := disk })
    | .error fault => (.error fault, host)
  | .openLog file => fun host => ((), { host with disk := host.disk.openLog file })

/-- The result of a dialogue, and the host after it. -/
def converse (host : DiskHost) (dialogue : Dialogue α) : α × DiskHost :=
  (dialogue.run answer : StateM DiskHost α) host

end DiskHost

end MojoToolchain.Host
