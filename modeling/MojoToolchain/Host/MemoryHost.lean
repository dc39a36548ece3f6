import MojoToolchain.Host.CannedProcesses
import MojoToolchain.Host.MemoryFiles

/-!
# A host in memory

`MemoryHost` answers every question from what it holds, and keeps a record of the processes it
was asked to run.  It has no processes that read a text.
-/

namespace MojoToolchain.Host

/-- A host that is held in memory. -/
structure MemoryHost where
  files : MemoryFiles
  roots : List Path
  environments : List Environment
  /-- The name of the active environment. -/
  active : Option String
  responses : List Response
  /-- The processes that were run, in order. -/
  invocations : List Invocation

namespace MemoryHost

/-- A host that holds nothing. -/
def empty : MemoryHost := ⟨.empty, [], [], none, [], []⟩

/-- A host that holds files. -/
def ofFiles (files : MemoryFiles) : MemoryHost := { empty with files := files }

/-- Adds the environment in a directory, whose name is the text of the path. -/
def addEnvironment (host : MemoryHost) (root : Path) : MemoryHost :=
  { host with
    environments := ⟨root.text, root⟩ :: host.environments.filter (·.id != root.text) }

/-- The answer to a question. -/
def reply (host : MemoryHost) : (q : Question) → q.Answer
  | .workspaceRoots => host.roots
  | .kindOf path => host.files.kindOf path
  | .read path => host.files.read path
  | .list path => host.files.list path
  | .activeEnvironment => host.active
  | .environment name => host.environments.find? (·.id == name)
  | .run call => respond host.responses call
  | .pipe _ _ => .error (.start .notFound)
  | .write _ _ => .ok ()
  | .openLog _ => ()

/-- The host after a question: it has a record of every process and holds what was written. -/
def after (host : MemoryHost) : Question → MemoryHost
  | .run call => { host with invocations := host.invocations ++ [call] }
  | .write file text => { host with files := host.files.addFile file text.toUTF8 }
  | _ => host

/-- Answers a question. -/
def answer (q : Question) : StateM MemoryHost q.Answer :=
  fun host => (host.reply q, host.after q)

/-- The result of a dialogue, and the host after it. -/
def converse (host : MemoryHost) (dialogue : Dialogue α) : α × MemoryHost :=
  (dialogue.run answer : StateM MemoryHost α) host

@[simp]
theorem converse_done (host : MemoryHost) (a : α) :
  host.converse (.done a) = (a, host)
  := rfl

/-- A dialogue goes on with the host that the one before it has left. -/
theorem converse_bind (host : MemoryHost) (d : Dialogue α) (f : α → Dialogue β) :
  host.converse (d.bind f) = (host.converse d).2.converse (f (host.converse d).1)
  := by
  induction d generalizing host with
  | done a => rfl
  | ask q next ih => exact ih (host.reply q) (host.after q)

end MemoryHost

end MojoToolchain.Host
