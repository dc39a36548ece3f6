import MojoToolchain.Host.Fault
import MojoToolchain.Path.Basic

/-!
# Asking the host

The host knows the files, the processes, the open workspace and the Python environment.  A
`Dialogue` is a computation that asks the host questions and goes on with the answers; it does
not say who answers.  `Dialogue.answered` lets a fixed host answer, `Dialogue.run` a host with
effects of its own.
-/

namespace MojoToolchain.Host

/-- What stands at a path. -/
inductive EntryKind where
  | file
  | directory
  deriving DecidableEq, Repr

/-- Variables of a process, in ascending order of their names. -/
abbrev Variables := List (String × String)

/-- A process to be run. -/
structure Invocation where
  program : Path
  args : List String
  env : Variables
  deriving DecidableEq, Repr

/-- What a finished process leaves behind. -/
structure Output where
  stdout : String
  stderr : String
  exitCode : Int
  success : Bool
  deriving DecidableEq, Repr

/-- Both streams, the standard output first. -/
def Output.combined (o : Output) : String := o.stdout ++ o.stderr

/-- What a finished process leaves behind that was given a text to read. -/
structure PipedOutput where
  stdout : ByteArray
  stderr : ByteArray
  /-- The exit code; there is none when a signal ended the process. -/
  exitCode : Option Nat
  /-- Why the text was not delivered as a whole. -/
  undelivered : Option Fault

/-- Why a process that is given a text to read leaves nothing behind. -/
inductive PipeFault where
  /-- The process does not start. -/
  | start (fault : Fault)
  /-- What the process writes, or its end, cannot be waited for. -/
  | wait (fault : Fault)
  /-- The task that gives the process its text is no more, for a reason in words. -/
  | input (reason : String)
  deriving DecidableEq, Repr

/-- A Python environment. -/
structure Environment where
  id : String
  sysPrefix : Path
  deriving DecidableEq, Repr

/-- A question to the host. -/
inductive Question where
  /-- The folders of the open workspace. -/
  | workspaceRoots
  /-- What stands at a path. -/
  | kindOf (path : Path)
  /-- The bytes of a file. -/
  | read (path : Path)
  /-- The entries of a directory. -/
  | list (path : Path)
  /-- The name of the active environment. -/
  | activeEnvironment
  /-- The environment of a name. -/
  | environment (name : String)
  /-- The outcome of a process. -/
  | run (call : Invocation)
  /-- The outcome of a process that is given a text to read. -/
  | pipe (call : Invocation) (input : String)
  /-- The outcome of writing a text to a file, in place of what it held. -/
  | write (file : Path) (text : String)
  /-- A log file is to be there; the host does what it can. -/
  | openLog (file : Path)
  deriving DecidableEq, Repr

/-- What a question is answered with. -/
abbrev Question.Answer : Question → Type
  | workspaceRoots => List Path
  | kindOf _ => Except Fault EntryKind
  | read _ => Except Fault ByteArray
  | list _ => Except Fault (List Path)
  | activeEnvironment => Option String
  | environment _ => Option Environment
  | run _ => Except Fault Output
  | pipe _ _ => Except PipeFault PipedOutput
  | write _ _ => Except Fault Unit
  | openLog _ => Unit

/-- A computation that asks the host questions. -/
inductive Dialogue (α : Type) where
  | done (result : α)
  | ask (question : Question) (next : question.Answer → Dialogue α)

namespace Dialogue

/-- One dialogue after another. -/
def bind : Dialogue α → (α → Dialogue β) → Dialogue β
  | done a, f => f a
  | ask q next, f => ask q fun answer => (next answer).bind f

instance : Monad Dialogue where
  pure := done
  bind := bind

/-- Asks one question. -/
def question (q : Question) : Dialogue q.Answer := ask q done

/-- The result when a fixed host answers. -/
def answered (host : (q : Question) → q.Answer) : Dialogue α → α
  | done a => a
  | ask q next => (next (host q)).answered host

/-- The questions asked of a fixed host, in order. -/
def questions (host : (q : Question) → q.Answer) : Dialogue α → List Question
  | done _ => []
  | ask q next => q :: (next (host q)).questions host

/-- The result when a host with effects answers. -/
def run [Monad m] (host : (q : Question) → m q.Answer) : Dialogue α → m α
  | done a => pure a
  | ask q next => host q >>= fun answer => (next answer).run host

/-- A path exists, as anything. -/
def exists? (path : Path) : Dialogue Bool := do
  return (← question (.kindOf path)) matches .ok _

/-! ### Laws -/

theorem bind_done (d : Dialogue α) :
  d.bind done = d
  := by
  induction d with
  | done a => rfl
  | ask q next ih => simp [bind, ih]

theorem bind_assoc (d : Dialogue α) (f : α → Dialogue β) (g : β → Dialogue γ) :
  (d.bind f).bind g = d.bind fun a => (f a).bind g
  := by
  induction d with
  | done a => rfl
  | ask q next ih => simp [bind, ih]

instance : LawfulMonad Dialogue := .mk' Dialogue bind_done (fun _ _ => rfl) bind_assoc

@[simp]
theorem answered_bind (host : (q : Question) → q.Answer) (d : Dialogue α) (f : α → Dialogue β) :
  (d.bind f).answered host = (f (d.answered host)).answered host
  := by
  induction d with
  | done a => rfl
  | ask q next ih => simp [bind, answered, ih]

end Dialogue

end MojoToolchain.Host
