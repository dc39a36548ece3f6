/-!
# Faults of the host

Why the host refuses a file or a process, and the wording of each reason.
-/

namespace MojoToolchain.Host

/-- A reason why the host refuses something. -/
inductive Fault where
  | notFound
  | permissionDenied
  | notDirectory
  | isDirectory
  | badExecutable
  | brokenPipe
  /-- The bytes of a file are not UTF-8. -/
  | notText
  /-- A reason in words. -/
  | because (reason : String)
  deriving DecidableEq, Repr

/-- The wording of a fault. -/
def Fault.message : Fault → String
  | notFound => "No such file or directory (os error 2)"
  | permissionDenied => "Permission denied (os error 13)"
  | notDirectory => "Not a directory (os error 20)"
  | isDirectory => "Is a directory (os error 21)"
  | badExecutable => "Exec format error (os error 8)"
  | brokenPipe => "Broken pipe (os error 32)"
  | notText => "stream did not contain valid UTF-8"
  | because reason => reason

end MojoToolchain.Host
