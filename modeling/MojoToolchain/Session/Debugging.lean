import MojoToolchain.Debug.Provider
import MojoToolchain.Session.Calls

/-!
# Debugging in a session

What the debugger of an SDK is known to support is kept by the number of the descriptor, so that
it is asked once.
-/

namespace MojoToolchain.Session

open Debug (CompanionConfiguration Configuration DebugError Outcome)

/-- What is known about scripting with a descriptor. -/
def knownScripting (s : Session) (d : Descriptor) : Option Bool := s.scripting.lookup d.number

/-- Keeps what is known about scripting with a descriptor. -/
def noteScripting (s : Session) (d : Descriptor) : Option Bool → Session
  | some scripting => { s with scripting := (d.number, scripting) :: s.scripting }
  | none => s

/-- Tells the user. -/
def tell (s : Session) (messages : List String) : Session :=
  { s with messages := s.messages ++ messages }

/-- The debugger of a descriptor can run scripts. -/
def supportsScripting (s : Session) (d : Descriptor) : Bool × Session :=
  let (scripting, host) :=
    s.host.converse (Debug.supportsScripting d.sdk (s.knownScripting d))
  (scripting, { s with host := host }.noteScripting d (some scripting))

/-- Completes a configuration with a descriptor. -/
def complete (s : Session) (d : Descriptor) (c : Configuration) :
    Except DebugError Configuration × Session :=
  let ((result, known), host) :=
    s.host.converse (c.complete s.options d.sdk (s.knownScripting d))
  (result, { s with host := host }.noteScripting d known)

/-- The configuration for the SDK's own debugger. -/
def provide (s : Session) (c : Configuration) : Option Configuration × Session :=
  match s.resolve with
  | (none, s) => (none, s)
  | (some d, s) =>
    let ((outcome, known), host) :=
      s.host.converse (Debug.provide s.options (some d.sdk) (s.knownScripting d) c)
    (outcome.result?, ({ s with host := host }.noteScripting d known).tell outcome.messages)

/-- The extension of the companion debugger is installed. -/
def checkCompanion (s : Session) : Except DebugError Unit :=
  Debug.checkCompanion s.extensions.contains

/-- The configuration for the companion debugger, whose extension is looked for before the
SDK. -/
def provideCompanion (s : Session) (c : Configuration) :
    Option CompanionConfiguration × Session :=
  match s.checkCompanion with
  | .error e => (none, s.tell [e.message])
  | .ok () =>
    let (d, s) := s.resolve
    let outcome := Debug.provideCompanion (d.map Descriptor.sdk) c.orActiveFile
    (outcome.result?, s.tell outcome.messages)

/-- The configuration for the companion debugger with a descriptor. -/
def adapt (s : Session) (d : Descriptor) (c : Configuration) :
    Option CompanionConfiguration × Session :=
  match s.checkCompanion with
  | .error e => (none, s.tell [e.message])
  | .ok () =>
    let outcome := Debug.provideCompanion (some d.sdk) c
    (outcome.result?, s.tell outcome.messages)

end MojoToolchain.Session
