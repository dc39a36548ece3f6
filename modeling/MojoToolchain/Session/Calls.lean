import MojoToolchain.Session.Background

/-!
# Calls in a session

Calls of the resolver and of the supervisor.  A call in front waits until it has its result, and
time passes as needed; the calls in the background go on meanwhile.  What a call in front waits
for together with the background goes on in front first.
-/

namespace MojoToolchain.Session

/-! ### The resolver -/

/-- Time passes until a probe is done. -/
def waitFor (s : Session) (number : Nat) : Session :=
  match s.timer? number with
  | some timer => (s.elapse timer.time).wake number
  | none => s

/-- A call waits for its result. -/
def finish (s : Session) : Call → Option Descriptor × Session
  | .done result => (result, s)
  | .waiting epoch number =>
    match (s.waitFor number).settleCall (.waiting epoch number) with
    | (.done result, s) => (result, s)
    | (.waiting _ _, s) => (none, s)

/-- Finds the SDK. -/
def find (s : Session) : Option Descriptor × Session :=
  let (call, s) := s.begin
  s.finish call

/-! ### The supervisor -/

/-- The call that holds the supervisor waits until it has an SDK. -/
def findNow : Finding := fun s =>
  let (d, s) := s.find
  (some d, s)

/-- Time passes until nobody holds the supervisor; at most `bound` timers go off. -/
def waitTurn : Nat → Session → Session
  | 0, s => s
  | bound + 1, s =>
    if s.supervisor.stage.isNone then s
    else
      match s.timers.mergeSort fun a b => a.time ≤ b.time with
      | [] => s
      | timer :: _ => waitTurn bound (s.elapse timer.time).settle

/-- A call of the supervisor, which lets the watcher go first that holds it. -/
def superviseNow (s : Session) (call : SupervisorCall) : CallResult × Session :=
  let s := waitTurn (s.timers.length + s.watchers.length * s.resolver.announced.size) s
  let (result, s) := s.supervise findNow call
  (result.getD (.ok ()), s)

/-! ### What is asked of a session -/

/-- Finds the SDK. -/
def resolve (s : Session) : Option Descriptor × Session :=
  let (d, s) := s.find
  (d, s.settle)

/-- So many calls start, one after the other. -/
def beginAll : Nat → Session → List Call × Session
  | 0, s => ([], s)
  | n + 1, s =>
    let (call, s) := s.begin
    let (calls, s) := beginAll n s
    (call :: calls, s)

/-- Some calls wait for their results, one after the other. -/
def finishAll (s : Session) : List Call → List (Option Descriptor) × Session
  | [] => ([], s)
  | call :: rest =>
    let (d, s) := s.finish call
    let (ds, s) := s.finishAll rest
    (d :: ds, s)

/-- Finds the SDK for so many calls at the same time. -/
def resolveTogether (s : Session) (n : Nat) : List (Option Descriptor) × Session :=
  let (calls, s) := beginAll n s
  let (ds, s) := s.finishAll calls
  (ds, s.settle)

/-- Starts a call in the background; the answer is its number. -/
def resolveBehind (s : Session) : Nat × Session :=
  let number := s.calls.length
  let (call, s) := s.begin
  (number, ({ s with calls := s.calls ++ [call] }.join (.call number) call).settle)

/-- Waits for a call in the background. -/
def await (s : Session) (number : Nat) : Option Descriptor × Session :=
  let s : Session :=
    match s.calls[number]? with
    | some (.waiting _ probe) => ((s.timer? probe).elim s fun timer => s.elapse timer.time).settle
    | _ => s
  match s.calls[number]? with
  | some (.done result) => (result, s.settle)
  | _ => (none, s.settle)

/-- Time passes. -/
def advance (s : Session) (time : Nat) : Session := (s.elapse (s.clock + time)).settle

/-- The environment is now the one of a key. -/
def change (s : Session) (key : String) : Bool × Session :=
  let (changed, resolver) := s.resolver.invalidate key
  (changed, { s with resolver := resolver })

/-- The environment changes from one key to the next, before anything else goes on. -/
def invalidate (s : Session) : List String → List Bool × Session
  | [] => ([], s.settle)
  | key :: rest =>
    let (changed, s) := s.change key
    let (changes, s) := s.invalidate rest
    (changed :: changes, s)

/-- A new receiver, which gets what is announced from now on; the answer is its number. -/
def subscribe (s : Session) : Nat × Session :=
  (s.receivers.length, { s with receivers := s.receivers ++ [s.resolver.announced.size] })

/-- What a receiver gets next. -/
def receiveNext (s : Session) (number : Nat) : Received × Session :=
  match s.receivers[number]? with
  | none => (.nothing, s)
  | some position =>
    let (received, position) := receive s.resolver.announced position
    (received, { s with receivers := s.receivers.set number position })

/-- A call of the supervisor. -/
def call (s : Session) (c : SupervisorCall) : CallResult × Session :=
  let (result, s) := s.superviseNow c
  (result, s.settle)

/-- The launch of the server of the SDK. -/
def serverLaunch (s : Session) : Except ToolError ServerLaunch × Session :=
  match s.resolve with
  | (some d, s) => (.ok (s.supervisor.launchOf d.sdk), s)
  | (none, s) => (.error .noSdk, s)

/-- A new watcher, which sees what is announced from now on. -/
def watch (s : Session) : Session :=
  { s with watchers := s.watchers ++ [⟨s.resolver.announced.size, none⟩] }

/-- All watchers end; nobody holds the supervisor then. -/
def unwatch (s : Session) : Session :=
  { s with
    watchers := []
    timers := s.timers.map fun t =>
      { t with waiters := t.waiters.filter fun task => !(task matches .watcher _) }
    supervisor := { s.supervisor with stage := none } }

end MojoToolchain.Session
