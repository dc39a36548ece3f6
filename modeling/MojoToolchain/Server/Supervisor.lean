import MojoToolchain.Server.Launch
import MojoToolchain.Settings.Basic
import MojoToolchain.ToolError

/-!
# The supervisor of the language server

The supervisor keeps one language server running.  One call at a time holds it; what the call
waits for is its `Stage`, and each event lets it go on: the old server has stopped, an SDK has
been found or not, the new server has started or not.  `Supervisor.enter` lets a call in when no
other holds the supervisor.
-/

namespace MojoToolchain

/-- A server that was started; no two starts have the same number. -/
structure Server where
  number : Nat
  launch : ServerLaunch
  deriving DecidableEq, Repr

/-- What a supervisor is asked to do. -/
inductive SupervisorCall where
  /-- Start the server unless it runs. -/
  | start
  /-- Stop the server if it runs. -/
  | stop
  /-- Stop the server if it runs, and start it again. -/
  | restart
  deriving DecidableEq, Repr

/-- What the call that holds a supervisor waits for. -/
inductive Stage where
  /-- For a server to stop; `again` says that another one is started then. -/
  | stopping (server : Server) (again : Bool)
  /-- For the SDK. -/
  | resolving
  /-- For a server to start. -/
  | spawning (launch : ServerLaunch)
  deriving DecidableEq, Repr

/-- How a call of a supervisor ends. -/
abbrev CallResult := Except ToolError Unit

/-- The state of a supervisor. -/
structure Supervisor where
  options : SupervisorOptions
  /-- The server that runs. -/
  current : Option Server
  /-- What the call that holds the supervisor waits for; nobody holds it if there is none. -/
  stage : Option Stage
  /-- The servers that were started and not stopped. -/
  alive : List Server
  /-- How many servers were started. -/
  starts : Nat
  deriving DecidableEq, Repr

namespace Supervisor

/-- A supervisor that has not done anything. -/
def fresh (options : SupervisorOptions) : Supervisor := ⟨options, none, none, [], 0⟩

/-- The launch of the server of an SDK. -/
def launchOf (s : Supervisor) (sdk : Sdk) : ServerLaunch :=
  .ofSdk sdk s.options.telemetry s.options.extraArgs

/-- The holder waits for something. -/
def await (s : Supervisor) (stage : Stage) : Option CallResult × Supervisor :=
  (none, { s with stage := some stage })

/-- The holder ends its call. -/
def finish (s : Supervisor) (result : CallResult) : Option CallResult × Supervisor :=
  (some result, { s with stage := none })

/-- A call enters a supervisor that nobody holds; its result, if it ends at once. -/
def enter (s : Supervisor) (call : SupervisorCall) : Option CallResult × Supervisor :=
  match call, s.current with
  | .start, some _ => s.finish (.ok ())
  | .start, none => s.await .resolving
  | .stop, none => s.finish (.ok ())
  | .stop, some server => { s with current := none }.await (.stopping server false)
  | .restart, none => s.await .resolving
  | .restart, some server => { s with current := none }.await (.stopping server true)

/-- What a holder waits for happens. -/
inductive Event where
  | stopped
  | resolved (sdk : Option Sdk)
  | spawned (outcome : Except Host.Fault Unit)

/-- The server that a holder starts. -/
def newServer (s : Supervisor) (launch : ServerLaunch) : Server := ⟨s.starts, launch⟩

/-- The holder goes on with an event that it waits for; the result of its call, if that ends
it.  An event that it does not wait for changes nothing. -/
def step (s : Supervisor) (event : Event) : Option CallResult × Supervisor :=
  match s.stage, event with
  | some (.stopping server again), .stopped =>
    let s := { s with alive := s.alive.erase server }
    if again then s.await .resolving else s.finish (.ok ())
  | some .resolving, .resolved (some sdk) => s.await (.spawning (s.launchOf sdk))
  | some .resolving, .resolved none => s.finish (.error .noSdk)
  | some (.spawning launch), .spawned (.ok ()) =>
    let server := s.newServer launch
    { s with current := some server, alive := server :: s.alive, starts := s.starts + 1 }.finish
      (.ok ())
  | some (.spawning launch), .spawned (.error fault) =>
    s.finish (.error (.spawn launch.command fault))
  | _, _ => (none, s)

/-- A server runs. -/
def isRunning (s : Supervisor) : Bool := s.current.isSome

/-- A start while a server runs does nothing. -/
theorem enter_start_of_isRunning {s : Supervisor} (h : s.isRunning) (free : s.stage = none) :
  s.enter .start = (some (.ok ()), s)
  := by
  obtain ⟨options, current, stage, alive, starts⟩ := s
  obtain ⟨server, hs⟩ := Option.isSome_iff_exists.1 h
  simp_all [enter, finish]

end Supervisor

end MojoToolchain
