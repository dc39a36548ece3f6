import MojoToolchain.Host.MemoryHost
import MojoToolchain.Sdk.Resolver
import MojoToolchain.Server.Supervisor

/-!
# Sessions

A `Session` is an editor with a host in memory, a resolver, a supervisor and a clock.  Only the
search for the active environment takes time, `Session.delay` from its start to its end; all
else happens at once.  A probe that waits has a timer, and what waits for the probe in the
background is kept with the timer, in the order in which it began to wait.
-/

namespace MojoToolchain

/-- What goes on in the background. -/
inductive Task where
  /-- A call of the resolver, by its number. -/
  | call (number : Nat)
  /-- A watcher, by its number. -/
  | watcher (number : Nat)
  deriving DecidableEq, Repr

/-- When a probe that waits for the active environment goes on, and what waits for the probe. -/
structure Timer where
  time : Nat
  probe : Nat
  waiters : List Task
  deriving DecidableEq, Repr

/-- A call of the resolver. -/
inductive Call where
  /-- It waits in an epoch for a probe. -/
  | waiting (epoch probe : Nat)
  | done (result : Option Descriptor)
  deriving DecidableEq, Repr

/-- What restarts the server for every announcement. -/
structure Watcher where
  /-- How many announcements it has passed. -/
  position : Nat
  /-- The call of the resolver that its restart waits for, if it is in one. -/
  restart : Option Call
  deriving DecidableEq, Repr

/-- An editor session. -/
structure Session where
  host : Host.MemoryHost
  /-- The editor extensions that are installed. -/
  extensions : List String
  /-- The options for debug configurations. -/
  options : NormalizerOptions
  clock : Nat
  /-- How long it takes to find the active environment. -/
  delay : Nat
  /-- How often the active environment was asked for. -/
  lookups : Nat
  /-- The timers of the probes that wait, in the order in which they were set. -/
  timers : List Timer
  resolver : Resolver
  /-- What the user was told. -/
  messages : List String
  /-- The calls in the background, in order. -/
  calls : List Call
  /-- What is known about scripting, by the number of the descriptor. -/
  scripting : List (Nat × Bool)
  supervisor : Supervisor
  /-- Why the next server does not start. -/
  refusal : Option String
  /-- The commands of the servers that were started. -/
  spawned : List Path
  /-- How many announcements each receiver has passed. -/
  receivers : List Nat
  watchers : List Watcher

namespace Session

/-- A session at its start. -/
def start (host : Host.MemoryHost) (extensions : List String) (options : NormalizerOptions)
    (supervisor : SupervisorOptions) : Session where
  host := host
  extensions := extensions
  options := options
  clock := 0
  delay := 0
  lookups := 0
  timers := []
  resolver := .fresh
  messages := []
  calls := []
  scripting := []
  supervisor := .fresh supervisor
  refusal := none
  spawned := []
  receivers := []
  watchers := []

/-! ### Probes -/

/-- A probe goes on by one instruction, which asks the host a question or none. -/
def proceed (s : Session) (number : Nat) (asked : Option Host.Question) : Session :=
  let (resolver, message) := s.resolver.advance number s.host.reply
  { s with
    resolver := resolver
    host := asked.elim s.host s.host.after
    messages := s.messages ++ message.toList }

/-- A probe goes on until it is done or has to wait. -/
def drive (number : Nat) : Probe → Session → Session
  | .done _, s => s
  | .ask .activeEnvironment next, s =>
    let s := { s with lookups := s.lookups + 1 }
    if s.delay == 0 then
      drive number (next s.host.active) (s.proceed number (some .activeEnvironment))
    else { s with timers := s.timers ++ [⟨s.clock + s.delay, number, []⟩] }
  | .ask q next, s => drive number (next (s.host.reply q)) (s.proceed number (some q))
  | .observe _ next, s => drive number next (s.proceed number none)
  | .report _ next, s => drive number next (s.proceed number none)

/-- A probe that waits for the active environment has it now. -/
def wake (s : Session) (number : Nat) : Session :=
  match (s.resolver.probes[number]?).map RunningProbe.stage with
  | some (.ask .activeEnvironment next) =>
    drive number (next s.host.active) (s.proceed number (some .activeEnvironment))
  | _ => s

/-- The timer of a probe that waits. -/
def timer? (s : Session) (number : Nat) : Option Timer := s.timers.find? (·.probe == number)

/-! ### Calls of the resolver -/

/-- A call whose probe is done ends. -/
def settleCall (s : Session) : Call → Call × Session
  | .done result => (.done result, s)
  | .waiting epoch number =>
    match s.resolver.result? number with
    | none => (.waiting epoch number, s)
    | some result => (.done result, { s with resolver := s.resolver.leave epoch result })

/-- A call starts; a probe that it starts goes on until it is done or has to wait. -/
def begin (s : Session) : Call × Session :=
  let (entry, resolver) := s.resolver.enter
  let entered := { s with resolver := resolver }
  match entry with
  | .answered d => (.done (some d), entered)
  | .waiting epoch number =>
    let isNew := s.resolver.probes.size < resolver.probes.size
    (if isNew then drive number .start entered else entered).settleCall (.waiting epoch number)

/-- A task waits for what its call waits for. -/
def join (s : Session) (task : Task) : Call → Session
  | .done _ => s
  | .waiting _ number =>
    { s with timers := s.timers.map fun t =>
        if t.probe == number then { t with waiters := t.waiters ++ [task] } else t }

/-- A call that is done stays as it is. -/
theorem settleCall_done (s : Session) (result : Option Descriptor) :
  s.settleCall (.done result) = (.done result, s)
  := rfl

end Session

end MojoToolchain
