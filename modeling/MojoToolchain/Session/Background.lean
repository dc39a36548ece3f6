import MojoToolchain.Session.Basic

/-!
# What goes on in the background

Calls of the resolver and watchers go on while time passes.  A watcher takes what is announced
and restarts the server each time; when the restart has to wait for a probe, the watcher holds
the supervisor meanwhile, and the other watchers leave their announcements where they are.
`Session.settle` lets all go on that can without time; `Session.elapse` lets time pass, and the
timers that are due go off in order of time.
-/

namespace MojoToolchain.Session

/-! ### The supervisor -/

/-- How the call that holds the supervisor comes by an SDK: at once, or not yet. -/
abbrev Finding := Session → Option (Option Descriptor) × Session

/-- What a stage of the supervisor waits for happens; there is no event yet when it has to wait
for a probe. -/
def happen (s : Session) (finding : Finding) : Stage → Option Supervisor.Event × Session
  | .stopping _ _ => (some .stopped, s)
  | .resolving =>
    let (found, s) := finding s
    (found.map fun d => .resolved (d.map Descriptor.sdk), s)
  | .spawning launch =>
    match s.refusal with
    | some reason => (some (.spawned (.error (.because reason))), { s with refusal := none })
    | none => (some (.spawned (.ok ())), { s with spawned := s.spawned ++ [launch.command] })

/-- The call that holds the supervisor goes on to its end, or until it has to wait for a probe;
there are at most `bound` things that it waits for. -/
def goOn (finding : Finding) : Nat → Session → Option CallResult × Session
  | 0, s => (some (.ok ()), s)
  | bound + 1, s =>
    match s.supervisor.stage with
    | none => (some (.ok ()), s)
    | some stage =>
      match s.happen finding stage with
      | (none, s) => (none, s)
      | (some event, s) =>
        match s.supervisor.step event with
        | (some result, supervisor) => (some result, { s with supervisor := supervisor })
        | (none, supervisor) => goOn finding bound { s with supervisor := supervisor }

/-- A call of a supervisor that nobody holds: it waits for a server to stop, for the SDK and for
a server to start, and for nothing else. -/
def supervise (s : Session) (finding : Finding) (call : SupervisorCall) :
    Option CallResult × Session :=
  match s.supervisor.enter call with
  | (some result, supervisor) => (some result, { s with supervisor := supervisor })
  | (none, supervisor) => goOn finding 3 { s with supervisor := supervisor }

/-! ### Watchers -/

/-- A watcher looks for the SDK; when that takes time, the watcher waits. -/
def findFor (number position : Nat) : Finding := fun s =>
  match s.begin with
  | (.done result, s) => (some result, s)
  | (call, s) =>
    let waiting : Watcher := ⟨position, some call⟩
    (none, { s with watchers := s.watchers.set number waiting }.join (.watcher number) call)

/-- A watcher takes what is announced and restarts the server each time, until it has seen all
or has to wait; there are at most so many announcements for it, and a notice that some are
lost. -/
def watchFrom (number : Nat) : Nat → Nat → Session → Session
  | 0, position, s => { s with watchers := s.watchers.set number ⟨position, none⟩ }
  | bound + 1, position, s =>
    match receive s.resolver.announced position with
    | (.nothing, position) => { s with watchers := s.watchers.set number ⟨position, none⟩ }
    | (_, position) =>
      match s.supervise (findFor number position) .restart with
      | (none, s) => s
      | (some _, s) => watchFrom number bound position s

/-- A watcher goes on: in its restart, if the probe for it is done, and with what is announced,
if nobody holds the supervisor. -/
def watchOn (s : Session) (number : Nat) : Session :=
  match s.watchers[number]? with
  | none => s
  | some ⟨position, none⟩ =>
    if s.supervisor.stage.isNone then watchFrom number (announcementsKept + 1) position s else s
  | some ⟨position, some call⟩ =>
    match s.settleCall call with
    | (.waiting _ _, s) => s
    | (.done result, s) =>
      let (_, s) := goOn (fun s => (some result, s)) 3 s
      watchFrom number (announcementsKept + 1) position s

/-! ### Time -/

/-- A task goes on. -/
def proceedWith (s : Session) : Task → Session
  | .watcher number => s.watchOn number
  | .call number =>
    match s.calls[number]? with
    | none => s
    | some call =>
      let (call, s) := s.settleCall call
      { s with calls := s.calls.set number call }

/-- The timers that are due go off, each with what waits for its probe; there are at most
`bound` of them. -/
def fire : Nat → Session → Session
  | 0, s => s
  | bound + 1, s =>
    match s.timers.find? (·.time ≤ s.clock) with
    | none => s
    | some timer =>
      let s := { s with timers := s.timers.erase timer }.wake timer.probe
      fire bound (timer.waiters.foldl proceedWith s)

/-- All that can go on without time goes on. -/
def settle (s : Session) : Session :=
  let s := fire s.timers.length s
  (List.range s.watchers.length).foldl watchOn s

/-- The first timer that goes off before a point of time. -/
def nextTimer? (s : Session) (time : Nat) : Option Timer :=
  ((s.timers.filter (·.time < time)).mergeSort fun a b => a.time ≤ b.time).head?

/-- All timers before a point of time go off, at most `bound` of them. -/
def elapseBefore (time : Nat) : Nat → Session → Session
  | 0, s => s
  | bound + 1, s =>
    match s.nextTimer? time with
    | none => s
    | some timer => elapseBefore time bound { s with clock := timer.time }.settle

/-- Time passes up to a point; what is due at that point does not go on yet.  A watcher sets a
timer at most once for each announcement. -/
def elapse (s : Session) (time : Nat) : Session :=
  let s := elapseBefore time (s.timers.length + s.watchers.length * s.resolver.announced.size) s
  { s with clock := max s.clock time }

end MojoToolchain.Session
