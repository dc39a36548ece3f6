import MojoToolchain.Proofs.Resolver.Epochs
import MojoToolchain.Proofs.Server.OneServer

/-!
# Watching

A `Watching.History` is a resolver and a supervisor with their histories, and any number of
followers that restart the server for what the resolver announces.  The holder of the supervisor
looks for the SDK with a call of the resolver (`History.query`), and the descriptor that the call
returns is noted when a server is started with it (`History.origins`).

Scheduling is cooperative, so that a change of the environment opens its epoch and announces it in
one step.  Nothing else is tied together: calls of the resolver and the supervisor, probes, changes
and followers may take their steps in any order.
-/

namespace MojoToolchain

/-! ### What a supervisor can become -/

namespace Supervisor

/-- The SDK that an event brings. -/
def Event.sdk? : Event → Option Sdk
  | .resolved sdk => sdk
  | _ => none

/-- The SDK that a step brings. -/
def Step.sdk? : Step → Option Sdk
  | .proceed _ event => event.sdk?
  | _ => none

/-- What a supervisor can become when a step brings an SDK or none: it stays as it is, or no server
runs and none is started, or it begins to start a server of the SDK, or a server is started. -/
inductive Moved (s : Supervisor) (sdk : Option Sdk) : Supervisor → Prop
  | rest : Moved s sdk s
  | cleared (alive : List Server) {stage : Option Stage}
      (hstage : ∀ launch, stage ≠ some (.spawning launch)) :
      Moved s sdk { s with current := none, alive := alive, stage := stage }
  | launching {found : Sdk} (hsdk : sdk = some found) :
      Moved s sdk { s with stage := some (.spawning (s.launchOf found)) }
  | started {launch : ServerLaunch} (hstage : s.stage = some (.spawning launch)) :
      Moved s sdk { s.running launch with stage := none }

/-- A restart that gets the supervisor leaves no server, and does not start one yet. -/
theorem enter_restart (s : Supervisor) :
  ∃ stage, (∀ launch, stage ≠ .spawning launch)
    ∧ (s.enter .restart).2 = { s with current := none, stage := some stage }
  := by
  cases hc : s.current with
  | none => exact ⟨.resolving, by simp, by simp [enter, hc, await]⟩
  | some server => exact ⟨.stopping server true, by simp, by simp [enter, hc, await]⟩

theorem moved_enter {s : Supervisor} (hfree : s.stage = none) (call : SupervisorCall) :
  s.Moved none (s.enter call).2
  := by
  have hfinish (result : CallResult) : (s.finish result).2 = s := by rw [finish, ← hfree]
  cases call with
  | start =>
    cases hc : s.current with
    | none =>
      have hm : s.Moved none { s with current := none, stage := some .resolving } :=
        .cleared s.alive (by simp)
      rw [← hc] at hm
      simpa [enter, hc, await] using hm
    | some server =>
      simp only [enter, hc, hfinish]
      exact .rest
  | stop =>
    cases hc : s.current with
    | none =>
      simp only [enter, hc, hfinish]
      exact .rest
    | some server =>
      simp only [enter, hc, await]
      exact .cleared s.alive (by simp)
  | restart =>
    obtain ⟨stage, hstage, hs⟩ := s.enter_restart
    rw [hs]
    apply Moved.cleared s.alive
    simpa using hstage

/-- What happens to the holder of a supervisor. -/
theorem Underway.moved {before s : Supervisor} {call : SupervisorCall}
    (h : Underway before call s) (event : Event) :
  s.Moved event.sdk? (s.step event).2
  := by
  have hnone : s.current = none := h.held.1
  have hclear {alive : List Server} {stage : Option Stage}
      (hstage : ∀ launch, stage ≠ some (.spawning launch)) :
      s.Moved event.sdk? { s with alive := alive, stage := stage } := by
    have hm : s.Moved event.sdk? { s with current := none, alive := alive, stage := stage } :=
        .cleared alive hstage
    rwa [← hnone] at hm
  unfold step
  split
  case h_1 server again hs =>
    dsimp only
    split
    · exact hclear (by simp)
    · exact hclear (by simp)
  case h_2 sdk hs => exact .launching rfl
  case h_3 hs => exact hclear (by simp)
  case h_4 launch hs => exact .started hs
  case h_5 launch fault hs => exact hclear (by simp)
  case h_6 => exact .rest

namespace History

/-- What a step of a history makes of the supervisor. -/
theorem Sound.moved {h : History} (hsound : h.Sound) (s : Step) :
  h.supervisor.Moved s.sdk? (h.step s).supervisor
  := by
  cases s with
  | ask call => exact .rest
  | enter n =>
    rcases h.enter_cases n with hs | ⟨call, hfree, -, hs⟩
    · rw [hs]
      exact .rest
    · rw [hs]
      exact moved_enter hfree call
  | proceed n event =>
    rcases h.proceed_cases n event with hs | ⟨call, before, hcall, hs⟩
    · rw [hs]
      exact .rest
    · rw [hs]
      exact (hsound.turn.underway hcall).2.1.moved event

/-- A call that waits goes on waiting until it gets the supervisor. -/
theorem waiting_step {h : History} {n : Nat} {call : SupervisorCall}
    (hn : h.calls[n]? = some ⟨call, .waiting⟩) (s : Step) :
  (h.step s).calls[n]? = some ⟨call, .waiting⟩
    ∨ h.supervisor.stage = none ∧ (h.step s).supervisor = (h.supervisor.enter call).2
  := by
  cases s with
  | ask call' =>
    left
    rw [step, Array.getElem?_push, if_neg]
    · exact hn
    · exact Nat.ne_of_lt (Array.getElem?_eq_some_iff.mp hn).1
  | enter m =>
    rcases h.enter_cases m with hs | ⟨call', hfree, hm, hs⟩
    · left
      rwa [hs]
    · by_cases hne : n = m
      · subst hne
        cases hn.symm.trans hm
        right
        exact ⟨hfree, congrArg History.supervisor hs⟩
      · left
        rwa [hs, goOn_calls_of_ne h hne]
  | proceed m event =>
    left
    rcases h.proceed_cases m event with hs | ⟨call', before, hm, hs⟩
    · rwa [hs]
    · have hne : n ≠ m := by
        rintro rfl
        cases hn.symm.trans hm
      rw [hs, goOn_calls_of_ne _ hne]
      exact hn

end History

end Supervisor

/-! ### Histories -/

namespace Watching

/-- What restarts the server for every announcement. -/
structure Follower where
  /-- How many announcements it has passed. -/
  position : Nat
  /-- The call of the supervisor that it waits for, if it waits for one. -/
  restart : Option Nat
  deriving DecidableEq

/-- A resolver, a supervisor and followers, and what has happened to them. -/
structure History where
  resolver : Resolver.History
  supervisor : Supervisor.History
  /-- The call of the resolver with which the holder of the supervisor has looked for the SDK. -/
  query : Option Nat
  /-- The descriptors that servers were started with, by the number of the server. -/
  origins : List Descriptor
  followers : Array Follower

/-- One step of a history. -/
inductive Step where
  /-- Something happens to the resolver. -/
  | resolve (step : Resolver.Step)
  /-- A new call of the supervisor waits for its turn. -/
  | ask (call : SupervisorCall)
  /-- A call that waits gets the supervisor. -/
  | enter (call : Nat)
  /-- The server has stopped, for which a call waits. -/
  | stopped (call : Nat)
  /-- The holder of the supervisor looks for the SDK. -/
  | query
  /-- A call is given what the resolver has returned. -/
  | given (call : Nat)
  /-- The server has started or not, for which a call waits. -/
  | spawned (call : Nat) (outcome : Except Host.Fault Unit)
  /-- A new follower sees what is announced from now on. -/
  | watch
  /-- A follower takes what is announced, if there is something, and asks for a restart. -/
  | receive (follower : Nat)
  /-- A follower goes on whose restart is over. -/
  | resume (follower : Nat)

namespace History

/-- What the resolver has returned to the holder of the supervisor. -/
def given? (h : History) : Option (Option Descriptor) :=
  h.query.bind fun query =>
    match h.resolver.calls[query]? with
    | some ⟨_, .returned result⟩ => some result
    | _ => none

/-- Something happens to the supervisor.  If it starts a server, the descriptor is noted; if nobody
holds it then, nobody looks for the SDK. -/
def supervise (h : History) (s : Supervisor.Step) : History :=
  { h with
    supervisor := h.supervisor.step s
    query := if (h.supervisor.step s).supervisor.stage = none then none else h.query
    origins :=
      if h.supervisor.supervisor.starts < (h.supervisor.step s).supervisor.starts then
        h.origins ++ h.given?.join.toList
      else h.origins }

/-- A call of the supervisor is over. -/
def isOver (h : History) (call : Nat) : Bool :=
  match h.supervisor.calls[call]? with
  | some ⟨_, .returned _ _ _⟩ => true
  | _ => false

/-- The history after a step. -/
def step (h : History) : Step → History
  | .resolve s => { h with resolver := h.resolver.step s }
  | .ask call => h.supervise (.ask call)
  | .enter call => h.supervise (.enter call)
  | .stopped call => h.supervise (.proceed call .stopped)
  | .query =>
    if h.supervisor.supervisor.stage = some .resolving ∧ h.query = none then
      { h with resolver := h.resolver.step .enter, query := some h.resolver.calls.size }
    else h
  | .given call =>
    match h.given? with
    | some result => h.supervise (.proceed call (.resolved (result.map Descriptor.sdk)))
    | none => h
  | .spawned call outcome => h.supervise (.proceed call (.spawned outcome))
  | .watch => { h with followers := h.followers.push ⟨h.resolver.resolver.announced.size, none⟩ }
  | .receive follower =>
    match h.followers[follower]? with
    | some ⟨position, none⟩ =>
      match receive h.resolver.resolver.announced position with
      | (.nothing, _) => h
      | (_, position) =>
        { h.supervise (.ask .restart) with
          followers := h.followers.setIfInBounds follower
            ⟨position, some h.supervisor.calls.size⟩ }
    | _ => h
  | .resume follower =>
    match h.followers[follower]? with
    | some ⟨position, some call⟩ =>
      if h.isOver call then
        { h with followers := h.followers.setIfInBounds follower ⟨position, none⟩ }
      else h
    | _ => h

/-- The history in which nothing has happened. -/
def fresh (options : SupervisorOptions) : History := ⟨.fresh, .fresh options, none, [], #[]⟩

/-- The history that a list of steps leads to. -/
def after (options : SupervisorOptions) (steps : List Step) : History :=
  steps.foldl step (fresh options)

@[simp]
theorem after_concat (options : SupervisorOptions) (steps : List Step) (s : Step) :
  after options (steps ++ [s]) = (after options steps).step s
  := by
  simp [after]

end History

end Watching

end MojoToolchain
