import Mathlib.Data.List.Induction
import MojoToolchain.Server.Supervisor

/-!
# Histories of a supervisor

A `Supervisor.History` is a supervisor with every call made to it, and with every server that was
started or stopped, in order.  It changes by a `Supervisor.Step` at a time: a call is made and
waits for its turn, a call that waits gets the supervisor if nobody holds it, or something happens
that the holder may wait for.  `Supervisor.History.after` is what any list of steps leads to from
a supervisor that has not done anything; nothing restricts the number of calls, the order in which
they get their turns, or what the host does.
-/

namespace MojoToolchain.Supervisor

/-- How far a call is. -/
inductive Progress where
  /-- It waits for its turn. -/
  | waiting
  /-- It holds the supervisor, which it has found in a state. -/
  | holding (before : Supervisor)
  /-- It has found the supervisor in one state and left it in another. -/
  | returned (before after : Supervisor) (result : CallResult)
  deriving DecidableEq

/-- A call of a supervisor. -/
structure Visit where
  call : SupervisorCall
  progress : Progress
  deriving DecidableEq

/-- What is done with a server. -/
inductive Deed where
  | started (server : Server)
  | stopped (server : Server)
  deriving DecidableEq

/-- A server is started. -/
def Deed.isStart : Deed → Bool
  | started _ => true
  | stopped _ => false

/-- What is done when something happens. -/
def deed? (s : Supervisor) (event : Event) : Option Deed :=
  match s.stage, event with
  | some (.stopping server _), .stopped => some (.stopped server)
  | some (.spawning launch), .spawned (.ok ()) => some (.started (s.newServer launch))
  | _, _ => none

/-- A supervisor and what has happened to it. -/
structure History where
  supervisor : Supervisor
  /-- All calls ever made, by number. -/
  calls : Array Visit
  /-- What was done with servers, in order. -/
  deeds : List Deed

/-- One step of a history. -/
inductive Step where
  /-- A new call waits for its turn. -/
  | ask (call : SupervisorCall)
  /-- A call that waits gets the supervisor. -/
  | enter (call : Nat)
  /-- Something happens to the call that holds the supervisor. -/
  | proceed (call : Nat) (event : Event)

/-- How far a call is that has found the supervisor in one state and leaves it in another, with a
result if it is over. -/
def progressOf (before : Supervisor) : Option CallResult × Supervisor → Progress
  | (none, _) => .holding before
  | (some result, after) => .returned before after result

namespace History

/-- A call has made something of the supervisor that it has found. -/
def goOn (h : History) (number : Nat) (call : SupervisorCall) (before : Supervisor)
    (outcome : Option CallResult × Supervisor) : History :=
  { h with
    supervisor := outcome.2
    calls := h.calls.setIfInBounds number ⟨call, progressOf before outcome⟩ }

/-- The history after a step. -/
def step (h : History) : Step → History
  | .ask call => { h with calls := h.calls.push ⟨call, .waiting⟩ }
  | .enter number =>
    match h.supervisor.stage, h.calls[number]? with
    | none, some ⟨call, .waiting⟩ =>
      h.goOn number call h.supervisor (h.supervisor.enter call)
    | _, _ => h
  | .proceed number event =>
    match h.calls[number]? with
    | some ⟨call, .holding before⟩ =>
      { h with deeds := h.deeds ++ (h.supervisor.deed? event).toList }.goOn number call before
        (h.supervisor.step event)
    | _ => h

/-- The history of a supervisor that has not done anything. -/
def fresh (options : SupervisorOptions) : History := ⟨.fresh options, #[], []⟩

/-- The history that a list of steps leads to. -/
def after (options : SupervisorOptions) (steps : List Step) : History :=
  steps.foldl step (fresh options)

@[simp]
theorem after_concat (options : SupervisorOptions) (steps : List Step) (s : Step) :
  after options (steps ++ [s]) = (after options steps).step s
  := by
  simp [after]

/-! ### What a step does -/

/-- A call gets its turn only while nobody holds the supervisor. -/
theorem enter_cases (h : History) (number : Nat) :
  h.step (.enter number) = h
    ∨ ∃ call, h.supervisor.stage = none ∧ h.calls[number]? = some ⟨call, .waiting⟩
      ∧ h.step (.enter number)
        = h.goOn number call h.supervisor (h.supervisor.enter call)
  := by
  unfold step
  dsimp only
  split
  case h_1 call hstage hcall => exact .inr ⟨call, hstage, hcall, rfl⟩
  case h_2 => exact .inl rfl

/-- Things happen only to the holder of the supervisor. -/
theorem proceed_cases (h : History) (number : Nat) (event : Event) :
  h.step (.proceed number event) = h
    ∨ ∃ call before, h.calls[number]? = some ⟨call, .holding before⟩
      ∧ h.step (.proceed number event)
        = { h with deeds := h.deeds ++ (h.supervisor.deed? event).toList }.goOn number call before
          (h.supervisor.step event)
  := by
  unfold step
  dsimp only
  split
  case h_1 call before hcall => exact .inr ⟨call, before, hcall, rfl⟩
  case h_2 => exact .inl rfl

theorem goOn_calls_self {h : History} {number : Nat} {v : Visit} (hv : h.calls[number]? = some v)
    (call : SupervisorCall) (before : Supervisor) (outcome : Option CallResult × Supervisor) :
  (h.goOn number call before outcome).calls[number]? = some ⟨call, progressOf before outcome⟩
  := Array.getElem?_setIfInBounds_self_of_lt (Array.getElem?_eq_some_iff.mp hv).1

theorem goOn_calls_of_ne (h : History) {number other : Nat} (hne : other ≠ number)
    (call : SupervisorCall) (before : Supervisor) (outcome : Option CallResult × Supervisor) :
  (h.goOn number call before outcome).calls[other]? = h.calls[other]?
  := Array.getElem?_setIfInBounds_ne hne.symm

end History

end MojoToolchain.Supervisor
