import MojoToolchain.Sdk.Probe

/-!
# The resolver

The resolver keeps one answer for the current environment.  Its state changes in single steps:
a call enters (`Resolver.enter`) and either has its answer at once or waits for a probe, which
it shares with every other call of the same epoch; a probe goes on by one instruction
(`Resolver.advance`); a call whose probe is done leaves (`Resolver.leave`); a change of the
environment opens a new epoch (`Resolver.invalidate`).  Any number of calls and probes may be
under way, and their steps may come in any order.
-/

namespace MojoToolchain

/-- An SDK that a probe has found.  Each probe finds at most one, so its number tells them
apart. -/
structure Descriptor where
  number : Nat
  sdk : Sdk
  deriving DecidableEq, Repr

/-- What the calls of a resolver share. -/
structure Slot where
  /-- The answer of the current epoch, once there is one. -/
  cached : Option Descriptor
  /-- The environment that was seen last. -/
  lastKey : Option String
  /-- The user was told of a failure in the current epoch. -/
  errorShown : Bool
  /-- How many changes of the environment there have been. -/
  epoch : Nat
  /-- The probe that calls may join: its epoch and its number. -/
  inFlight : Option (Nat × Nat)
  deriving DecidableEq, Repr

namespace Slot

/-- The slot of a resolver that was never used. -/
def empty : Slot := ⟨none, none, false, 0, none⟩

/-- The probe that a call of the current epoch joins. -/
def joinable (s : Slot) : Option Nat :=
  match s.inFlight with
  | some (epoch, number) => if epoch == s.epoch then some number else none
  | none => none

/-- A probe of an epoch has seen an environment: it is noted if the epoch is the current one and
none was noted before. -/
def observe (s : Slot) (epoch : Nat) (key : String) : Slot :=
  if s.epoch == epoch && s.lastKey.isNone then { s with lastKey := some key } else s

/-- A probe of an epoch reports a failure: the message to show, which is the first one of the
current epoch that is meant for the user. -/
def report (s : Slot) (epoch : Nat) (error : SdkError) : Slot × Option String :=
  if error.isVisible && s.epoch == epoch && !s.errorShown then
    ({ s with errorShown := true }, some error.userMessage)
  else (s, none)

/-- A call of an epoch has its result: it becomes the answer of the epoch, unless the epoch is
over or has an answer. -/
def leave (s : Slot) (epoch : Nat) (result : Option Descriptor) : Slot :=
  if s.epoch == epoch then
    { s with
      inFlight := if (s.inFlight.map Prod.fst) == some epoch then none else s.inFlight
      cached := s.cached <|> result }
  else s

/-- The environment is now the one of a key: if it was another one before, everything known is
dropped and a new epoch starts. -/
def invalidate (s : Slot) (key : String) : Option Slot :=
  if s.lastKey == some key then none
  else some ⟨none, some key, false, s.epoch + 1, none⟩

end Slot

/-- A probe under way or done, and the epoch in which it was started. -/
structure RunningProbe where
  epoch : Nat
  stage : Probe

/-- The state of a resolver. -/
structure Resolver where
  slot : Slot
  /-- All probes ever started, by number. -/
  probes : Array RunningProbe
  /-- The keys of all changes announced, in order. -/
  announced : Array String

/-- How a call enters: it has its answer, or it waits in an epoch for a probe. -/
inductive Entry where
  | answered (descriptor : Descriptor)
  | waiting (epoch : Nat) (probe : Nat)
  deriving DecidableEq, Repr

namespace Resolver

/-- A resolver that was never used. -/
def fresh : Resolver := ⟨.empty, #[], #[]⟩

/-- A call enters. -/
def enter (r : Resolver) : Entry × Resolver :=
  match r.slot.cached with
  | some d => (.answered d, r)
  | none =>
    match r.slot.joinable with
    | some number => (.waiting r.slot.epoch number, r)
    | none =>
      let number := r.probes.size
      (.waiting r.slot.epoch number,
        { r with
          slot := { r.slot with inFlight := some (r.slot.epoch, number) }
          probes := r.probes.push ⟨r.slot.epoch, .start⟩ })

/-- Sets the stage of a probe. -/
def setStage (r : Resolver) (number : Nat) (stage : Probe) : Resolver :=
  { r with probes := r.probes.modify number fun p => { p with stage := stage } }

/-- A probe goes on by one instruction; the host answers a question with `answer`.  The second
part is the message shown to the user, if there is one. -/
def advance (r : Resolver) (number : Nat) (answer : (q : Host.Question) → q.Answer) :
    Resolver × Option String :=
  match r.probes[number]? with
  | none => (r, none)
  | some probe =>
    match probe.stage with
    | .done _ => (r, none)
    | .ask q next => (r.setStage number (next (answer q)), none)
    | .observe key next =>
      ({ r with slot := r.slot.observe probe.epoch key }.setStage number next, none)
    | .report error next =>
      let (slot, message) := r.slot.report probe.epoch error
      ({ r with slot := slot }.setStage number next, message)

/-- The result of a probe that is done. -/
def result? (r : Resolver) (number : Nat) : Option (Option Descriptor) :=
  match r.probes[number]? with
  | some ⟨_, .done result⟩ => some (result.map fun sdk => ⟨number, sdk⟩)
  | _ => none

/-- A call that waits in an epoch leaves with a result. -/
def leave (r : Resolver) (epoch : Nat) (result : Option Descriptor) : Resolver :=
  { r with slot := r.slot.leave epoch result }

/-- The environment is now the one of a key; the answer says whether that is a change, which is
announced. -/
def invalidate (r : Resolver) (key : String) : Bool × Resolver :=
  match r.slot.invalidate key with
  | none => (false, r)
  | some slot => (true, { r with slot := slot, announced := r.announced.push key })

/-- A call that finds an answer changes nothing. -/
theorem enter_of_cached {r : Resolver} {d : Descriptor} (h : r.slot.cached = some d) :
  r.enter = (.answered d, r)
  := by
  simp [enter, h]

/-- A call is a change exactly when its key is not the last one seen. -/
theorem invalidate_fst (r : Resolver) (key : String) :
  (r.invalidate key).1 = (r.slot.lastKey != some key)
  := by
  by_cases h : r.slot.lastKey = some key <;> simp [invalidate, Slot.invalidate, h]

end Resolver

/-! ### Receivers of announcements -/

/-- What a receiver gets. -/
inductive Received where
  | nothing
  /-- The receiver was too slow, and so many announcements are lost to it. -/
  | lagged (lost : Nat)
  | change (key : String)
  deriving DecidableEq, Repr

/-- How many announcements are kept for a slow receiver. -/
def announcementsKept : Nat := 16

/-- What a receiver gets that has passed `position` announcements, and its position after. -/
def receive (announced : Array String) (position : Nat) : Received × Nat :=
  if position + announcementsKept < announced.size then
    let oldest := announced.size - announcementsKept
    (.lagged (oldest - position), oldest)
  else
    match announced[position]? with
    | some key => (.change key, position + 1)
    | none => (.nothing, position)

end MojoToolchain
