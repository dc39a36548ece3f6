import MojoToolchain.Sdk.Resolver

/-!
# Looking the SDK up once

`Sdk.lookUp` is what a single call of a new resolver comes to when nothing else happens: the
SDK, and what the user is told.
-/

namespace MojoToolchain

open Host (Dialogue)

/-- A probe that runs alone, with the slot as it is: its result and what the user is told. -/
def Probe.alone : Probe → Slot → Dialogue (Option Sdk × List String)
  | .done result, _ => .done (result, [])
  | .ask q next, slot => .ask q fun answer => (next answer).alone slot
  | .observe key next, slot => next.alone (slot.observe slot.epoch key)
  | .report error next, slot => do
    let (slot, message) := slot.report slot.epoch error
    let (result, messages) ← next.alone slot
    return (result, message.toList ++ messages)

/-- Looks for the SDK: the SDK, and what the user is told. -/
def Sdk.lookUp : Dialogue (Option Sdk × List String) := Probe.start.alone .empty

/-- A probe that runs alone finds what it finds. -/
theorem Probe.answered_alone (host : (q : Host.Question) → q.Answer) (p : Probe) (slot : Slot) :
  ((p.alone slot).answered host).1 = p.answered host
  := by
  induction p generalizing slot with
  | done result => rfl
  | ask q next ih => exact ih _ _
  | observe key next ih => exact ih _
  | report error next ih =>
    simp only [alone, Bind.bind, Pure.pure, Dialogue.answered_bind, Dialogue.answered]
    exact ih _

end MojoToolchain
