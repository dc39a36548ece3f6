import MojoToolchain.CommandLine.Terminal
import MojoToolchain.Proofs.Host.ReadOnly
import MojoToolchain.Sdk.Lookup

/-!
# The search changes no file

Whatever it is told, the search for the SDK reads only: as a probe (`asks_start`), and when it is
run in a terminal (`readsOnly_lookUp`).
-/

namespace MojoToolchain

open Host (Dialogue Question)
open Host.Dialogue (Asks ReadsOnly)

/-! ### Probes -/

/-- All questions of a probe are of one sort, whatever it is told. -/
def Probe.Asks (P : Question → Prop) : Probe → Prop
  | done _ => True
  | ask q next => P q ∧ ∀ answer, (next answer).Asks P
  | observe _ next => next.Asks P
  | report _ next => next.Asks P

namespace Probe

variable {P : Question → Prop}

theorem asks_after {dialogue : Dialogue α} {f : α → Probe} (hd : dialogue.Asks P)
    (hf : ∀ a, (f a).Asks P) :
  (after dialogue f).Asks P
  := by
  induction dialogue with
  | done a => exact hf a
  | ask q next ih => exact ⟨hd.1, fun answer => ih answer (hd.2 answer)⟩

theorem asks_alone {p : Probe} (h : p.Asks P) (slot : Slot) :
  (p.alone slot).Asks P
  := by
  induction p generalizing slot with
  | done result => trivial
  | ask q next ih => exact ⟨h.1, fun answer => ih answer (h.2 answer) slot⟩
  | observe key next ih => exact ih h _
  | report error next ih => exact .bind (ih h _) fun _ => trivial

end Probe

/-! ### The sources -/

namespace Sdk

theorem readsOnly_exists? (path : Path) :
  (Dialogue.exists? path).ReadsOnly
  := .bind (.question id) fun _ => trivial

theorem readsOnly_missingOf (paths : List Path) :
  (missingOf paths).ReadsOnly
  := by
  induction paths with
  | nil => trivial
  | cons path rest ih =>
    apply Asks.bind (readsOnly_exists? path)
    intro found
    exact .bind ih fun _ => trivial

theorem readsOnly_verify (sdk : Sdk) :
  sdk.verify.ReadsOnly
  := by
  apply Asks.bind (readsOnly_missingOf sdk.paths)
  intro missing
  split
  · trivial
  · trivial

theorem readsOnly_loadHome (kind : Kind) (home : Path) (root : Option Path) :
  (loadHome kind home root).ReadsOnly
  := by
  apply Asks.bind
  · apply Asks.bind (.question id)
    intro bytes
    repeat' split
    all_goals trivial
  · intro descriptor
    split
    · trivial
    · split
      · trivial
      · apply readsOnly_verify

theorem readsOnly_workspaceSource :
  workspaceSource.ReadsOnly
  := by
  apply Asks.bind (.question id)
  intro roots
  split
  · apply Asks.bind (.question id)
    intro kind
    split
    · exact .bind (readsOnly_loadHome _ _ _) fun _ => trivial
    · trivial
  · trivial

theorem readsOnly_activeEnvironment :
  activeEnvironment.ReadsOnly
  := by
  apply Asks.bind (.question id)
  intro name
  split
  · trivial
  · exact .question id

theorem readsOnly_loadPackaged (environment : Host.Environment) :
  (loadPackaged environment).ReadsOnly
  := by
  apply Asks.bind (readsOnly_missingOf _)
  intro missing
  split
  · apply Asks.bind
    · apply Asks.bind (.question id)
      intro output
      split
      · trivial
      · trivial
    · intro version
      apply readsOnly_verify
  · trivial

theorem readsOnly_environmentSource (environment : Host.Environment) :
  (environmentSource environment).ReadsOnly
  := by
  apply Asks.bind (readsOnly_exists? _)
  intro found
  split
  · apply readsOnly_loadHome
  · apply readsOnly_loadPackaged

/-- A search changes no file. -/
theorem asks_start :
  Probe.start.Asks fun q => ¬ q.IsOfChange
  := by
  have hconclude (result : Except SdkError Sdk) :
      (Probe.conclude result).Asks fun q => ¬ q.IsOfChange := by
    cases result with
    | ok sdk => trivial
    | error e => trivial
  have henvironment : Probe.inEnvironment.Asks fun q => ¬ q.IsOfChange := by
    apply Probe.asks_after readsOnly_activeEnvironment
    intro environment
    cases environment with
    | none => trivial
    | some environment => exact Probe.asks_after (readsOnly_environmentSource environment) hconclude
  apply Probe.asks_after readsOnly_workspaceSource
  intro found
  match found with
  | some (.ok sdk) => trivial
  | some (.error e) => exact henvironment
  | none => exact henvironment

end Sdk

/-! ### The search in a terminal -/

/-- A terminal answers a question about no change without one. -/
theorem Terminal.readsOnly_ask (t : Terminal) {q : Question} (h : ¬ q.IsOfChange) :
  (t.ask q).ReadsOnly
  := by
  cases q with
  | workspaceRoots => trivial
  | activeEnvironment => trivial
  | environment name =>
    apply Asks.bind (.question id)
    intro kind
    split
    · trivial
    · trivial
  | _ => exact .question h

/-- Looking for the SDK in a terminal changes no file. -/
theorem Sdk.readsOnly_lookUp (t : Terminal) :
  ReadsOnly (Sdk.lookUp.run t.ask)
  := .run (Probe.asks_alone asks_start .empty) fun _ h => t.readsOnly_ask h

end MojoToolchain
