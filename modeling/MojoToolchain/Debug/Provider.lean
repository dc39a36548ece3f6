import MojoToolchain.Debug.Companion
import MojoToolchain.Debug.Completion

/-!
# Configurations on request

A request for a configuration ends with the configuration, with an error that the user is told,
or, when there is no SDK, with nothing: the user has then been told already.
-/

namespace MojoToolchain.Debug

open Host (Dialogue)

/-- How a request for a configuration ends. -/
inductive Outcome (α : Type) where
  | ready (configuration : α)
  | refused (error : DebugError)
  | withoutSdk

namespace Outcome

/-- The configuration, if there is one. -/
def result? : Outcome α → Option α
  | ready configuration => some configuration
  | _ => none

/-- What the user is told. -/
def messages : Outcome α → List String
  | refused error => [error.message]
  | _ => []

/-- A result without a need for an SDK. -/
def ofExcept : Except DebugError α → Outcome α
  | .ok configuration => ready configuration
  | .error e => refused e

/-- A request that ends without a configuration because of an error tells the user so, once. -/
theorem messages_eq_nil_iff {o : Outcome α} :
  o.messages = [] ↔ ∀ e, o ≠ refused e
  := by
  cases o <;> simp [messages]

end Outcome

/-- The configuration for the SDK's own debugger.  The second part of the result is what is
known about scripting after. -/
def provide (options : NormalizerOptions) (sdk : Option Sdk) (known : Option Bool)
    (c : Configuration) : Dialogue (Outcome Configuration × Option Bool) := do
  match sdk with
  | none => return (.withoutSdk, known)
  | some sdk =>
    let (result, known) ← c.complete options sdk known
    return (.ofExcept result, known)

/-- The configuration for the companion debugger, whose extension is installed. -/
def provideCompanion (sdk : Option Sdk) (c : Configuration) : Outcome CompanionConfiguration :=
  match sdk with
  | none => .withoutSdk
  | some sdk => .ofExcept (c.toCompanion sdk)

end MojoToolchain.Debug
