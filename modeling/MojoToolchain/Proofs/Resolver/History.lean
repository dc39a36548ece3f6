import Mathlib.Data.List.Induction
import MojoToolchain.Sdk.Resolver

/-!
# Histories of a resolver

A `Resolver.History` is a resolver with every call made to it and every failure that its probes
have reported.  It changes by a `Resolver.Step` at a time: a call enters or leaves, a probe goes
on by one instruction with any answer of the host, somebody looks at the cache, the environment
changes.  `Resolver.History.after` is what any list of steps leads to from a resolver that was
never used; nothing restricts the order of the steps or the number of calls and probes.
-/

namespace MojoToolchain.Resolver

open Host (Question)

/-- How far a call is. -/
inductive Progress where
  /-- It waits for a probe. -/
  | waiting (probe : Nat)
  | returned (result : Option Descriptor)
  deriving DecidableEq, Repr

/-- A call of a resolver. -/
structure Visit where
  /-- The epoch in which it entered. -/
  epoch : Nat
  progress : Progress
  deriving DecidableEq, Repr

/-- A failure that a probe has reported. -/
structure Notice where
  /-- The epoch in which it was reported. -/
  epoch : Nat
  /-- The epoch in which the probe was started. -/
  started : Nat
  probe : Nat
  error : SdkError
  /-- The message that the user was shown, if there was one. -/
  shown : Option String
  deriving DecidableEq, Repr

/-- A resolver and what has happened to it. -/
structure History where
  resolver : Resolver
  /-- All calls ever made, by number. -/
  calls : Array Visit
  /-- All failures ever reported, in order. -/
  notices : List Notice

/-- One step of a history. -/
inductive Step where
  /-- A new call enters. -/
  | enter
  /-- A probe goes on by one instruction; a question to the host is answered with `answer`. -/
  | advance (probe : Nat) (answer : (q : Question) → q.Answer)
  /-- A call that waits leaves with the result of its probe, if that is done. -/
  | leave (call : Nat)
  /-- Somebody looks at the cached descriptor. -/
  | look
  /-- The environment is now the one of a key. -/
  | invalidate (key : String)

namespace History

/-- The call that enters next. -/
def visit (h : History) : Visit :=
  match h.resolver.enter.1 with
  | .answered d => ⟨h.resolver.slot.epoch, .returned (some d)⟩
  | .waiting epoch probe => ⟨epoch, .waiting probe⟩

/-- What is noted when a probe goes on and the user is shown a message or none: something, if
the probe reports a failure. -/
def notice? (h : History) (probe : Nat) (shown : Option String) : Option Notice :=
  match h.resolver.probes[probe]? with
  | some ⟨started, .report error _⟩ => some ⟨h.resolver.slot.epoch, started, probe, error, shown⟩
  | _ => none

/-- The history after a step. -/
def step (h : History) : Step → History
  | .enter => { h with resolver := h.resolver.enter.2, calls := h.calls.push h.visit }
  | .advance probe answer =>
    { h with
      resolver := (h.resolver.advance probe answer).1
      notices := h.notices ++ (h.notice? probe (h.resolver.advance probe answer).2).toList }
  | .leave call =>
    match h.calls[call]? with
    | some ⟨epoch, .waiting probe⟩ =>
      match h.resolver.result? probe with
      | some result =>
        { h with
          resolver := h.resolver.leave epoch result
          calls := h.calls.setIfInBounds call ⟨epoch, .returned result⟩ }
      | none => h
    | _ => h
  | .look => h
  | .invalidate key => { h with resolver := (h.resolver.invalidate key).2 }

/-- The history of a resolver that was never used. -/
def fresh : History := ⟨.fresh, #[], []⟩

/-- The history that a list of steps leads to. -/
def after (steps : List Step) : History := steps.foldl step fresh

@[simp]
theorem after_concat (steps : List Step) (s : Step) :
  after (steps ++ [s]) = (after steps).step s
  := by
  simp [after]

/-! ### Searches to look at -/

/-- A host with no workspace and an environment or none, in which every path exists or none does.
It can run nothing. -/
def plainHost (environment : Option String) (found : Bool) : (q : Question) → q.Answer
  | .workspaceRoots => []
  | .kindOf _ => if found then .ok .file else .error .notFound
  | .read _ => .error .notFound
  | .list _ => .error .notFound
  | .activeEnvironment => environment
  | .environment name => some ⟨name, ⟨"/env"⟩⟩
  | .run _ => .error .notFound
  | .pipe _ _ => .error (.start .notFound)
  | .write _ _ => .error .permissionDenied
  | .openLog _ => ()

/-- The steps with which a probe finds a packaged SDK: there is no descriptor file, and all else
exists. -/
def search (probe : Nat) : List Step :=
  .replicate 4 (.advance probe (plainHost (some "env") true))
    ++ .advance probe (plainHost (some "env") false)
    :: .replicate 17 (.advance probe (plainHost (some "env") true))

/-- The steps with which a probe finds no environment. -/
def vainSearch (probe : Nat) : List Step :=
  .replicate 3 (.advance probe (plainHost none true))

end History

/-! ### The epoch and the result of a probe -/

/-- The epoch in which a probe was started. -/
def epoch? (r : Resolver) (number : Nat) : Option Nat :=
  (r.probes[number]?).map RunningProbe.epoch

theorem lt_size_of_epoch? {r : Resolver} {n e : Nat} (h : r.epoch? n = some e) :
  n < r.probes.size
  := by
  obtain ⟨p, hp, -⟩ := Option.map_eq_some_iff.mp h
  apply (Array.getElem?_eq_some_iff.mp hp).1

theorem exists_epoch? {r : Resolver} {n : Nat} (h : n < r.probes.size) :
  ∃ e, r.epoch? n = some e
  := ⟨r.probes[n].epoch, by simp [epoch?, h]⟩

/-- A probe is done exactly when its stage says so. -/
theorem result?_eq_some_iff {r : Resolver} {n : Nat} {result : Option Descriptor} :
  r.result? n = some result
    ↔ ∃ e found, r.probes[n]? = some ⟨e, .done found⟩
      ∧ result = found.map fun sdk => ⟨n, sdk⟩
  := by
  unfold result?
  constructor
  · intro h
    split at h
    · next e found hp => exact ⟨e, found, hp, (Option.some.inj h).symm⟩
    · cases h
  · rintro ⟨e, found, hp, rfl⟩
    rw [hp]

/-- The descriptor that a probe finds has the number of the probe. -/
theorem number_of_result? {r : Resolver} {n : Nat} {d : Descriptor}
    (h : r.result? n = some (some d)) :
  d.number = n
  := by
  obtain ⟨e, found, -, hd⟩ := result?_eq_some_iff.mp h
  obtain ⟨sdk, -, rfl⟩ := Option.map_eq_some_iff.mp hd.symm
  rfl

/-- Only a probe that was started has a result. -/
theorem lt_size_of_result? {r : Resolver} {n : Nat} {result : Option Descriptor}
    (h : r.result? n = some result) :
  n < r.probes.size
  := by
  obtain ⟨e, found, hp, -⟩ := result?_eq_some_iff.mp h
  apply (Array.getElem?_eq_some_iff.mp hp).1

/-- A descriptor is what a probe of an epoch has found. -/
def Found (r : Resolver) (d : Descriptor) (epoch : Nat) : Prop :=
  r.result? d.number = some (some d) ∧ r.epoch? d.number = some epoch

/-- A resolver has all the probes of another one, with their epochs and their results. -/
structure Keeps (r r' : Resolver) : Prop where
  epoch? : ∀ {n e}, r.epoch? n = some e → r'.epoch? n = some e
  result? : ∀ {n result}, r.result? n = some result → r'.result? n = some result

namespace Keeps

theorem refl (r : Resolver) :
  r.Keeps r
  := ⟨id, id⟩

theorem trans {r r' r'' : Resolver} (h : r.Keeps r') (h' : r'.Keeps r'') :
  r.Keeps r''
  := ⟨h'.epoch? ∘ h.epoch?, h'.result? ∘ h.result?⟩

/-- Only the probes count. -/
theorem of_probes_eq {r r' : Resolver} (h : r'.probes = r.probes) :
  r.Keeps r'
  := by
  constructor
  · intro n e hn
    rwa [Resolver.epoch?, h]
  · intro n result hn
    rwa [Resolver.result?, h]

theorem found {r r' : Resolver} (h : r.Keeps r') {d : Descriptor} {epoch : Nat}
    (hd : r.Found d epoch) :
  r'.Found d epoch
  := ⟨h.result? hd.1, h.epoch? hd.2⟩

theorem size_le {r r' : Resolver} (h : r.Keeps r') :
  r.probes.size ≤ r'.probes.size
  := by
  by_contra hlt
  obtain ⟨e, he⟩ := exists_epoch? (Nat.lt_of_not_le hlt)
  have := lt_size_of_epoch? (h.epoch? he)
  omega

end Keeps

end MojoToolchain.Resolver
