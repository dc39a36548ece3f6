import MojoToolchain.Debug.Provider
import MojoToolchain.Proofs.Debug.FileLaunch
import MojoToolchain.Proofs.Resolver.Messages

/-!
# Providers of configurations

A `Provider` is asked for configurations, any number of them at the same time.  A request makes one
call of the resolver, unless it is for the companion debugger and that is not installed, and goes on
with what the call returns.  How it ends is settled by the result of its call
(`Inquiry.Explained`).
-/

namespace MojoToolchain

/-! ### What a dialogue may come to -/

namespace Host.Dialogue

/-- Whatever the answers are, the result satisfies a predicate. -/
def Always (P : α → Prop) : Dialogue α → Prop
  | done a => P a
  | ask q next => ∀ answer : q.Answer, (next answer).Always P

theorem always_true (d : Dialogue α) :
  d.Always fun _ => True
  := by
  induction d with
  | done a => trivial
  | ask q next ih => exact ih

theorem Always.bind {P : α → Prop} {Q : β → Prop} {d : Dialogue α} (h : d.Always P)
    {f : α → Dialogue β} (hf : ∀ a, P a → (f a).Always Q) :
  (d.bind f).Always Q
  := by
  induction d with
  | done a => exact hf a h
  | ask q next ih => exact fun answer => ih answer (h answer)

end Host.Dialogue

namespace Debug

open Host (Dialogue Question)
open Resolver (History)

/-! ### Providers -/

/-- The debugger that a configuration is for. -/
inductive Target where
  | own
  | companion
  deriving DecidableEq, Repr

/-- What a request for a debugger needs before all else. -/
def Target.check (installed : String → Bool) : Target → Except DebugError Unit
  | .own => .ok ()
  | .companion => checkCompanion installed

/-- Why a request for the companion debugger is refused when that is not installed. -/
def noCompanion : DebugError :=
  .companionMissing CompanionConfiguration.extension CompanionConfiguration.ownType

theorem Target.check_eq_error_iff {target : Target} {installed : String → Bool} {e : DebugError} :
  target.check installed = .error e
    ↔ target = .companion ∧ installed CompanionConfiguration.extension = false ∧ e = noCompanion
  := by
  cases target with
  | own => simp [check]
  | companion =>
    cases h : installed CompanionConfiguration.extension with
    | false => simp [check, checkCompanion, h, noCompanion, eq_comm]
    | true => simp [check, checkCompanion, h]

/-- The same end, with another configuration. -/
def Outcome.map (f : α → β) : Outcome α → Outcome β
  | ready configuration => ready (f configuration)
  | refused e => refused e
  | withoutSdk => withoutSdk

/-- A configuration for either debugger. -/
abbrev Reply := Configuration ⊕ CompanionConfiguration

/-- How far a request is. -/
inductive Inquiry.Progress where
  /-- It waits for its call of the resolver. -/
  | finding
  /-- It has this to do. -/
  | working (rest : Dialogue (Outcome Reply))
  | ended (outcome : Outcome Reply)

/-- A request for a configuration. -/
structure Inquiry where
  target : Target
  configuration : Configuration
  /-- The call of the resolver that it has made, if any. -/
  call : Option Nat
  progress : Inquiry.Progress

/-- What the user is told. -/
inductive Message where
  /-- The resolver tells of a search, in an epoch. -/
  | search (epoch : Nat) (text : String)
  /-- A request is refused. -/
  | refusal (inquiry : Nat) (text : String)
  deriving DecidableEq, Repr

/-- A resolver, the requests that share it, and what the user has been told. -/
structure Provider where
  history : History
  /-- All requests, by number. -/
  inquiries : Array Inquiry
  messages : List Message

namespace Inquiry

/-- What a request has to do when its call of the resolver has returned. -/
def work (options : NormalizerOptions) (known : Option Bool) (i : Inquiry)
    (result : Option Descriptor) : Dialogue (Outcome Reply) :=
  match i.target with
  | .own =>
    (provide options (result.map Descriptor.sdk) known i.configuration.orActiveFile).bind
      fun (outcome, _) => .done (outcome.map .inl)
  | .companion =>
    .done ((provideCompanion (result.map Descriptor.sdk) i.configuration.orActiveFile).map .inr)

/-- Why a request was refused, if it was. -/
def error? (i : Inquiry) : Option DebugError :=
  match i.progress with
  | .ended (.refused e) => some e
  | _ => none

/-- The request has ended. -/
def hasEnded (i : Inquiry) : Bool := i.progress matches .ended _

/-- How a request can go on, and what the user is told then. -/
inductive Proceeds (options : NormalizerOptions) (h : History) :
    Inquiry → Progress → List String → Prop where
  | found {target c call epoch result known}
    (hcall : h.calls[call]? = some ⟨epoch, .returned result⟩) :
    Proceeds options h ⟨target, c, some call, .finding⟩
      (.working (work options known ⟨target, c, some call, .finding⟩ result)) []
  | answered {target c call q next answer} :
    Proceeds options h ⟨target, c, call, .working (.ask q next)⟩ (.working (next answer)) []
  | done {target c call outcome} :
    Proceeds options h ⟨target, c, call, .working (.done outcome)⟩ (.ended outcome)
      outcome.messages

end Inquiry

namespace Provider

/-- One step of a provider. -/
inductive Step where
  /-- A step of the resolver, for whomever. -/
  | resolver (s : Resolver.Step)
  /-- A new request, while some editor extensions are installed. -/
  | ask (target : Target) (configuration : Configuration) (installed : String → Bool)
  /-- A request goes on by one instruction; a question to the host is answered with `answer`. -/
  | goOn (inquiry : Nat) (known : Option Bool) (answer : (q : Question) → q.Answer)

/-- A request goes on, and the user may be told something. -/
def go (k : Provider) (n : Nat) (progress : Inquiry.Progress) (messages : List String) :
    Provider :=
  { k with
    inquiries := k.inquiries.modify n fun i => { i with progress := progress }
    messages := k.messages ++ messages.map (.refusal n) }

/-- The provider after a step. -/
def step (options : NormalizerOptions) (k : Provider) : Step → Provider
  | .resolver s =>
    { k with
      history := k.history.step s
      messages := k.messages
        ++ ((k.history.shownBy s).map (.search k.history.resolver.slot.epoch)).toList }
  | .ask target c installed =>
    match target.check installed with
    | .error e =>
      { k with
        inquiries := k.inquiries.push ⟨target, c, none, .ended (.refused e)⟩
        messages := k.messages ++ [.refusal k.inquiries.size e.message] }
    | .ok () =>
      { k with
        history := k.history.step .enter
        inquiries := k.inquiries.push ⟨target, c, some k.history.calls.size, .finding⟩ }
  | .goOn n known answer =>
    match k.inquiries[n]? with
    | some ⟨target, c, some call, .finding⟩ =>
      match k.history.calls[call]? with
      | some ⟨_, .returned result⟩ =>
        k.go n (.working (Inquiry.work options known ⟨target, c, some call, .finding⟩ result)) []
      | _ => k
    | some ⟨_, _, _, .working (.ask q next)⟩ => k.go n (.working (next (answer q))) []
    | some ⟨_, _, _, .working (.done outcome)⟩ => k.go n (.ended outcome) outcome.messages
    | _ => k

/-- The provider that a list of steps leads to. -/
def after (options : NormalizerOptions) (steps : List Step) : Provider :=
  steps.foldl (step options) ⟨History.fresh, #[], []⟩

@[simp]
theorem after_concat (options : NormalizerOptions) (steps : List Step) (s : Step) :
  after options (steps ++ [s]) = (after options steps).step options s
  := by
  simp [after]

/-- A request that goes on is the only one that changes. -/
theorem inquiries_go (k : Provider) (n m : Nat) (progress : Inquiry.Progress)
    (texts : List String) :
  (k.go n progress texts).inquiries[m]?
    = if n = m then (k.inquiries[m]?).map fun i => { i with progress := progress }
      else k.inquiries[m]?
  := Array.getElem?_modify

/-- A request is refused at once, and nothing else happens, or it makes a call of the resolver. -/
theorem ask_cases (options : NormalizerOptions) (k : Provider) (target : Target)
    (c : Configuration) (installed : String → Bool) :
  (∃ e, target.check installed = .error e
      ∧ k.step options (.ask target c installed)
        = { k with
            inquiries := k.inquiries.push ⟨target, c, none, .ended (.refused e)⟩
            messages := k.messages ++ [.refusal k.inquiries.size e.message] })
    ∨ k.step options (.ask target c installed)
      = { k with
          history := k.history.step .enter
          inquiries := k.inquiries.push ⟨target, c, some k.history.calls.size, .finding⟩ }
  := by
  cases hcheck : target.check installed with
  | error e =>
    left
    refine ⟨e, rfl, ?_⟩
    simp only [step, hcheck]
  | ok =>
    right
    simp only [step, hcheck]

/-- A request that goes on makes use of what its call of the resolver has returned, or of an answer
of the host, or ends. -/
theorem goOn_cases (options : NormalizerOptions) (k : Provider) (n : Nat) (known : Option Bool)
    (answer : (q : Question) → q.Answer) :
  k.step options (.goOn n known answer) = k
    ∨ ∃ i progress texts, k.inquiries[n]? = some i
      ∧ i.Proceeds options k.history progress texts
      ∧ k.step options (.goOn n known answer) = k.go n progress texts
  := by
  unfold step
  dsimp only
  split
  · next target c call hn =>
    split
    · next epoch result hcall => exact .inr ⟨_, _, _, hn, .found hcall, rfl⟩
    · exact .inl rfl
  · next hn => exact .inr ⟨_, _, _, hn, .answered, rfl⟩
  · next hn => exact .inr ⟨_, _, _, hn, .done, rfl⟩
  · exact .inl rfl

end Provider

/-! ### How requests end -/

/-- Why a request is refused with an SDK. -/
def Inquiry.Refused (i : Inquiry) (sdk : Sdk) (e : DebugError) : Prop :=
  match i.target with
  | .own => i.configuration.orActiveFile.Refused sdk e
  | .companion => i.configuration.orActiveFile.toCompanion sdk = .error e

/-- The end of a request whose call of the resolver has returned a result. -/
def Inquiry.EndsWith (i : Inquiry) (result : Option Descriptor) (o : Outcome Reply) : Prop :=
  match result with
  | none => o = .withoutSdk
  | some d => o ≠ .withoutSdk ∧ ∀ e, o = .refused e ↔ i.Refused d.sdk e

theorem Outcome.map_ofExcept (f : α → β) (r : Except DebugError α) :
  (ofExcept r).map f ≠ .withoutSdk ∧ ∀ e, (ofExcept r).map f = .refused e ↔ r = .error e
  := by
  cases r with
  | error e' => simp [ofExcept, map]
  | ok a => simp [ofExcept, map]

/-- Completing a configuration fails exactly when the file that it runs cannot be run. -/
theorem Configuration.always_complete (options : NormalizerOptions) (sdk : Sdk)
    (known : Option Bool) (c : Configuration) :
  (c.complete options sdk known).Always fun r => ∀ e, r.1 = .error e ↔ c.Refused sdk e
  := by
  simp only [← checkLaunch_eq_error_iff]
  rw [complete, withRequest_eq]
  cases checkLaunch sdk c with
  | error e' => simp [Dialogue.Always, Except.map, Pure.pure]
  | ok =>
    simp only [Except.map, Bind.bind]
    have hok (visualizers : List String) (scripting : Bool) :
        Dialogue.Always (fun r : Except DebugError Configuration × Option Bool =>
            ∀ e, r.1 = .error e ↔ Except.ok () = .error e)
          (.done (.ok ((c.launching sdk).fill options sdk visualizers), some scripting)) := by
      simp [Dialogue.Always]
    refine (Dialogue.always_true _).bind fun scripting _ => ?_
    split
    · exact (Dialogue.always_true _).bind fun visualizers _ => hok visualizers scripting
    · exact hok [] scripting

/-- Whatever the answers are, a request ends as the result of its call of the resolver says. -/
theorem Inquiry.always_work (options : NormalizerOptions) (known : Option Bool) (i : Inquiry)
    (result : Option Descriptor) :
  (i.work options known result).Always (i.EndsWith result)
  := by
  obtain ⟨target, c, call, progress⟩ := i
  cases target with
  | own =>
    cases result with
    | none => rfl
    | some d =>
      have hcomplete := Configuration.always_complete options d.sdk known c.orActiveFile
      have hprovide : (provide options (some d.sdk) known c.orActiveFile).Always fun r =>
          ∃ result, r.1 = .ofExcept result
            ∧ ∀ e, result = .error e ↔ c.orActiveFile.Refused d.sdk e :=
        hcomplete.bind fun r hr => ⟨r.1, rfl, hr⟩
      refine hprovide.bind ?_
      rintro ⟨_, known'⟩ ⟨result, rfl, hrefused⟩
      obtain ⟨hsdk, herror⟩ := Outcome.map_ofExcept (β := Reply) .inl result
      exact ⟨hsdk, fun e => (herror e).trans (hrefused e)⟩
  | companion =>
    cases result with
    | none => rfl
    | some d => exact Outcome.map_ofExcept (β := Reply) .inr (c.orActiveFile.toCompanion d.sdk)

/-- A request that has made no call of the resolver was refused for want of the companion; any other
one goes by the result of its call. -/
def Inquiry.Explained (h : History) (i : Inquiry) : Prop :=
  match i.call, i.progress with
  | none, progress => i.target = .companion ∧ progress = .ended (.refused noCompanion)
  | some _, .finding => True
  | some call, .working rest => ∃ epoch result,
    h.calls[call]? = some ⟨epoch, .returned result⟩ ∧ rest.Always (i.EndsWith result)
  | some call, .ended o => ∃ epoch result,
    h.calls[call]? = some ⟨epoch, .returned result⟩ ∧ i.EndsWith result o

theorem Inquiry.Explained.step {h : History} {i : Inquiry} (hi : i.Explained h)
    (s : Resolver.Step) :
  i.Explained (h.step s)
  := by
  obtain ⟨target, c, _ | call, progress⟩ := i
  · exact hi
  · cases progress with
    | finding => trivial
    | working rest =>
      obtain ⟨epoch, result, hcall, hrest⟩ := hi
      exact ⟨epoch, result, h.returned_step hcall s, hrest⟩
    | ended o =>
      obtain ⟨epoch, result, hcall, ho⟩ := hi
      exact ⟨epoch, result, h.returned_step hcall s, ho⟩

theorem Inquiry.exists_of_hasEnded {i : Inquiry} (h : i.hasEnded = true) :
  ∃ o, i.progress = .ended o
  := by
  obtain ⟨target, c, call, progress⟩ := i
  cases progress with
  | finding => cases h
  | working rest => cases h
  | ended o => exact ⟨o, rfl⟩

theorem Inquiry.error?_of_not_hasEnded {i : Inquiry} (h : i.hasEnded = false) :
  i.error? = none
  := by
  obtain ⟨target, c, call, progress⟩ := i
  cases progress with
  | finding => rfl
  | working rest => rfl
  | ended o => cases h

namespace Inquiry.Proceeds

variable {options : NormalizerOptions} {h : History} {i : Inquiry} {progress : Progress}
  {texts : List String}

theorem hasEnded (hi : i.Proceeds options h progress texts) :
  i.hasEnded = false
  := by
  cases hi with
  | found => rfl
  | answered => rfl
  | done => rfl

/-- The user is told of a request only when it is refused. -/
theorem texts_eq (hi : i.Proceeds options h progress texts) :
  texts = ({ i with progress := progress } : Inquiry).error?.toList.map DebugError.message
  := by
  cases hi with
  | found => rfl
  | answered => rfl
  | @done target c call outcome =>
    cases outcome with
    | ready c => rfl
    | refused e => rfl
    | withoutSdk => rfl

theorem explained (hi : i.Proceeds options h progress texts) (hexplained : i.Explained h) :
  Inquiry.Explained h { i with progress := progress }
  := by
  cases hi with
  | found hcall => exact ⟨_, _, hcall, Inquiry.always_work ..⟩
  | @answered target c call q next answer =>
    cases call with
    | none => cases hexplained.2
    | some call =>
      obtain ⟨epoch, result, hcall, hrest⟩ := hexplained
      exact ⟨epoch, result, hcall, hrest answer⟩
  | @done target c call outcome =>
    cases call with
    | none => cases hexplained.2
    | some call => exact hexplained

end Inquiry.Proceeds

end Debug

end MojoToolchain
