import MojoToolchain.Proofs.Debug.Completion
import MojoToolchain.Proofs.Resolver.Stability

/-!
# What is asked once

Any number of configurations may be completed with one descriptor at the same time.  What they
share is whether the debugger of the descriptor can run scripts: the first of them that needs the
answer asks the debugger, and the others wait for it (`Completions`).  So the debugger is asked once
(`Completions.Agreed`), just as the calls of a resolver look for an SDK once and then have the
cached one.
-/

namespace MojoToolchain

namespace Debug

open Host (Dialogue Fault Invocation Output Question)
open Resolver (History)

/-! ### Completions with one descriptor -/

/-- What the completions with a descriptor know about scripting. -/
inductive Knowledge where
  | unknown
  /-- One of the completions asks the debugger. -/
  | asked (number : Nat)
  | known (scripting : Bool)
  deriving DecidableEq, Repr

/-- How far a completion is. -/
inductive Completion.Stage where
  /-- It needs to know about scripting. -/
  | waiting
  /-- It has this to do. -/
  | going (rest : Dialogue (Except DebugError Configuration × Option Bool))

/-- A configuration that is being completed. -/
structure Completion where
  options : NormalizerOptions
  configuration : Configuration
  stage : Completion.Stage

/-- A question to the host, and what it was answered with. -/
structure Exchange where
  question : Question
  answer : question.Answer

/-- All completions with a descriptor. -/
structure Completions where
  knowledge : Knowledge
  /-- The completions, by number. -/
  all : Array Completion
  /-- All questions asked, in order. -/
  exchanges : List Exchange

/-- What the outcome of the scripting command says about the debugger. -/
def canScript : Except Fault Output → Bool
  | .ok output => Text.containsString "101" output.combined
  | .error _ => false

/-- A process that was run, and its outcome. -/
def Exchange.run? : Exchange → Option (Invocation × Except Fault Output)
  | ⟨.run call, outcome⟩ => some (call, outcome)
  | _ => none

/-- A completion that begins.  One that is refused has no need to know about scripting. -/
def Completion.start (sdk : Sdk) (options : NormalizerOptions) (c : Configuration) : Completion :=
  match c.withRequest sdk with
  | .error _ => ⟨options, c, .going (c.complete options sdk none)⟩
  | .ok _ => ⟨options, c, .waiting⟩

namespace Completions

/-- One step of the completions with a descriptor. -/
inductive Step where
  /-- A new completion. -/
  | begin (options : NormalizerOptions) (configuration : Configuration)
  /-- A completion goes on by one instruction; a question to the host is answered with `answer`. -/
  | goOn (number : Nat) (answer : (q : Question) → q.Answer)

/-- A completion goes on with what it has to do. -/
def setRest (s : Completions) (number : Nat)
    (rest : Dialogue (Except DebugError Configuration × Option Bool)) : Completions :=
  { s with all := s.all.modify number fun p => { p with stage := .going rest } }

/-- A question is answered; the outcome of a process is kept for the other completions. -/
def note (s : Completions) (e : Exchange) : Completions :=
  { s with
    knowledge := e.run?.elim s.knowledge fun (_, outcome) => .known (canScript outcome)
    exchanges := s.exchanges ++ [e] }

/-- The completions after a step. -/
def step (sdk : Sdk) (s : Completions) : Step → Completions
  | .begin options c => { s with all := s.all.push (.start sdk options c) }
  | .goOn n answer =>
    match s.all[n]? with
    | some ⟨options, c, .waiting⟩ =>
      match s.knowledge with
      | .unknown =>
        { s with knowledge := .asked n }.setRest n (c.complete options sdk none)
      | .asked _ => s
      | .known scripting => s.setRest n (c.complete options sdk (some scripting))
    | some ⟨_, _, .going (.ask q next)⟩ => (s.note ⟨q, answer q⟩).setRest n (next (answer q))
    | _ => s

/-- The completions that a list of steps leads to. -/
def after (sdk : Sdk) (steps : List Step) : Completions :=
  steps.foldl (step sdk) ⟨.unknown, #[], []⟩

@[simp]
theorem after_concat (sdk : Sdk) (steps : List Step) (s : Step) :
  after sdk (steps ++ [s]) = (after sdk steps).step sdk s
  := by
  simp [after]

/-- The processes that were run, with their outcomes. -/
def runs (s : Completions) : List (Invocation × Except Fault Output) :=
  s.exchanges.filterMap Exchange.run?

theorem runs_note (s : Completions) (e : Exchange) :
  (s.note e).runs = s.runs ++ e.run?.toList
  := by
  rw [runs, note, List.filterMap_append, ← runs]
  cases h : e.run? with
  | none => simp [h]
  | some run => simp [h]

end Completions

/-! ### What a completion asks -/

/-- The visualizers are listed, and that is all. -/
theorem visualizerCommands_eq (sdk : Sdk) (sorted : Bool) :
  ∃ commands : Except Fault (List Path) → List String, visualizerCommands sdk sorted
    = .ask (.list sdk.tools.visualizersDir) fun entries => .done (commands entries)
  := by
  refine ⟨fun
    | .error _ => []
    | .ok entries => (if sorted then entries.mergeSort Path.le else entries).map fun entry =>
      "command script import " ++ entry.text, ?_⟩
  refine congrArg (Dialogue.ask (.list sdk.tools.visualizersDir)) (funext fun entries => ?_)
  cases entries with
  | error fault => rfl
  | ok entries => rfl

namespace Configuration

variable {sdk : Sdk} {c launched : Configuration} (options : NormalizerOptions)

/-- A configuration that is refused is refused at once. -/
theorem complete_of_error {e : DebugError} (h : c.withRequest sdk = .error e)
    (known : Option Bool) :
  c.complete options sdk known = .done (.error e, known)
  := by
  rw [complete, h]
  rfl

/-- A completion that knows nothing asks the debugger first, and goes on with what it has
learned. -/
theorem complete_none (h : c.withRequest sdk = .ok launched) :
  c.complete options sdk none
    = .ask (.run (scriptingProbe sdk)) fun outcome =>
      c.complete options sdk (some (canScript outcome))
  := by
  simp only [complete, h]
  refine congrArg (Dialogue.ask (.run (scriptingProbe sdk))) (funext fun outcome => ?_)
  cases outcome with
  | error fault => rfl
  | ok output => rfl

/-- A completion that knows about scripting asks for a list of the visualizers at most. -/
theorem complete_some (sdk : Sdk) (c : Configuration) (scripting : Bool) :
  (∃ result, c.complete options sdk (some scripting) = .done result)
    ∨ ∃ result : Except Fault (List Path) → Except DebugError Configuration × Option Bool,
      c.complete options sdk (some scripting)
        = .ask (.list sdk.tools.visualizersDir) fun entries => .done (result entries)
  := by
  cases h : c.withRequest sdk with
  | error e => exact .inl ⟨_, complete_of_error options h (some scripting)⟩
  | ok launched =>
    simp only [complete, h]
    cases scripting with
    | false => exact .inl ⟨_, rfl⟩
    | true =>
      obtain ⟨commands, hcommands⟩ := visualizerCommands_eq sdk options.sortVisualizers
      right
      refine ⟨fun entries => (.ok (launched.fill options sdk (commands entries)), some true), ?_⟩
      simp only [supportsScripting, pure_bind, if_true, hcommands]
      rfl

/-- What is known about scripting when a completion is done is what it knew. -/
theorem answered_complete_some (sdk : Sdk) (c : Configuration) (scripting : Bool)
    (host : (q : Question) → q.Answer) :
  ((c.complete options sdk (some scripting)).answered host).2 = some scripting
  := by
  cases h : c.withRequest sdk with
  | error e =>
    rw [complete_of_error options h]
    rfl
  | ok launched =>
    simp only [complete, h, supportsScripting, pure_bind]
    cases scripting with
    | false => rfl
    | true =>
      simp only [if_true, Bind.bind, Dialogue.answered_bind]
      rfl

end Configuration

/-! ### What completions share -/

/-- Nobody knows about scripting before the debugger was asked, and then it was asked once. -/
def Knowledge.Justified (sdk : Sdk) :
    Knowledge → List (Invocation × Except Fault Output) → Prop
  | .known scripting, runs =>
    ∃ outcome, runs = [(scriptingProbe sdk, outcome)] ∧ scripting = canScript outcome
  | _, runs => runs = []

namespace Knowledge.Justified

variable {sdk : Sdk} {knowledge : Knowledge} {runs : List (Invocation × Except Fault Output)}

theorem runs_eq (h : knowledge.Justified sdk runs) :
  runs = [] ∨ ∃ outcome, runs = [(scriptingProbe sdk, outcome)]
  := by
  cases knowledge with
  | unknown => exact .inl h
  | asked n => exact .inl h
  | known scripting =>
    obtain ⟨outcome, hruns, -⟩ := h
    exact .inr ⟨outcome, hruns⟩

/-- What is known is the answer of the debugger; as long as nothing is known there is none. -/
theorem exists_answer (h : knowledge.Justified sdk runs) :
  ∃ scripting, (∀ call outcome, (call, outcome) ∈ runs → scripting = canScript outcome)
    ∧ ∀ scripting', knowledge = .known scripting' → scripting' = scripting ∧ runs ≠ []
  := by
  cases knowledge with
  | unknown =>
    obtain rfl : runs = [] := h
    exact ⟨false, by simp, by simp⟩
  | asked n =>
    obtain rfl : runs = [] := h
    exact ⟨false, by simp, by simp⟩
  | known scripting =>
    obtain ⟨outcome, rfl, rfl⟩ := h
    exact ⟨canScript outcome, by simp, by simp⟩

end Knowledge.Justified

/-- A completion of a number waits, or is refused; or it is the one that asks the debugger; or it
goes on with what all of them know. -/
inductive Completion.Agreed (sdk : Sdk) (knowledge : Knowledge) (number : Nat) :
    Completion → Prop where
  | waiting {options c launched} (h : c.withRequest sdk = .ok launched) :
    Agreed sdk knowledge number ⟨options, c, .waiting⟩
  | refused {options c e} (h : c.withRequest sdk = .error e) :
    Agreed sdk knowledge number ⟨options, c, .going (.done (.error e, none))⟩
  | asking {options c launched} (h : c.withRequest sdk = .ok launched)
    (hasked : knowledge = .asked number) :
    Agreed sdk knowledge number ⟨options, c, .going (c.complete options sdk none)⟩
  | listing {options c scripting} (hknown : knowledge = .known scripting) :
    Agreed sdk knowledge number ⟨options, c, .going (c.complete options sdk (some scripting))⟩
  | finished {options c scripting} (hknown : knowledge = .known scripting)
    (host : (q : Question) → q.Answer) :
    Agreed sdk knowledge number
      ⟨options, c, .going (.done ((c.complete options sdk (some scripting)).answered host))⟩

/-- A completion is indifferent to what is known as long as it waits. -/
theorem Completion.Agreed.of_waiting {sdk : Sdk} {knowledge : Knowledge} {n : Nat}
    {p : Completion} (h : p.Agreed sdk knowledge n) (hasked : knowledge ≠ .asked n)
    (hknown : ∀ scripting, knowledge ≠ .known scripting) (knowledge' : Knowledge) :
  p.Agreed sdk knowledge' n
  := by
  cases h with
  | waiting h => exact .waiting h
  | refused h => exact .refused h
  | asking h h' => exact absurd h' hasked
  | listing h => exact absurd h (hknown _)
  | finished h host => exact absurd h (hknown _)

theorem Completion.Agreed.start (sdk : Sdk) (options : NormalizerOptions) (c : Configuration)
    (knowledge : Knowledge) (n : Nat) :
  (Completion.start sdk options c).Agreed sdk knowledge n
  := by
  unfold Completion.start
  cases hrequest : c.withRequest sdk with
  | error e =>
    simp only [c.complete_of_error options hrequest]
    exact .refused hrequest
  | ok launched => exact .waiting hrequest

/-- A completion that is done was refused, or has gone by what all of them know. -/
theorem Completion.Agreed.done {sdk : Sdk} {knowledge : Knowledge} {n : Nat} {p : Completion}
    (h : p.Agreed sdk knowledge n) {result : Except DebugError Configuration}
    {known : Option Bool} (hp : p.stage = .going (.done (result, known))) :
  (∃ e, p.configuration.withRequest sdk = .error e ∧ result = .error e)
    ∨ ∃ scripting host, knowledge = .known scripting
      ∧ (result, known) = (p.configuration.complete p.options sdk (some scripting)).answered host
  := by
  cases h with
  | waiting h => cases hp
  | refused h =>
    cases hp
    exact .inl ⟨_, h, rfl⟩
  | asking h hasked =>
    rw [Configuration.complete_none _ h] at hp
    cases hp
  | @listing options c scripting hknown =>
    have hdone := Stage.going.inj hp
    exact .inr ⟨scripting, History.plainHost none false, hknown, by rw [hdone]; rfl⟩
  | @finished options c scripting hknown host =>
    have hdone := Dialogue.done.inj (Stage.going.inj hp)
    exact .inr ⟨scripting, host, hknown, hdone.symm⟩

namespace Completions

/-- The debugger is asked once at most, and all completions go by its answer. -/
structure Agreed (sdk : Sdk) (s : Completions) : Prop where
  knowledge : s.knowledge.Justified sdk s.runs
  all : ∀ {n : Nat} {p : Completion}, s.all[n]? = some p → p.Agreed sdk s.knowledge n

namespace Agreed

variable {sdk : Sdk} {s : Completions}

/-- A new completion. -/
theorem push (h : s.Agreed sdk) {p : Completion}
    (hp : p.Agreed sdk s.knowledge s.all.size) :
  Agreed sdk { s with all := s.all.push p }
  := by
  constructor
  · exact h.knowledge
  · intro n p' hp'
    dsimp only at hp'
    rw [Array.getElem?_push] at hp'
    split at hp'
    · next hn =>
      obtain rfl := Option.some.inj hp'
      rw [hn]
      exact hp
    · exact h.all hp'

/-- A completion goes on, and the others stay. -/
theorem setRest (hknowledge : s.knowledge.Justified sdk s.runs) {n : Nat} {p : Completion}
    (hp : s.all[n]? = some p)
    (hothers : ∀ {m : Nat} {p : Completion}, m ≠ n → s.all[m]? = some p →
      p.Agreed sdk s.knowledge m)
    {rest : Dialogue (Except DebugError Configuration × Option Bool)}
    (hrest : Completion.Agreed sdk s.knowledge n { p with stage := .going rest }) :
  (s.setRest n rest).Agreed sdk
  := by
  constructor
  · exact hknowledge
  · intro m p' hp'
    rw [Completions.setRest, Array.getElem?_modify] at hp'
    split at hp'
    · next hm =>
      subst hm
      rw [hp] at hp'
      obtain rfl := Option.some.inj hp'
      exact hrest
    · next hm => exact hothers (Ne.symm hm) hp'

/-- A completion that waits goes on when it is known about scripting.  It asks the debugger if
nobody has, and waits if somebody has. -/
theorem proceed (h : s.Agreed sdk) {n : Nat} {options : NormalizerOptions}
    {c launched : Configuration} (hrequest : c.withRequest sdk = .ok launched)
    (hn : s.all[n]? = some ⟨options, c, .waiting⟩) (answer : (q : Question) → q.Answer) :
  (s.step sdk (.goOn n answer)).Agreed sdk
  := by
  cases hknowledge : s.knowledge with
  | unknown =>
    have hstep : s.step sdk (.goOn n answer)
        = { s with knowledge := .asked n }.setRest n (c.complete options sdk none) := by
      simp only [step, hn, hknowledge]
    have hruns : s.runs = [] := by simpa [hknowledge, Knowledge.Justified] using h.knowledge
    rw [hstep]
    apply Agreed.setRest (s := { s with knowledge := .asked n }) hruns hn
    · intro m p _ hp
      apply (h.all hp).of_waiting
      · simp [hknowledge]
      · simp [hknowledge]
    · exact .asking hrequest rfl
  | asked number =>
    have hstep : s.step sdk (.goOn n answer) = s := by simp only [step, hn, hknowledge]
    rwa [hstep]
  | known scripting =>
    have hstep : s.step sdk (.goOn n answer)
        = s.setRest n (c.complete options sdk (some scripting)) := by
      simp only [step, hn, hknowledge]
    rw [hstep]
    exact setRest h.knowledge hn (fun _ hp => h.all hp) (.listing hknowledge)

/-- The completion that asks the debugger has its answer, which all the others have from now on. -/
theorem learn (h : s.Agreed sdk) {n : Nat} {options : NormalizerOptions}
    {c launched : Configuration} (hrequest : c.withRequest sdk = .ok launched)
    (hasked : s.knowledge = .asked n)
    (hn : s.all[n]? = some ⟨options, c, .going (c.complete options sdk none)⟩)
    (answer : (q : Question) → q.Answer) :
  (s.step sdk (.goOn n answer)).Agreed sdk
  := by
  obtain ⟨outcome, houtcome⟩ : ∃ outcome, answer (.run (scriptingProbe sdk)) = outcome := ⟨_, rfl⟩
  have hstep : s.step sdk (.goOn n answer) = (s.note ⟨.run (scriptingProbe sdk), outcome⟩).setRest n
      (c.complete options sdk (some (canScript outcome))) := by
    rw [c.complete_none options hrequest] at hn
    simp only [step, hn, houtcome]
  have hruns : s.runs = [] := by simpa [hasked, Knowledge.Justified] using h.knowledge
  have hknowledge : (s.note ⟨.run (scriptingProbe sdk), outcome⟩).knowledge
      = .known (canScript outcome) := rfl
  rw [hstep]
  apply Agreed.setRest (s := s.note _) _ hn
  · intro m p hm hp
    have hother : s.knowledge ≠ .asked m := by
      rw [hasked]
      rintro ⟨⟩
      exact hm rfl
    apply (h.all hp).of_waiting hother
    simp [hasked]
  · exact .listing hknowledge
  · rw [hknowledge, runs_note, hruns]
    exact ⟨outcome, rfl, rfl⟩

/-- A completion that knows about scripting lists the visualizers, if it has to. -/
theorem list (h : s.Agreed sdk) {n : Nat} {options : NormalizerOptions} {c : Configuration}
    {scripting : Bool} (hknown : s.knowledge = .known scripting)
    (hn : s.all[n]? = some ⟨options, c, .going (c.complete options sdk (some scripting))⟩)
    (answer : (q : Question) → q.Answer) :
  (s.step sdk (.goOn n answer)).Agreed sdk
  := by
  have hfinished : Completion.Agreed sdk s.knowledge n
      ⟨options, c, .going (.done ((c.complete options sdk (some scripting)).answered answer))⟩ :=
    .finished hknown answer
  rcases c.complete_some options sdk scripting with ⟨result, hdone⟩ | ⟨result, hlist⟩
  · have hstep : s.step sdk (.goOn n answer) = s := by simp only [step, hn, hdone]
    rwa [hstep]
  · have hstep : s.step sdk (.goOn n answer)
        = (s.note ⟨.list sdk.tools.visualizersDir, answer (.list sdk.tools.visualizersDir)⟩).setRest
          n (.done (result (answer (.list sdk.tools.visualizersDir)))) := by
      simp only [step, hn, hlist]
    rw [hlist] at hfinished
    rw [hstep]
    apply Agreed.setRest (s := s.note _) _ hn (fun _ hp => h.all hp) hfinished
    rw [runs_note]
    simpa [note, Exchange.run?] using h.knowledge

theorem step (h : s.Agreed sdk) (t : Step) :
  (s.step sdk t).Agreed sdk
  := by
  cases t with
  | begin options c => exact h.push (.start sdk options c s.knowledge s.all.size)
  | goOn n answer =>
    cases hn : s.all[n]? with
    | none =>
      have hstep : s.step sdk (.goOn n answer) = s := by simp only [Completions.step, hn]
      rwa [hstep]
    | some p =>
      cases h.all hn with
      | waiting hrequest => exact h.proceed hrequest hn answer
      | refused hrequest =>
        have hstep : s.step sdk (.goOn n answer) = s := by simp only [Completions.step, hn]
        rwa [hstep]
      | asking hrequest hasked => exact h.learn hrequest hasked hn answer
      | listing hknown => exact h.list hknown hn answer
      | finished hknown host =>
        have hstep : s.step sdk (.goOn n answer) = s := by simp only [Completions.step, hn]
        rwa [hstep]

end Agreed

theorem agreed_after (sdk : Sdk) (steps : List Step) :
  (after sdk steps).Agreed sdk
  := by
  induction steps using List.reverseRecOn with
  | nil =>
    constructor
    · rfl
    · intro n p hp
      simp [after] at hp
  | append_singleton steps t ih =>
    rw [after_concat]
    exact ih.step t

/-- There is one answer that all completions go by, and it is the one of the debugger. -/
theorem Agreed.exists_answer {sdk : Sdk} {s : Completions} (h : s.Agreed sdk) :
  ∃ scripting, (∀ call outcome, (call, outcome) ∈ s.runs → scripting = canScript outcome)
    ∧ ∀ p ∈ s.all, ∀ result known, p.stage = .going (.done (result, known)) →
      (∃ host, result = ((p.configuration.complete p.options sdk (some scripting)).answered host).1)
        ∧ ∀ c, result = .ok c → known = some scripting ∧ s.runs ≠ []
  := by
  obtain ⟨scripting, hscripting, hknown⟩ := h.knowledge.exists_answer
  refine ⟨scripting, hscripting, ?_⟩
  intro p hp result known hdone
  obtain ⟨n, hn⟩ := Array.mem_iff_getElem?.mp hp
  rcases (h.all hn).done hdone with ⟨e, hrequest, rfl⟩ | ⟨scripting', host, hk, hresult⟩
  · refine ⟨⟨History.plainHost none false, ?_⟩, by simp⟩
    rw [p.configuration.complete_of_error p.options hrequest]
    rfl
  · obtain ⟨rfl, hruns⟩ := hknown scripting' hk
    refine ⟨⟨host, congrArg Prod.fst hresult⟩, fun c _ => ⟨?_, hruns⟩⟩
    exact (congrArg Prod.snd hresult).trans (p.configuration.answered_complete_some ..)

end Completions

end Debug

namespace Resolver.History

open Debug (Completions Configuration canScript scriptingProbe)
open Host (Question)

/-- In every history, a cached descriptor stays, whatever the calls that leave have found, until an
environment with another key is announced.  A call that enters while it is cached returns it and
leaves the resolver as it is; it asks the host nothing, because all questions are those of probes,
and a probe is started by a call only that finds nothing cached and nothing in flight.  Whatever is
completed with a descriptor, in whatever order and with whatever answers, its debugger is run once
at most, and all completions that are done have the result of one that knew that answer. -/
theorem cache_economy (steps : List Step) :
  (∀ earlier later d, steps = earlier ++ later →
      (after earlier).resolver.slot.cached = some d →
      (∀ between key, between ++ [.invalidate key] <+: later →
        (after (earlier ++ between)).resolver.slot.lastKey = some key) →
      (after steps).resolver.slot.cached = some d)
    ∧ (∀ earlier later d, steps = earlier ++ [.enter] ++ later →
      (after earlier).resolver.slot.cached = some d →
      (after (earlier ++ [.enter])).resolver = (after earlier).resolver
        ∧ (after steps).calls[(after earlier).calls.size]?
          = some ⟨(after earlier).resolver.slot.epoch, .returned (some d)⟩)
    ∧ (∀ n q, Happened (Asks n q) steps →
      ∃ earlier, earlier ++ [.enter] <+: steps ∧ (after earlier).Starts n)
    ∧ ∀ (d : Descriptor) (requests : List Completions.Step),
      ((Completions.after d.sdk requests).runs = []
        ∨ ∃ outcome, (Completions.after d.sdk requests).runs = [(scriptingProbe d.sdk, outcome)])
      ∧ ∃ scripting,
        (∀ call outcome, (call, outcome) ∈ (Completions.after d.sdk requests).runs →
          scripting = canScript outcome)
        ∧ ∀ p ∈ (Completions.after d.sdk requests).all, ∀ result known,
          p.stage = .going (.done (result, known)) →
          (∃ host, result
              = ((p.configuration.complete p.options d.sdk (some scripting)).answered host).1)
            ∧ ∀ c, result = .ok c →
              known = some scripting ∧ (Completions.after d.sdk requests).runs ≠ []
  := by
  refine ⟨?_, ?_, ?_, ?_⟩
  · rintro earlier later d rfl hd hsame
    exact cached_after hd hsame
  · rintro earlier later d rfl hd
    have hs := enter_cached hd
    rw [← after_concat] at hs
    constructor
    · rw [hs]
    · apply returned_after
      rw [hs]
      apply Array.getElem?_push_size
  · intro n q h
    exact started_of_asks h
  · intro d requests
    have h := Completions.agreed_after d.sdk requests
    exact ⟨h.knowledge.runs_eq, h.exists_answer⟩

/-- Two calls wait for a probe that fails.  Each takes away what is in flight when it leaves, so
that the next two calls start a probe each, and both find an SDK. -/
def twoSearches : List Step :=
  [.enter, .enter] ++ vainSearch 0 ++ [.leave 0, .enter, .leave 1, .enter] ++ search 1 ++ search 2

/-- Two configurations that attach are completed at the same time.  The debugger cannot be run; it
could be when the second of them goes on. -/
def twoAttaches : List Completions.Step :=
  [.begin ⟨true, 300, true⟩ { Configuration.unset with pid := some 1 },
    .begin ⟨true, 300, true⟩ { Configuration.unset with pid := some 2 },
    .goOn 0 (plainHost none true), .goOn 1 (plainHost none true), .goOn 0 (plainHost none true),
    .goOn 1 Configuration.scriptingHost]

/-- The descriptor of the call that leaves first stays in the cache when the other call leaves with
its own, and the next call returns it.  The debugger is run once for both completions, and neither
has been told that it can run scripts. -/
theorem cache_economy_twoSearches :
  ∃ d, (after (twoSearches ++ [.leave 2])).resolver.slot.cached = some d
    ∧ (after (twoSearches ++ [.leave 2] ++ [.leave 3])).resolver.slot.cached = some d
    ∧ (∃ d', d' ≠ d ∧ (after (twoSearches ++ [.leave 2] ++ [.leave 3])).calls[3]?
      = some ⟨0, .returned (some d')⟩)
    ∧ (after (twoSearches ++ [.leave 2, .leave 3] ++ [.enter] ++ [])).calls[4]?
      = some ⟨0, .returned (some d)⟩
    ∧ ∃ outcome, (Completions.after d.sdk twoAttaches).runs = [(scriptingProbe d.sdk, outcome)]
      ∧ ∀ p ∈ (Completions.after d.sdk twoAttaches).all, ∀ result known,
        p.stage = .going (.done (result, known)) → ∀ c, result = .ok c →
        known = some (canScript outcome)
  := by
  have hcached : (after (twoSearches ++ [.leave 2])).resolver.slot.cached
      = some ⟨1, Sdk.packaged ⟨"/env"⟩ "linux"⟩ := by
    decide +kernel
  have hlate : (after (twoSearches ++ [.leave 2] ++ [.leave 3])).calls[3]?
      = some ⟨0, .returned (some ⟨2, Sdk.packaged ⟨"/env"⟩ "linux"⟩)⟩ := by
    decide +kernel
  obtain ⟨hstays, -⟩ := cache_economy (twoSearches ++ [.leave 2] ++ [.leave 3])
  have hlater := hstays _ _ _ rfl hcached fun between key hpart => by
    have hmem := hpart.subset (List.mem_append_right between (List.mem_singleton_self _))
    simp at hmem
  obtain ⟨-, hserves, -, honce⟩ :=
    cache_economy (twoSearches ++ [.leave 2, .leave 3] ++ [.enter] ++ [])
  obtain ⟨-, hcall⟩ := hserves (twoSearches ++ [.leave 2, .leave 3]) [] _ rfl hlater
  obtain ⟨hruns, scripting, hscripting, hall⟩ :=
    honce ⟨1, Sdk.packaged ⟨"/env"⟩ "linux"⟩ twoAttaches
  refine ⟨_, hcached, hlater, ⟨_, by simp, hlate⟩, hcall, ?_⟩
  rcases hruns with hnone | ⟨outcome, hruns⟩
  · cases hnone
  · refine ⟨outcome, hruns, ?_⟩
    intro p hp result known hdone c hc
    obtain ⟨-, hknown⟩ := hall p hp result known hdone
    rw [(hknown c hc).1, hscripting _ outcome (by rw [hruns]; exact List.mem_singleton_self _)]

end Resolver.History

end MojoToolchain
