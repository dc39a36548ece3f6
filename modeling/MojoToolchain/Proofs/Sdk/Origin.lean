import MojoToolchain.Sdk.Probe

/-!
# Where an SDK comes from

A search learns of at most one environment, whatever it is answered.  Until then it can only find
an SDK of the workspace (`Probe.Searching`).  The environment is noted at once, and after that an
SDK that is found is one of an environment (`Probe.Settled`).
-/

namespace MojoToolchain

open Host (Dialogue Question)

/-- The environment that an answer gives. -/
def Host.Question.record? : (q : Question) → q.Answer → Option Host.Environment
  | .environment _, answer => answer
  | _, _ => none

/-! ### Dialogues -/

namespace Host.Dialogue

variable {α β : Type}

/-- A dialogue that learns of no environment, and whose results all have a property. -/
def Yields (P : α → Prop) : Dialogue α → Prop
  | done a => P a
  | ask q next => ∀ answer, q.record? answer = none ∧ (next answer).Yields P

namespace Yields

theorem mono {P Q : α → Prop} {d : Dialogue α} (hd : d.Yields P) (h : ∀ a, P a → Q a) :
  d.Yields Q
  := by
  induction d with
  | done a => apply h a hd
  | ask q next ih => exact fun answer => ⟨(hd answer).1, ih answer (hd answer).2⟩

theorem bind {P : α → Prop} {Q : β → Prop} {d : Dialogue α} {f : α → Dialogue β}
    (hd : d.Yields P) (hf : ∀ a, P a → (f a).Yields Q) :
  (d.bind f).Yields Q
  := by
  induction d with
  | done a => apply hf a hd
  | ask q next ih => exact fun answer => ⟨(hd answer).1, ih answer (hd answer).2⟩

/-- A question whose answer is no environment. -/
theorem question {q : Question} (hq : ∀ answer, q.record? answer = none) :
  (Dialogue.question q).Yields fun _ => True
  := fun answer => ⟨hq answer, trivial⟩

end Yields

end Host.Dialogue

open Host.Dialogue (Yields)

namespace Sdk

/-- An SDK that is loaded is of a kind. -/
def OfKind (kind : Kind) (result : Except SdkError Sdk) : Prop :=
  ∀ sdk, result = .ok sdk → sdk.kind = kind

theorem OfKind.error {kind : Kind} (e : SdkError) :
  OfKind kind (.error e)
  := by
  intro sdk h
  cases h

theorem OfKind.ok {kind : Kind} {sdk : Sdk} (h : sdk.kind = kind) :
  OfKind kind (.ok sdk)
  := by
  rintro _ ⟨⟩
  apply h

theorem yields_exists (path : Path) :
  (Dialogue.exists? path).Yields fun _ => True
  := .bind (.question fun _ => rfl) fun _ _ => trivial

theorem yields_missing (sdk : Sdk) :
  sdk.missing.Yields fun _ => True
  := by
  unfold missing
  induction sdk.paths with
  | nil => trivial
  | cons path rest ih =>
    apply (yields_exists path).bind
    intro found _
    exact ih.bind fun _ _ => trivial

theorem yields_verify (sdk : Sdk) :
  sdk.verify.Yields (OfKind sdk.kind)
  := by
  apply (yields_missing sdk).bind
  intro missing _
  cases missing with
  | nil => apply OfKind.ok rfl
  | cons path rest => apply OfKind.error

theorem yields_load (file : Path) :
  (Descriptor.load file).Yields fun _ => True
  := by
  apply Yields.bind (.question fun _ => rfl)
  intro bytes _
  cases bytes with
  | error fault => trivial
  | ok bytes =>
    dsimp only
    split
    · trivial
    · split
      · trivial
      · trivial

theorem yields_loadHome (kind : Kind) (home : Path) (root : Option Path) :
  (loadHome kind home root).Yields (OfKind kind)
  := by
  apply (yields_load _).bind
  intro descriptor _
  cases descriptor with
  | error reason => apply OfKind.error
  | ok descriptor =>
    dsimp only
    split
    · apply OfKind.error
    · apply yields_verify

theorem yields_loadPackaged (environment : Host.Environment) :
  (loadPackaged environment).Yields (OfKind .environment)
  := by
  apply (yields_missing _).bind
  intro missing _
  cases missing with
  | nil =>
    have hversion : (askVersion (packaged environment.sysPrefix "linux").tools.runtime).Yields
        fun _ => True := by
      apply Yields.bind (.question fun _ => rfl)
      intro output _
      cases output with
      | error fault => trivial
      | ok output => trivial
    exact hversion.bind fun version _ => yields_verify _
  | cons path rest => apply OfKind.error

theorem yields_environmentSource (environment : Host.Environment) :
  (environmentSource environment).Yields (OfKind .environment)
  := by
  apply (yields_exists _).bind
  intro found _
  cases found with
  | true => apply yields_loadHome
  | false => apply yields_loadPackaged

theorem yields_workspaceSource :
  workspaceSource.Yields fun result => ∀ sdk, result = some (.ok sdk) → sdk.kind = .internal
  := by
  apply Yields.bind (.question fun _ => rfl)
  intro roots _
  dsimp only
  split
  · next root =>
    apply Yields.bind (.question fun _ => rfl)
    intro kind _
    split
    · apply (yields_loadHome .internal _ none).bind
      intro result hresult sdk hsdk
      apply hresult sdk (Option.some.inj hsdk)
    · rintro sdk ⟨⟩
  · rintro sdk ⟨⟩

end Sdk

/-! ### Searches -/

namespace Probe

/-- A probe that knows its environment, or needs none any more: it learns of no other, notes
none, and finds an SDK of an environment or nothing. -/
def Settled : Probe → Prop
  | done result => ∀ sdk, result = some sdk → sdk.kind = .environment
  | ask q next => ∀ answer, q.record? answer = none ∧ (next answer).Settled
  | observe _ _ => False
  | report _ next => next.Settled

/-- A probe that knows no environment: it finds an SDK of the workspace or nothing, unless it
learns of an environment, which it notes before all else. -/
def Searching : Probe → Prop
  | done result => ∀ sdk, result = some sdk → sdk.kind = .internal
  | ask q next => ∀ answer,
    match q.record? answer with
    | none => (next answer).Searching
    | some record => ∃ rest, next answer = observe record.id rest ∧ rest.Settled
  | observe _ _ => False
  | report _ next => next.Searching

/-- The environment that a probe learns of with its next instruction. -/
def learned? (answer : (q : Question) → q.Answer) : Probe → Option Host.Environment
  | ask q _ => q.record? (answer q)
  | _ => none

/-- The key that a probe notes with its next instruction. -/
def noted? : Probe → Option String
  | observe key _ => some key
  | _ => none

/-- A search that is settled learns of nothing and notes nothing. -/
theorem Settled.learned? {p : Probe} (hp : p.Settled) (answer : (q : Question) → q.Answer) :
  p.learned? answer = none
  := by
  cases p with
  | done result => rfl
  | ask q next => apply (hp (answer q)).1
  | observe key next => rfl
  | report error next => rfl

theorem Settled.noted? {p : Probe} (hp : p.Settled) :
  p.noted? = none
  := by
  cases p with
  | done result => rfl
  | ask q next => rfl
  | observe key next => cases hp
  | report error next => rfl

theorem Searching.noted? {p : Probe} (hp : p.Searching) :
  p.noted? = none
  := by
  cases p with
  | done result => rfl
  | ask q next => rfl
  | observe key next => cases hp
  | report error next => rfl

theorem settled_after {α : Type} {P : α → Prop} {d : Dialogue α} {f : α → Probe}
    (hd : d.Yields P) (hf : ∀ a, P a → (f a).Settled) :
  (after d f).Settled
  := by
  induction d with
  | done a => apply hf a hd
  | ask q next ih => exact fun answer => ⟨(hd answer).1, ih answer (hd answer).2⟩

theorem searching_after {α : Type} {P : α → Prop} {d : Dialogue α} {f : α → Probe}
    (hd : d.Yields P) (hf : ∀ a, P a → (f a).Searching) :
  (after d f).Searching
  := by
  induction d with
  | done a => apply hf a hd
  | ask q next ih =>
    intro answer
    rw [(hd answer).1]
    apply ih answer (hd answer).2

/-- Loading the SDK of an environment ends a search. -/
theorem settled_conclude {result : Except SdkError Sdk} (h : Sdk.OfKind .environment result) :
  (conclude result).Settled
  := by
  cases result with
  | error e =>
    rintro sdk ⟨⟩
  | ok sdk =>
    rintro _ ⟨⟩
    apply h sdk rfl

theorem searching_inEnvironment :
  inEnvironment.Searching
  := by
  intro name
  cases name with
  | none =>
    rintro sdk ⟨⟩
  | some name =>
    intro record
    cases record with
    | none =>
      rintro sdk ⟨⟩
    | some record =>
      refine ⟨_, rfl, ?_⟩
      exact settled_after (Sdk.yields_environmentSource record) fun _ => settled_conclude

theorem searching_start :
  start.Searching
  := by
  apply searching_after Sdk.yields_workspaceSource
  intro result hresult
  cases result with
  | none => apply searching_inEnvironment
  | some result =>
    cases result with
    | error e => apply searching_inEnvironment
    | ok sdk =>
      rintro _ ⟨⟩
      apply hresult sdk rfl

end Probe

end MojoToolchain
