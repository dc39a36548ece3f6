import MojoToolchain.Proofs.Resolver.Epochs
import MojoToolchain.Proofs.Resolver.Lookup
import MojoToolchain.Proofs.Sdk.Origin

/-!
# The recorded environment

A cached descriptor of an environment is meant to be one of the environment whose key is
recorded.  A probe learns of its environment from the host (`History.LearnsOf`) and then notes
it, but what it notes is recorded only if no key was recorded before; otherwise an environment
with another key is overlooked (`History.Overlooks`).  The recorded key is that of the cached
descriptor exactly when its probe has overlooked nothing.
-/

namespace MojoToolchain

/-! ### The recorded key -/

namespace Slot

@[simp]
theorem lastKey_leave (s : Slot) (epoch : Nat) (result : Option Descriptor) :
  (s.leave epoch result).lastKey = s.lastKey
  := by
  unfold leave
  split
  · rfl
  · rfl

@[simp]
theorem lastKey_report (s : Slot) (epoch : Nat) (error : SdkError) :
  (s.report epoch error).1.lastKey = s.lastKey
  := by
  obtain ⟨errorShown, hslot⟩ := s.report_eq epoch error
  rw [hslot]

/-- What a probe of the current epoch notes is recorded if no key was recorded before. -/
theorem lastKey_observe (s : Slot) (key : String) :
  (s.observe s.epoch key).lastKey = (s.lastKey <|> some key)
  := by
  unfold observe
  cases hkey : s.lastKey with
  | none => simp
  | some recorded => simp [hkey]

/-- A key that is recorded is not replaced by what a probe notes. -/
theorem lastKey_observe_of_some {s : Slot} {recorded : String} (hkey : s.lastKey = some recorded)
    (epoch : Nat) (key : String) :
  (s.observe epoch key).lastKey = some recorded
  := by
  simp [observe, hkey]

end Slot

/-! ### Searches that go on -/

namespace Probe

open Host (Question)

variable {p : Probe} {answer : (q : Question) → q.Answer}

theorem Settled.next (hp : p.Settled) :
  (p.next answer).Settled
  := by
  cases p with
  | done result => apply hp
  | ask q next => apply (hp (answer q)).2
  | observe key next => cases hp
  | report error next => apply hp

theorem Searching.next (hp : p.Searching) (hlearned : p.learned? answer = none) :
  (p.next answer).Searching
  := by
  cases p with
  | done result => apply hp
  | ask q next =>
    have hrecord : q.record? (answer q) = _ := hlearned
    have hnext := hp (answer q)
    rw [hrecord] at hnext
    apply hnext
  | observe key next => cases hp
  | report error next => apply hp

/-- A search that learns of an environment notes it and is settled then. -/
theorem Searching.next_of_learned (hp : p.Searching) {record : Host.Environment}
    (hlearned : p.learned? answer = some record) :
  ∃ rest, p.next answer = .observe record.id rest ∧ rest.Settled
  := by
  cases p with
  | done result => cases hlearned
  | ask q next =>
    have hrecord : q.record? (answer q) = _ := hlearned
    have hnext := hp (answer q)
    rw [hrecord] at hnext
    apply hnext
  | observe key next => cases hp
  | report error next => cases hlearned

end Probe

namespace Resolver

open Host (Question)

/-- A key that is recorded stays when a probe goes on. -/
theorem lastKey_advance {r : Resolver} {key : String} (hkey : r.slot.lastKey = some key) (n : Nat)
    (answer : (q : Question) → q.Answer) :
  (r.advance n answer).1.slot.lastKey = some key
  := by
  unfold advance
  split
  · apply hkey
  · split
    · apply hkey
    · apply hkey
    · apply Slot.lastKey_observe_of_some hkey
    · apply (Slot.lastKey_report ..).trans hkey

/-- What a probe of the current epoch notes is recorded if no key was recorded before. -/
theorem lastKey_advance_observe {r : Resolver} {n : Nat} {key : String} {next : Probe}
    (hp : r.probes[n]? = some ⟨r.slot.epoch, .observe key next⟩)
    (answer : (q : Question) → q.Answer) :
  (r.advance n answer).1.slot.lastKey = (r.slot.lastKey <|> some key)
  := by
  rw [advance, hp]
  apply Slot.lastKey_observe

namespace History

/-! ### Events of a run -/

/-- An event has happened in a run. -/
def Happened (event : History → Step → Prop) (steps : List Step) : Prop :=
  ∃ earlier s, earlier ++ [s] <+: steps ∧ event (after earlier) s

theorem happened_concat {event : History → Step → Prop} {steps : List Step} {s : Step} :
  Happened event (steps ++ [s]) ↔ Happened event steps ∨ event (after steps) s
  := by
  constructor
  · rintro ⟨earlier, s', hpart, h⟩
    rcases List.prefix_concat_iff.mp hpart with heq | hpart
    · obtain ⟨rfl, hs⟩ := List.append_inj' heq rfl
      obtain rfl := List.singleton_inj.mp hs
      exact .inr h
    · exact .inl ⟨earlier, s', hpart, h⟩
  · rintro (⟨earlier, s', hpart, h⟩ | h)
    · exact ⟨earlier, s', hpart.trans (List.prefix_append ..), h⟩
    · exact ⟨steps, s, List.prefix_rfl, h⟩

/-- A probe learns of an environment: the host gives it as the answer to a question. -/
def LearnsOf (n : Nat) (record : Host.Environment) (h : History) (s : Step) : Prop :=
  ∃ answer epoch p, s = .advance n answer ∧ h.resolver.probes[n]? = some ⟨epoch, p⟩
    ∧ p.learned? answer = some record

/-- A probe of the current epoch notes an environment while the key of another one is
recorded. -/
def Overlooks (n : Nat) (h : History) (s : Step) : Prop :=
  ∃ answer p key recorded, s = .advance n answer
    ∧ h.resolver.probes[n]? = some ⟨h.resolver.slot.epoch, p⟩ ∧ p.noted? = some key
    ∧ h.resolver.slot.lastKey = some recorded ∧ recorded ≠ key

theorem learnsOf_advance {h : History} {n epoch : Nat} {p : Probe}
    (hp : h.resolver.probes[n]? = some ⟨epoch, p⟩) (answer : (q : Question) → q.Answer)
    (record : Host.Environment) :
  LearnsOf n record h (.advance n answer) ↔ p.learned? answer = some record
  := by
  constructor
  · rintro ⟨_, _, _, ⟨⟩, hp', hlearned⟩
    cases hp.symm.trans hp'
    apply hlearned
  · intro hlearned
    exact ⟨answer, epoch, p, rfl, hp, hlearned⟩

theorem overlooks_advance {h : History} {n epoch : Nat} {p : Probe}
    (hp : h.resolver.probes[n]? = some ⟨epoch, p⟩) (answer : (q : Question) → q.Answer) :
  Overlooks n h (.advance n answer)
    ↔ epoch = h.resolver.slot.epoch ∧ ∃ key recorded, p.noted? = some key
      ∧ h.resolver.slot.lastKey = some recorded ∧ recorded ≠ key
  := by
  constructor
  · rintro ⟨_, _, key, recorded, ⟨⟩, hp', hrest⟩
    cases hp.symm.trans hp'
    exact ⟨rfl, key, recorded, hrest⟩
  · rintro ⟨rfl, key, recorded, hrest⟩
    exact ⟨answer, p, key, recorded, rfl, hp, hrest⟩

/-- Nothing has happened to a probe that is not started yet. -/
theorem not_happened_of_size_le {event : History → Step → Prop} {n : Nat}
    (hevent : ∀ h s, event h s → n < h.resolver.probes.size) {steps : List Step}
    (hn : (after steps).resolver.probes.size ≤ n) (s : Step) :
  ¬ Happened event (steps ++ [s])
  := by
  intro h
  rcases happened_concat.mp h with ⟨earlier, s', ⟨later, rfl⟩, hs⟩ | hs
  · have hlt := hevent _ s' hs
    have hle := (goesOn_after earlier ([s'] ++ later)).keeps.size_le
    rw [← List.append_assoc] at hle
    omega
  · have hlt := hevent _ s hs
    omega

theorem lt_size_of_learnsOf {n : Nat} {record : Host.Environment} {h : History} {s : Step}
    (hs : LearnsOf n record h s) :
  n < h.resolver.probes.size
  := by
  obtain ⟨_, _, _, -, hp, -⟩ := hs
  apply (Array.getElem?_eq_some_iff.mp hp).1

theorem lt_size_of_overlooks {n : Nat} {h : History} {s : Step} (hs : Overlooks n h s) :
  n < h.resolver.probes.size
  := by
  obtain ⟨_, _, _, _, -, hp, -⟩ := hs
  apply (Array.getElem?_eq_some_iff.mp hp).1

/-! ### Keys and probes after a step -/

/-- A key that is recorded stays until the epoch ends. -/
theorem lastKey_step {h : History} {s : Step} {key : String}
    (hkey : h.resolver.slot.lastKey = some key)
    (hepoch : (h.step s).resolver.slot.epoch = h.resolver.slot.epoch) :
  (h.step s).resolver.slot.lastKey = some key
  := by
  cases s with
  | enter =>
    rcases h.enter_cases with ⟨d, -, hs⟩ | ⟨m, -, -, hs⟩ | ⟨-, -, hs⟩
    · rwa [hs]
    · rwa [hs]
    · rw [hs]
      apply hkey
  | advance m answer => apply lastKey_advance hkey
  | leave call =>
    rcases h.leave_cases call with ⟨hs, -⟩ | ⟨epoch, m, result, -, -, hs⟩
    · rwa [hs]
    · rw [hs]
      apply (Slot.lastKey_leave ..).trans hkey
  | look => apply hkey
  | invalidate k =>
    rcases h.invalidate_cases k with ⟨-, hs⟩ | ⟨-, hs⟩
    · rwa [hs]
    · rw [hs] at hepoch
      exact absurd hepoch (Nat.succ_ne_self _)

/-- A probe after a step was there before, or it has gone on, or the step has started it. -/
theorem probe_step {h : History} {s : Step} {n epoch : Nat} {p : Probe}
    (hp : (h.step s).resolver.probes[n]? = some ⟨epoch, p⟩) :
  (h.resolver.probes[n]? = some ⟨epoch, p⟩ ∧ ∀ answer, s ≠ .advance n answer)
    ∨ (∃ answer p', s = .advance n answer ∧ h.resolver.probes[n]? = some ⟨epoch, p'⟩
      ∧ p = p'.next answer)
    ∨ s = .enter ∧ n = h.resolver.probes.size ∧ p = .start
  := by
  cases s with
  | enter =>
    rcases h.enter_cases with ⟨d, -, hs⟩ | ⟨m, -, -, hs⟩ | ⟨-, -, hs⟩
    · rw [hs] at hp
      exact .inl ⟨hp, by simp⟩
    · rw [hs] at hp
      exact .inl ⟨hp, by simp⟩
    · rw [hs] at hp
      dsimp only at hp
      rw [launch, Array.getElem?_push] at hp
      split at hp
      · next hn => exact .inr (.inr ⟨rfl, hn, (RunningProbe.mk.inj (Option.some.inj hp)).2.symm⟩)
      · exact .inl ⟨hp, by simp⟩
  | advance m answer =>
    by_cases hm : m = n
    · subst hm
      right; left
      cases hold : h.resolver.probes[m]? with
      | none =>
        have hsame : h.resolver.advance m answer = (h.resolver, none) := by
          simp [Resolver.advance, hold]
        rw [step, hsame, hold] at hp
        cases hp
      | some old =>
        obtain ⟨e, p'⟩ := old
        obtain ⟨rfl, rfl⟩ := RunningProbe.mk.inj
          (Option.some.inj ((stage_advance answer hold).symm.trans hp))
        exact ⟨answer, p', rfl, rfl, rfl⟩
    · left
      constructor
      · rw [← hp]
        exact (stage_advance_of_ne hm answer).symm
      · rintro answer' ⟨⟩
        apply hm rfl
  | leave call =>
    rcases h.leave_cases call with ⟨hs, -⟩ | ⟨_, _, _, -, -, hs⟩
    · rw [hs] at hp
      exact .inl ⟨hp, by simp⟩
    · rw [hs] at hp
      exact .inl ⟨hp, by simp⟩
  | look => exact .inl ⟨hp, by simp⟩
  | invalidate key =>
    rcases h.invalidate_cases key with ⟨-, hs⟩ | ⟨-, hs⟩
    · rw [hs] at hp
      exact .inl ⟨hp, by simp⟩
    · rw [hs] at hp
      exact .inl ⟨hp, by simp⟩

/-! ### What a run has made of a probe -/

/-- A probe in a run: it knows no environment; or it has learned of its only one, which it is
about to note; or it has noted it, and then the recorded key of its epoch is the one noted unless
that was overlooked. -/
inductive Phase (steps : List Step) (n epoch : Nat) : Probe → Prop where
  | searching {p : Probe} (hnone : ∀ record, ¬ Happened (LearnsOf n record) steps)
    (hseen : ¬ Happened (Overlooks n) steps) (hp : p.Searching) : Phase steps n epoch p
  | learned {record : Host.Environment} {rest : Probe}
    (honly : ∀ r, Happened (LearnsOf n r) steps ↔ r = record)
    (hseen : ¬ Happened (Overlooks n) steps) (hrest : rest.Settled) :
    Phase steps n epoch (.observe record.id rest)
  | settled {p : Probe} {record : Host.Environment}
    (honly : ∀ r, Happened (LearnsOf n r) steps ↔ r = record) (hp : p.Settled)
    (hkey : epoch = (after steps).resolver.slot.epoch →
      ∃ key, (after steps).resolver.slot.lastKey = some key
        ∧ (key = record.id ↔ ¬ Happened (Overlooks n) steps)) :
    Phase steps n epoch p

/-- The recorded key of a probe's epoch stays after a step. -/
theorem key_concat {steps : List Step} {s : Step} {n epoch : Nat} {record : Host.Environment}
    (hle : epoch ≤ (after steps).resolver.slot.epoch)
    (hkey : epoch = (after steps).resolver.slot.epoch →
      ∃ key, (after steps).resolver.slot.lastKey = some key
        ∧ (key = record.id ↔ ¬ Happened (Overlooks n) steps))
    (hs : ¬ Overlooks n (after steps) s)
    (hepoch : epoch = (after (steps ++ [s])).resolver.slot.epoch) :
  ∃ key, (after (steps ++ [s])).resolver.slot.lastKey = some key
    ∧ (key = record.id ↔ ¬ Happened (Overlooks n) (steps ++ [s]))
  := by
  rw [after_concat] at hepoch ⊢
  have hmono := (after steps).epoch_le_step s
  obtain ⟨key, hlast, hiff⟩ := hkey (by omega)
  refine ⟨key, lastKey_step hlast (by omega), ?_⟩
  rw [hiff, happened_concat, or_iff_left hs]

/-- A step of others changes nothing in what a run has made of a probe. -/
theorem Phase.of_others {steps : List Step} {s : Step} {n epoch : Nat} {p : Probe}
    (h : Phase steps n epoch p) (hle : epoch ≤ (after steps).resolver.slot.epoch)
    (hs : ∀ answer, s ≠ .advance n answer) :
  Phase (steps ++ [s]) n epoch p
  := by
  have hlearn (r : Host.Environment) : ¬ LearnsOf n r (after steps) s := by
    rintro ⟨answer, _, _, rfl, -⟩
    apply hs answer rfl
  have hnote : ¬ Overlooks n (after steps) s := by
    rintro ⟨answer, _, _, _, rfl, -⟩
    apply hs answer rfl
  cases h with
  | searching hnone hseen hp =>
    apply Phase.searching
    · intro r
      rw [happened_concat, or_iff_left (hlearn r)]
      apply hnone r
    · rwa [happened_concat, or_iff_left hnote]
    · apply hp
  | learned honly hseen hrest =>
    apply Phase.learned
    · intro r
      rw [happened_concat, or_iff_left (hlearn r), honly]
    · rwa [happened_concat, or_iff_left hnote]
    · apply hrest
  | settled honly hp hkey =>
    apply Phase.settled
    · intro r
      rw [happened_concat, or_iff_left (hlearn r), honly]
    · apply hp
    · apply key_concat hle hkey hnote

/-- What a run makes of a probe that goes on. -/
theorem Phase.advance {steps : List Step} {n epoch : Nat} {p : Probe} (h : Phase steps n epoch p)
    (hp : (after steps).resolver.probes[n]? = some ⟨epoch, p⟩)
    (hle : epoch ≤ (after steps).resolver.slot.epoch) (answer : (q : Question) → q.Answer) :
  Phase (steps ++ [.advance n answer]) n epoch (p.next answer)
  := by
  have hlearn (r : Host.Environment) := learnsOf_advance hp answer r
  have hnote := overlooks_advance hp answer
  cases h with
  | searching hnone hseen hsearching =>
    have hseen' : ¬ Happened (Overlooks n) (steps ++ [.advance n answer]) := by
      rw [happened_concat, hnote, hsearching.noted?]
      simp [hseen]
    cases hlearned : p.learned? answer with
    | none =>
      apply Phase.searching
      · intro r
        rw [happened_concat, hlearn, hlearned]
        simp [hnone]
      · apply hseen'
      · apply hsearching.next hlearned
    | some record =>
      obtain ⟨rest, hnext, hrest⟩ := hsearching.next_of_learned hlearned
      rw [hnext]
      apply Phase.learned
      · intro r
        rw [happened_concat, hlearn, hlearned, Option.some.injEq, eq_comm]
        simp [hnone]
      · apply hseen'
      · apply hrest
  | @learned record rest honly hseen hrest =>
    have honly' (r : Host.Environment) :
        Happened (LearnsOf n r) (steps ++ [.advance n answer]) ↔ r = record := by
      rw [happened_concat, hlearn, honly]
      simp [Probe.learned?]
    apply Phase.settled honly'
    · apply hrest
    · intro hepoch
      obtain rfl : epoch = (after steps).resolver.slot.epoch := by
        rw [hepoch, after_concat, epoch_step]
      rw [after_concat, step, lastKey_advance_observe hp, happened_concat, hnote]
      cases hlast : (after steps).resolver.slot.lastKey with
      | none => exact ⟨record.id, rfl, by simp [hseen]⟩
      | some recorded => exact ⟨recorded, rfl, by simp [hseen, Probe.noted?]⟩
  | @settled _ record honly hsettled hkey =>
    have honly' (r : Host.Environment) :
        Happened (LearnsOf n r) (steps ++ [.advance n answer]) ↔ r = record := by
      rw [happened_concat, hlearn, hsettled.learned?, honly]
      simp
    have hquiet : ¬ Overlooks n (after steps) (.advance n answer) := by
      rw [hnote, hsettled.noted?]
      simp
    apply Phase.settled honly'
    · apply hsettled.next
    · apply key_concat hle hkey hquiet

/-- A run makes something of each of its probes. -/
theorem phase_after {steps : List Step} {n epoch : Nat} {p : Probe}
    (hp : (after steps).resolver.probes[n]? = some ⟨epoch, p⟩) :
  Phase steps n epoch p
  := by
  induction steps using List.reverseRecOn generalizing p with
  | nil => simp [after, fresh, Resolver.fresh] at hp
  | append_singleton steps s ih =>
    rw [after_concat] at hp
    have hle {p' : Probe} (hp' : (after steps).resolver.probes[n]? = some ⟨epoch, p'⟩) :
        epoch ≤ (after steps).resolver.slot.epoch := by
      apply (isolated_after steps).resolver.probe (n := n)
      rw [epoch?, hp']
      rfl
    rcases probe_step hp with ⟨hp', hs⟩ | ⟨answer, p', rfl, hp', rfl⟩ | ⟨-, rfl, rfl⟩
    · apply (ih hp').of_others (hle hp') hs
    · apply (ih hp').advance hp' (hle hp')
    · apply Phase.searching
      · intro r
        apply not_happened_of_size_le (fun _ _ => lt_size_of_learnsOf) (Nat.le_refl _)
      · apply not_happened_of_size_le (fun _ _ => lt_size_of_overlooks) (Nat.le_refl _)
      · exact Probe.searching_start

/-! ### Cached descriptors -/

/-- A key that is recorded is recorded in all histories of the same epoch that go on from
there. -/
theorem lastKey_after {earlier : List Step} {key : String}
    (hkey : (after earlier).resolver.slot.lastKey = some key) (later : List Step)
    (hepoch : (after earlier).resolver.slot.epoch
      = (after (earlier ++ later)).resolver.slot.epoch) :
  (after (earlier ++ later)).resolver.slot.lastKey = some key
  := lasts_after (P := fun h => h.resolver.slot.lastKey = some key) lastKey_step hkey later hepoch

/-- After an invalidation its key is recorded, whether it was new or not. -/
theorem lastKey_invalidate (h : History) (key : String) :
  (h.step (.invalidate key)).resolver.slot.lastKey = some key
  := by
  rcases h.invalidate_cases key with ⟨hkey, hs⟩ | ⟨-, hs⟩
  · rwa [hs]
  · rw [hs]
    rfl

/-- A cached descriptor is one of the workspace, and its probe has learned of no environment; or
it is one of the only environment that its probe has learned of, and the recorded key is that of
this environment unless it was overlooked. -/
theorem cached_cases {steps : List Step} {d : Descriptor}
    (hd : (after steps).resolver.slot.cached = some d) :
  (d.sdk.kind = .internal ∧ ∀ record, ¬ Happened (LearnsOf d.number record) steps)
    ∨ d.sdk.kind = .environment
      ∧ ∃ record, (∀ r, Happened (LearnsOf d.number r) steps ↔ r = record)
        ∧ ∃ key, (after steps).resolver.slot.lastKey = some key
          ∧ (key = record.id ↔ ¬ Happened (Overlooks d.number) steps)
  := by
  obtain ⟨hresult, hepoch⟩ := (isolated_after steps).resolver.cached hd
  obtain ⟨epoch, found, hp, hfound⟩ := result?_eq_some_iff.mp hresult
  obtain ⟨sdk, rfl, hsdk⟩ := Option.map_eq_some_iff.mp hfound.symm
  have hkind : d.sdk = sdk := by rw [← hsdk]
  rw [epoch?, hp] at hepoch
  obtain rfl := Option.some.inj hepoch
  cases phase_after hp with
  | searching hnone _ hsearching =>
    left
    rw [hkind]
    exact ⟨hsearching sdk rfl, hnone⟩
  | @settled _ record honly hsettled hkey =>
    right
    rw [hkind]
    exact ⟨hsettled sdk rfl, record, honly, hkey rfl⟩

/-- A cached descriptor is one of an environment exactly when its probe has learned of one, and
then of no other.  A key is recorded then, and it is that of the environment exactly when the
probe has not overlooked it.  So after an invalidation, as long as its epoch lasts, a descriptor
of an environment is cached that has not the key of the invalidation exactly when its probe has
overlooked the environment. -/
theorem recorded_environment (steps : List Step) (d : Descriptor)
    (hd : (after steps).resolver.slot.cached = some d) :
  (d.sdk.kind = .environment ↔ ∃ record, Happened (LearnsOf d.number record) steps)
    ∧ ∀ record, Happened (LearnsOf d.number record) steps →
      (∀ r, Happened (LearnsOf d.number r) steps → r = record)
      ∧ (after steps).resolver.slot.lastKey ≠ none
      ∧ ((after steps).resolver.slot.lastKey = some record.id
        ↔ ¬ Happened (Overlooks d.number) steps)
      ∧ ∀ earlier key, earlier ++ [.invalidate key] <+: steps →
        (after (earlier ++ [.invalidate key])).resolver.slot.epoch
          = (after steps).resolver.slot.epoch →
        (record.id = key ↔ ¬ Happened (Overlooks d.number) steps)
  := by
  rcases cached_cases hd with ⟨hkind, hnone⟩ | ⟨hkind, record, honly, key, hkey, hiff⟩
  · constructor
    · simp [hkind, hnone]
    · intro record hrecord
      exact absurd hrecord (hnone record)
  · constructor
    · simp [hkind, honly]
    · intro record' hrecord'
      obtain rfl := (honly record').mp hrecord'
      refine ⟨fun r hr => (honly r).mp hr, ?_, ?_, ?_⟩
      · simp [hkey]
      · rw [hkey, Option.some.injEq, hiff]
      · rintro earlier key' ⟨later, rfl⟩ hepoch
        have hlast := lastKey_invalidate (after earlier) key'
        rw [← after_concat] at hlast
        obtain rfl := Option.some.inj (hkey.symm.trans (lastKey_after hlast later hepoch))
        rw [← hiff, eq_comm]

/-- A call finds an SDK of an environment, and then the environment is announced. -/
def noted : List Step := [.enter] ++ search 0 ++ [.leave 0, .invalidate "env"]

/-- A probe that notes its environment first: its key is recorded, and the descriptor stays. -/
theorem recorded_environment_noted :
  ∃ d, (after noted).resolver.slot.cached = some d ∧ d.sdk.kind = .environment
    ∧ Happened (LearnsOf d.number ⟨"env", ⟨"/env"⟩⟩) noted
    ∧ (after noted).resolver.slot.lastKey = some "env"
    ∧ ¬ Happened (Overlooks d.number) noted
  := by
  have hd : (after noted).resolver.slot.cached = some ⟨0, Sdk.packaged ⟨"/env"⟩ "linux"⟩ := by
    decide +kernel
  have hkey : (after noted).resolver.slot.lastKey = some "env" := by
    decide +kernel
  have hlearns : Happened (LearnsOf 0 ⟨"env", ⟨"/env"⟩⟩) noted :=
    ⟨[.enter, .advance 0 (plainHost (some "env") true), .advance 0 (plainHost (some "env") true)],
      .advance 0 (plainHost (some "env") true), ⟨_, rfl⟩, _, _, _, rfl, rfl, rfl⟩
  obtain ⟨hkind, hrecord⟩ := recorded_environment noted _ hd
  obtain ⟨-, -, hiff, -⟩ := hrecord _ hlearns
  exact ⟨_, hd, hkind.mpr ⟨_, hlearns⟩, hlearns, hkey, hiff.mp hkey⟩

/-- The environment is announced under another key than the one that the next call finds. -/
def switched : List Step := [.invalidate "other", .enter] ++ search 0 ++ [.leave 0]

/-- The cache has a descriptor of an environment while the key of another one is recorded, and
when this other one is announced again, that is no change and the descriptor stays. -/
theorem overlooked_environment :
  ∃ d, (after switched).resolver.slot.cached = some d ∧ d.sdk.kind = .environment
    ∧ Happened (LearnsOf d.number ⟨"env", ⟨"/env"⟩⟩) switched
    ∧ (after switched).resolver.slot.lastKey = some "other"
    ∧ ((after switched).resolver.invalidate "other").1 = false
    ∧ (after (switched ++ [.invalidate "other"])).resolver.slot.cached = some d
  := by
  have hlearns : Happened (LearnsOf 0 ⟨"env", ⟨"/env"⟩⟩) switched :=
    ⟨[.invalidate "other", .enter, .advance 0 (plainHost (some "env") true),
      .advance 0 (plainHost (some "env") true)], .advance 0 (plainHost (some "env") true),
      ⟨_, rfl⟩, _, _, _, rfl, rfl, rfl⟩
  refine ⟨⟨0, Sdk.packaged ⟨"/env"⟩ "linux"⟩, ?_, rfl, hlearns, ?_, ?_, ?_⟩
  · decide +kernel
  · decide +kernel
  · decide +kernel
  · decide +kernel

end History

end Resolver

end MojoToolchain
