import MojoToolchain.Proofs.Resolver.History

/-!
# What a step does

For each kind of step, what it does to the slot, the probes and the calls.  A probe that goes on
leaves the slot as it is but for the key and the flag; only a call that leaves fills the cache;
only a call that enters starts a probe; only a new environment opens an epoch, and is announced.
No step loses a probe, its epoch or its result, and a call that has returned stays as it is.
-/

namespace MojoToolchain

/-! ### The slot -/

namespace Slot

theorem joinable_eq_some_iff {s : Slot} {n : Nat} :
  s.joinable = some n ↔ s.inFlight = some (s.epoch, n)
  := by
  obtain ⟨cached, lastKey, errorShown, epoch, _ | ⟨e, m⟩⟩ := s
  · simp [joinable]
  · by_cases he : e = epoch
    · simp [joinable, he]
    · simp [joinable, he]

theorem leave_of_ne {s : Slot} {epoch : Nat} (h : epoch ≠ s.epoch) (result : Option Descriptor) :
  s.leave epoch result = s
  := by
  simp [leave, h.symm]

theorem leave_current {s : Slot} (h : ∀ {e n}, s.inFlight = some (e, n) → e = s.epoch)
    (result : Option Descriptor) :
  s.leave s.epoch result = { s with inFlight := none, cached := s.cached <|> result }
  := by
  obtain ⟨cached, lastKey, errorShown, epoch, _ | ⟨e, n⟩⟩ := s
  · simp [leave]
  · obtain rfl : e = epoch := h rfl
    simp [leave]

@[simp]
theorem epoch_leave (s : Slot) (epoch : Nat) (result : Option Descriptor) :
  (s.leave epoch result).epoch = s.epoch
  := by
  unfold leave
  split
  · rfl
  · rfl

@[simp]
theorem errorShown_leave (s : Slot) (epoch : Nat) (result : Option Descriptor) :
  (s.leave epoch result).errorShown = s.errorShown
  := by
  unfold leave
  split
  · rfl
  · rfl

theorem observe_eq (s : Slot) (epoch : Nat) (key : String) :
  ∃ lastKey, s.observe epoch key = { s with lastKey := lastKey }
  := by
  unfold observe
  split
  · exact ⟨_, rfl⟩
  · exact ⟨s.lastKey, rfl⟩

theorem report_eq (s : Slot) (epoch : Nat) (error : SdkError) :
  ∃ errorShown, (s.report epoch error).1 = { s with errorShown := errorShown }
  := by
  unfold report
  split
  · exact ⟨true, rfl⟩
  · exact ⟨s.errorShown, rfl⟩

end Slot

namespace Resolver

open Host (Question)

/-! ### Probes that go on -/

@[simp]
theorem slot_setStage (r : Resolver) (n : Nat) (stage : Probe) :
  (r.setStage n stage).slot = r.slot
  := rfl

theorem probes_setStage (r : Resolver) (n m : Nat) (stage : Probe) :
  (r.setStage n stage).probes[m]?
    = if n = m then (r.probes[m]?).map fun p => { p with stage := stage } else r.probes[m]?
  := Array.getElem?_modify

@[simp]
theorem epoch?_setStage (r : Resolver) (n m : Nat) (stage : Probe) :
  (r.setStage n stage).epoch? m = r.epoch? m
  := by
  rw [epoch?, probes_setStage, epoch?]
  split
  · rw [Option.map_map]
    rfl
  · rfl

/-- The results of probes stay when a probe that is not done gets a new stage. -/
theorem keeps_setStage {r : Resolver} {n : Nat} (h : r.result? n = none) (stage : Probe) :
  r.Keeps (r.setStage n stage)
  := by
  constructor
  · intro m e hm
    rwa [epoch?_setStage]
  · intro m result hm
    have hne : n ≠ m := by
      rintro rfl
      rw [h] at hm
      cases hm
    rw [result?, probes_setStage, if_neg hne]
    apply hm

/-- A probe that is not done has no result. -/
theorem result?_eq_none {r : Resolver} {n : Nat} {p : RunningProbe} (hp : r.probes[n]? = some p)
    (h : ∀ found, p.stage ≠ .done found) :
  r.result? n = none
  := by
  obtain ⟨e, stage⟩ := p
  unfold result?
  split
  · next e' found hp' =>
    obtain ⟨-, rfl⟩ := RunningProbe.mk.inj (Option.some.inj (hp.symm.trans hp'))
    exact absurd rfl (h found)
  · rfl

/-- What a probe that goes on can do: nothing, or get a new stage and change the key and the flag
of the slot. -/
theorem advance_cases (r : Resolver) (n : Nat) (answer : (q : Question) → q.Answer) :
  r.advance n answer = (r, none)
    ∨ r.result? n = none ∧ ∃ slot stage message, r.advance n answer
        = ({ r with slot := slot }.setStage n stage, message)
      ∧ ∃ lastKey errorShown,
        slot = { r.slot with lastKey := lastKey, errorShown := errorShown }
  := by
  unfold advance
  cases hp : r.probes[n]? with
  | none => exact .inl rfl
  | some p =>
    obtain ⟨e, stage⟩ := p
    cases stage with
    | done found => exact .inl rfl
    | ask q next =>
      right
      constructor
      · apply result?_eq_none hp
        simp
      · exact ⟨r.slot, next (answer q), none, rfl, r.slot.lastKey, r.slot.errorShown, rfl⟩
    | observe key next =>
      right
      constructor
      · apply result?_eq_none hp
        simp
      · obtain ⟨lastKey, hk⟩ := r.slot.observe_eq e key
        exact ⟨_, next, none, rfl, lastKey, r.slot.errorShown, hk⟩
    | report error next =>
      right
      constructor
      · apply result?_eq_none hp
        simp
      · obtain ⟨errorShown, hs⟩ := r.slot.report_eq e error
        exact ⟨_, next, _, rfl, r.slot.lastKey, errorShown, hs⟩

/-- A probe that goes on leaves the slot as it is but for the key and the flag. -/
theorem slot_advance (r : Resolver) (n : Nat) (answer : (q : Question) → q.Answer) :
  ∃ lastKey errorShown, (r.advance n answer).1.slot
    = { r.slot with lastKey := lastKey, errorShown := errorShown }
  := by
  rcases r.advance_cases n answer with h | ⟨-, slot, stage, message, h, hslot⟩
  · rw [h]
    exact ⟨_, _, rfl⟩
  · rw [h]
    apply hslot

@[simp]
theorem epoch?_advance (r : Resolver) (n m : Nat) (answer : (q : Question) → q.Answer) :
  (r.advance n answer).1.epoch? m = r.epoch? m
  := by
  rcases r.advance_cases n answer with h | ⟨-, slot, stage, message, h, -⟩
  · rw [h]
  · rw [h]
    apply epoch?_setStage

theorem keeps_advance (r : Resolver) (n : Nat) (answer : (q : Question) → q.Answer) :
  r.Keeps (r.advance n answer).1
  := by
  rcases r.advance_cases n answer with h | ⟨hn, slot, stage, message, h, -⟩
  · rw [h]
    apply Keeps.refl
  · rw [h]
    have hslot : r.Keeps { r with slot := slot } := Keeps.of_probes_eq rfl
    apply hslot.trans
    apply keeps_setStage
    apply hn

/-! ### Calls that enter -/

/-- The resolver after a probe is started in its current epoch. -/
def launch (r : Resolver) : Resolver :=
  { r with
    slot := { r.slot with inFlight := some (r.slot.epoch, r.probes.size) }
    probes := r.probes.push ⟨r.slot.epoch, .start⟩ }

@[simp]
theorem cached_launch (r : Resolver) :
  r.launch.slot.cached = r.slot.cached
  := rfl

@[simp]
theorem epoch_launch (r : Resolver) :
  r.launch.slot.epoch = r.slot.epoch
  := rfl

@[simp]
theorem errorShown_launch (r : Resolver) :
  r.launch.slot.errorShown = r.slot.errorShown
  := rfl

@[simp]
theorem inFlight_launch (r : Resolver) :
  r.launch.slot.inFlight = some (r.slot.epoch, r.probes.size)
  := rfl

theorem epoch?_launch (r : Resolver) (n : Nat) :
  r.launch.epoch? n = if n = r.probes.size then some r.slot.epoch else r.epoch? n
  := by
  rw [epoch?, launch, Array.getElem?_push]
  split
  · rfl
  · rfl

/-- Only the probe that is started is new. -/
theorem epoch?_launch_cases {r : Resolver} {n epoch : Nat} (h : r.launch.epoch? n = some epoch) :
  n = r.probes.size ∧ epoch = r.slot.epoch ∨ r.epoch? n = some epoch
  := by
  rw [epoch?_launch] at h
  split at h
  · next hsize => exact .inl ⟨hsize, (Option.some.inj h).symm⟩
  · exact .inr h

theorem keeps_launch (r : Resolver) :
  r.Keeps r.launch
  := by
  constructor
  · intro n e hn
    rw [epoch?_launch, if_neg (Nat.ne_of_lt (lt_size_of_epoch? hn))]
    apply hn
  · intro n result hn
    rw [result?, launch, Array.getElem?_push, if_neg (Nat.ne_of_lt (lt_size_of_result? hn))]
    apply hn

/-- A call finds the cached descriptor, or joins the probe in flight, or starts a probe. -/
theorem enter_cases (r : Resolver) :
  (∃ d, r.slot.cached = some d ∧ r.enter = (.answered d, r))
    ∨ (∃ n, r.slot.cached = none ∧ r.slot.inFlight = some (r.slot.epoch, n)
      ∧ r.enter = (.waiting r.slot.epoch n, r))
    ∨ r.slot.cached = none ∧ r.slot.joinable = none
      ∧ r.enter = (.waiting r.slot.epoch r.probes.size, r.launch)
  := by
  unfold enter
  cases hc : r.slot.cached with
  | some d => exact .inl ⟨d, rfl, rfl⟩
  | none =>
    right
    cases hj : r.slot.joinable with
    | some n => exact .inl ⟨n, rfl, Slot.joinable_eq_some_iff.mp hj, rfl⟩
    | none => exact .inr ⟨rfl, rfl, rfl⟩

theorem keeps_enter (r : Resolver) :
  r.Keeps r.enter.2
  := by
  rcases r.enter_cases with ⟨d, -, h⟩ | ⟨n, -, -, h⟩ | ⟨-, -, h⟩
  · rw [h]
    apply Keeps.refl
  · rw [h]
    apply Keeps.refl
  · rw [h]
    apply keeps_launch

/-! ### Calls that leave -/

@[simp]
theorem epoch?_leave (r : Resolver) (epoch : Nat) (result : Option Descriptor) (n : Nat) :
  (r.leave epoch result).epoch? n = r.epoch? n
  := rfl

@[simp]
theorem result?_leave (r : Resolver) (epoch : Nat) (result : Option Descriptor) (n : Nat) :
  (r.leave epoch result).result? n = r.result? n
  := rfl

/-- A call of another epoch changes nothing when it leaves. -/
theorem leave_of_ne {r : Resolver} {epoch : Nat} (h : epoch ≠ r.slot.epoch)
    (result : Option Descriptor) :
  r.leave epoch result = r
  := by
  rw [leave, Slot.leave_of_ne h]

/-! ### A new environment -/

/-- The resolver in a new epoch, in which only the key of the environment is known. -/
def renew (r : Resolver) (key : String) : Resolver :=
  { r with
    slot := ⟨none, some key, false, r.slot.epoch + 1, none⟩
    announced := r.announced.push key }

@[simp]
theorem slot_renew (r : Resolver) (key : String) :
  (r.renew key).slot = ⟨none, some key, false, r.slot.epoch + 1, none⟩
  := rfl

/-- A key that is not new changes nothing; a new one opens an epoch. -/
theorem invalidate_cases (r : Resolver) (key : String) :
  r.slot.lastKey = some key ∧ (r.invalidate key).2 = r
    ∨ r.slot.lastKey ≠ some key ∧ (r.invalidate key).2 = r.renew key
  := by
  by_cases h : r.slot.lastKey = some key
  · left
    simp [invalidate, Slot.invalidate, h]
  · right
    simp [invalidate, Slot.invalidate, renew, h]

/-! ### Histories -/

namespace History

/-- A call that enters returns at once with the cached descriptor, or waits for the probe in flight
or for a new one. -/
theorem enter_cases (h : History) :
  (∃ d, h.resolver.slot.cached = some d
      ∧ h.step .enter
        = { h with calls := h.calls.push ⟨h.resolver.slot.epoch, .returned (some d)⟩ })
    ∨ (∃ n, h.resolver.slot.cached = none
      ∧ h.resolver.slot.inFlight = some (h.resolver.slot.epoch, n)
      ∧ h.step .enter = { h with calls := h.calls.push ⟨h.resolver.slot.epoch, .waiting n⟩ })
    ∨ h.resolver.slot.cached = none ∧ h.resolver.slot.joinable = none
      ∧ h.step .enter
        = { h with
            resolver := h.resolver.launch
            calls := h.calls.push ⟨h.resolver.slot.epoch, .waiting h.resolver.probes.size⟩ }
  := by
  rcases h.resolver.enter_cases with ⟨d, hc, he⟩ | ⟨n, hc, hn, he⟩ | ⟨hc, hj, he⟩
  · left
    refine ⟨d, hc, ?_⟩
    rw [step, visit, he]
  · right; left
    refine ⟨n, hc, hn, ?_⟩
    rw [step, visit, he]
  · right; right
    refine ⟨hc, hj, ?_⟩
    rw [step, visit, he]

/-- A probe that goes on leaves the slot as it is but for the key and the flag. -/
theorem slot_step_advance (h : History) (probe : Nat) (answer : (q : Question) → q.Answer) :
  ∃ lastKey errorShown, (h.step (.advance probe answer)).resolver.slot
    = { h.resolver.slot with lastKey := lastKey, errorShown := errorShown }
  := h.resolver.slot_advance probe answer

@[simp]
theorem epoch?_step_advance (h : History) (probe n : Nat)
    (answer : (q : Question) → q.Answer) :
  (h.step (.advance probe answer)).resolver.epoch? n = h.resolver.epoch? n
  := h.resolver.epoch?_advance probe n answer

/-- A call that leaves has its result from the probe that it waited for; all other calls stay
where they are. -/
theorem leave_cases (h : History) (call : Nat) :
  (h.step (.leave call) = h ∧ ∀ {epoch probe}, h.calls[call]? = some ⟨epoch, .waiting probe⟩ →
      h.resolver.result? probe = none)
    ∨ ∃ epoch probe result, h.calls[call]? = some ⟨epoch, .waiting probe⟩
      ∧ h.resolver.result? probe = some result
      ∧ h.step (.leave call)
        = { h with
            resolver := h.resolver.leave epoch result
            calls := h.calls.setIfInBounds call ⟨epoch, .returned result⟩ }
  := by
  unfold step
  dsimp only
  split
  · next epoch probe hc =>
    split
    · next result hr => exact .inr ⟨epoch, probe, result, hc, hr, rfl⟩
    · next hr =>
      left
      constructor
      · rfl
      · intro epoch' probe' hc'
        cases hc.symm.trans hc'
        apply hr
  · next hc =>
    left
    constructor
    · rfl
    · intro epoch probe hc'
      exact absurd hc' (hc epoch probe)

@[simp]
theorem epoch?_step_leave (h : History) (call n : Nat) :
  (h.step (.leave call)).resolver.epoch? n = h.resolver.epoch? n
  := by
  rcases h.leave_cases call with ⟨hs, -⟩ | ⟨epoch, probe, result, -, -, hs⟩
  · rw [hs]
  · rw [hs, epoch?_leave]

@[simp]
theorem result?_step_leave (h : History) (call n : Nat) :
  (h.step (.leave call)).resolver.result? n = h.resolver.result? n
  := by
  rcases h.leave_cases call with ⟨hs, -⟩ | ⟨epoch, probe, result, -, -, hs⟩
  · rw [hs]
  · rw [hs, result?_leave]

/-- A key that is not new changes nothing; a new one opens an epoch. -/
theorem invalidate_cases (h : History) (key : String) :
  h.resolver.slot.lastKey = some key ∧ h.step (.invalidate key) = h
    ∨ h.resolver.slot.lastKey ≠ some key
      ∧ h.step (.invalidate key) = { h with resolver := h.resolver.renew key }
  := by
  rcases h.resolver.invalidate_cases key with ⟨hkey, hi⟩ | ⟨hkey, hi⟩
  · left
    constructor
    · apply hkey
    · rw [step, hi]
  · right
    constructor
    · apply hkey
    · rw [step, hi]

/-- No step loses a probe. -/
theorem keeps_step (h : History) (s : Step) :
  h.resolver.Keeps (h.step s).resolver
  := by
  cases s with
  | enter => apply keeps_enter
  | advance probe answer => apply keeps_advance
  | leave call =>
    rcases h.leave_cases call with ⟨hs, -⟩ | ⟨epoch, probe, result, -, -, hs⟩
    · rw [hs]
      apply Keeps.refl
    · rw [hs]
      apply Keeps.of_probes_eq
      rfl
  | look => apply Keeps.refl
  | invalidate key =>
    rcases h.invalidate_cases key with ⟨-, hs⟩ | ⟨-, hs⟩
    · rw [hs]
      apply Keeps.refl
    · rw [hs]
      apply Keeps.of_probes_eq
      rfl

/-- A call that has returned stays as it is. -/
theorem returned_step {h : History} {n epoch : Nat} {result : Option Descriptor}
    (hn : h.calls[n]? = some ⟨epoch, .returned result⟩) (s : Step) :
  (h.step s).calls[n]? = some ⟨epoch, .returned result⟩
  := by
  cases s with
  | enter =>
    rw [step, Array.getElem?_push, if_neg]
    · exact hn
    · exact Nat.ne_of_lt (Array.getElem?_eq_some_iff.mp hn).1
  | advance probe answer => exact hn
  | leave call =>
    rcases h.leave_cases call with ⟨hs, -⟩ | ⟨epoch', probe, result', hv, -, hs⟩
    · rwa [hs]
    · have hne : call ≠ n := by
        rintro rfl
        cases hn.symm.trans hv
      rw [hs, Array.getElem?_setIfInBounds_ne hne]
      exact hn
  | look => exact hn
  | invalidate key => exact hn

/-- A step opens an epoch and announces it, or leaves the epoch and the announcements as they
are. -/
theorem opens_or_stays (h : History) (s : Step) :
  (∃ key, s = .invalidate key ∧ h.resolver.slot.lastKey ≠ some key
      ∧ h.step s = { h with resolver := h.resolver.renew key })
    ∨ (h.step s).resolver.slot.epoch = h.resolver.slot.epoch
      ∧ (h.step s).resolver.announced = h.resolver.announced
  := by
  cases s with
  | enter =>
    right
    rcases h.enter_cases with ⟨d, -, hs⟩ | ⟨n, -, -, hs⟩ | ⟨-, -, hs⟩
    · simp [hs]
    · simp [hs]
    · simp [hs, launch]
  | advance probe answer =>
    right
    obtain ⟨lastKey, errorShown, hslot⟩ := h.slot_step_advance probe answer
    constructor
    · rw [hslot]
    · rcases h.resolver.advance_cases probe answer with hs | ⟨-, slot, stage, message, hs, -⟩
      · simp [step, hs]
      · simp [step, hs, setStage]
  | leave call =>
    right
    rcases h.leave_cases call with ⟨hs, -⟩ | ⟨epoch, probe, result, -, -, hs⟩
    · simp [hs]
    · simp [hs, leave]
  | look => exact .inr ⟨rfl, rfl⟩
  | invalidate key =>
    rcases h.invalidate_cases key with ⟨-, hs⟩ | ⟨hkey, hs⟩
    · right
      simp [hs]
    · exact .inl ⟨key, rfl, hkey, hs⟩

end History

end Resolver

end MojoToolchain
