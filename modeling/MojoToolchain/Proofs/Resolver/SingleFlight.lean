import MojoToolchain.Proofs.Resolver.Epochs

/-!
# Single flight

The calls of an epoch are meant to share one probe.  They do as long as no call displaces the
probe in flight (`History.Displaces`): a call that has waited for a probe takes away whatever is
in flight when it leaves, and that may be another probe, which was started since.  A probe that
is displaced before it is done is joined by no call from then on, and the next call starts
another one beside it.
-/

namespace MojoToolchain

/-- The probe from which a call that has entered has its answer or will have it. -/
def Entry.probe : Entry → Nat
  | .answered d => d.number
  | .waiting _ n => n

namespace Resolver

/-- A probe of an epoch that is not done. -/
def Pending (r : Resolver) (n epoch : Nat) : Prop :=
  r.epoch? n = some epoch ∧ r.result? n = none

/-- A probe of an epoch that has not failed: it is not done, or has found an SDK. -/
def Unfailed (r : Resolver) (n epoch : Nat) : Prop :=
  r.epoch? n = some epoch ∧ r.result? n ≠ some none

theorem Pending.unfailed {r : Resolver} {n epoch : Nat} (hn : r.Pending n epoch) :
  r.Unfailed n epoch
  := by
  constructor
  · apply hn.1
  · rw [hn.2]
    simp

theorem Found.unfailed {r : Resolver} {d : Descriptor} {epoch : Nat} (hd : r.Found d epoch) :
  r.Unfailed d.number epoch
  := by
  constructor
  · apply hd.2
  · rw [hd.1]
    simp

theorem Found.eq_of_number_eq {r : Resolver} {d d' : Descriptor} {epoch epoch' : Nat}
    (hd : r.Found d epoch) (hd' : r.Found d' epoch') (h : d.number = d'.number) :
  d = d'
  := by
  have hresult := hd.1
  rw [h, hd'.1] at hresult
  apply (Option.some.inj (Option.some.inj hresult)).symm

/-- A probe that is not done was not done before. -/
theorem Keeps.pending {r r' : Resolver} (hkeeps : r.Keeps r') {n epoch : Nat}
    (he : r.epoch? n = some epoch) (hn : r'.result? n = none) :
  r.Pending n epoch
  := by
  constructor
  · apply he
  · cases hr : r.result? n with
    | none => rfl
    | some result =>
      rw [hkeeps.result? hr] at hn
      cases hn

/-- A probe that has not failed had not failed before. -/
theorem Keeps.unfailed {r r' : Resolver} (hkeeps : r.Keeps r') {n epoch : Nat}
    (he : r.epoch? n = some epoch) (hn : r'.result? n ≠ some none) :
  r.Unfailed n epoch
  := ⟨he, fun hr => hn (hkeeps.result? hr)⟩

/-- A call that enters waits for a probe that exists exactly when this is in flight. -/
theorem enter_eq_waiting_iff {r : Resolver} (hi : r.Isolated) {n : Nat} (hn : n < r.probes.size) :
  r.enter.1 = .waiting r.slot.epoch n ↔ r.slot.inFlight = some (r.slot.epoch, n)
  := by
  rcases r.enter_cases with ⟨d, hc, he⟩ | ⟨m, -, hm, he⟩ | ⟨-, hj, he⟩
  · have hnot : r.slot.inFlight ≠ some (r.slot.epoch, n) := by
      intro hflight
      cases hc.symm.trans (hi.cached_eq_none hflight)
    simp [he, hnot]
  · simp [he, hm]
  · rw [← Slot.joinable_eq_some_iff, hj, he]
    simp [Nat.ne_of_gt hn]

namespace History

/-- A call can leave that has waited for another probe of the epoch than the one in flight, and
the one in flight has not failed. -/
def Displaces (h : History) (call n : Nat) : Prop :=
  h.resolver.slot.inFlight = some (h.resolver.slot.epoch, n) ∧ h.resolver.result? n ≠ some none
    ∧ ∃ m result, m ≠ n ∧ h.calls[call]? = some ⟨h.resolver.slot.epoch, .waiting m⟩
      ∧ h.resolver.result? m = some result

/-- A call has displaced a probe when it left. -/
def Displaced (steps : List Step) (n : Nat) : Prop :=
  ∃ earlier call, earlier ++ [.leave call] <+: steps ∧ (after earlier).Displaces call n

theorem displaced_concat {steps : List Step} {s : Step} {n : Nat} :
  Displaced (steps ++ [s]) n
    ↔ Displaced steps n ∨ ∃ call, s = .leave call ∧ (after steps).Displaces call n
  := by
  constructor
  · rintro ⟨earlier, call, hpart, h⟩
    rcases List.prefix_concat_iff.mp hpart with heq | hpart
    · obtain ⟨rfl, hs⟩ := List.append_inj' heq rfl
      obtain rfl := List.singleton_inj.mp hs
      exact .inr ⟨call, rfl, h⟩
    · exact .inl ⟨earlier, call, hpart, h⟩
  · rintro (⟨earlier, call, hpart, h⟩ | ⟨call, rfl, h⟩)
    · exact ⟨earlier, call, hpart.trans (List.prefix_append ..), h⟩
    · exact ⟨steps, call, List.prefix_rfl, h⟩

theorem Displaced.mono {earlier steps : List Step} (hpart : earlier <+: steps) {n : Nat}
    (h : Displaced earlier n) :
  Displaced steps n
  := by
  obtain ⟨start, call, hstart, hd⟩ := h
  exact ⟨start, call, hstart.trans hpart, hd⟩

/-! ### The probe in flight -/

/-- A call that leaves takes away a probe that is not done exactly when it displaces it. -/
theorem inFlight_step_leave {h : History} (hi : h.Isolated) {call n : Nat}
    (hn : h.resolver.result? n = none) :
  (h.step (.leave call)).resolver.slot.inFlight = some (h.resolver.slot.epoch, n)
    ↔ h.resolver.slot.inFlight = some (h.resolver.slot.epoch, n) ∧ ¬ h.Displaces call n
  := by
  rcases h.leave_cases call with ⟨hs, hwaits⟩ | ⟨epoch, m, result, hv, hm, hs⟩
  · have hnot : ¬ h.Displaces call n := by
      rintro ⟨-, -, m, result, -, hv, hm⟩
      cases (hwaits hv).symm.trans hm
    simp [hs, hnot]
  · rw [hs]
    by_cases hepoch : epoch = h.resolver.slot.epoch
    · subst hepoch
      have hdisplaces : h.resolver.slot.inFlight = some (h.resolver.slot.epoch, n) →
          h.Displaces call n := by
        intro hflight
        refine ⟨hflight, ?_, m, result, ?_, hv, hm⟩
        · simp [hn]
        · rintro rfl
          cases hn.symm.trans hm
      dsimp only
      rw [hi.resolver.slot_leave]
      simpa using hdisplaces
    · have hnot : ¬ h.Displaces call n := by
        rintro ⟨-, -, m', result', -, hv', -⟩
        cases hv.symm.trans hv'
        apply hepoch rfl
      simp [leave_of_ne hepoch, hnot]

/-- A probe of the current epoch that is not done after a step is new, and then it is in flight,
or it was not done before, and then it is in flight exactly when it was and is not displaced. -/
theorem inFlight_step {h : History} (hi : h.Isolated) {s : Step} {n : Nat}
    (hn : (h.step s).resolver.Pending n (h.step s).resolver.slot.epoch) :
  n = h.resolver.probes.size
      ∧ (h.step s).resolver.slot.inFlight = some ((h.step s).resolver.slot.epoch, n)
    ∨ h.resolver.Pending n h.resolver.slot.epoch
      ∧ ((h.step s).resolver.slot.inFlight = some ((h.step s).resolver.slot.epoch, n)
        ↔ h.resolver.slot.inFlight = some (h.resolver.slot.epoch, n)
          ∧ ¬ ∃ call, s = .leave call ∧ h.Displaces call n)
  := by
  have hkeeps := h.keeps_step s
  obtain ⟨he, hresult⟩ := hn
  cases s with
  | enter =>
    rcases h.enter_cases with ⟨d, -, hs⟩ | ⟨m, -, -, hs⟩ | ⟨-, hj, hs⟩
    · rw [hs] at he hresult ⊢
      exact .inr ⟨⟨he, hresult⟩, by simp⟩
    · rw [hs] at he hresult ⊢
      exact .inr ⟨⟨he, hresult⟩, by simp⟩
    · rw [hs] at he hresult hkeeps ⊢
      rcases epoch?_launch_cases he with ⟨rfl, -⟩ | hold
      · exact .inl ⟨rfl, rfl⟩
      · right
        constructor
        · apply hkeeps.pending hold hresult
        · have hne := Nat.ne_of_gt (lt_size_of_epoch? hold)
          have hnot : h.resolver.slot.inFlight ≠ some (h.resolver.slot.epoch, n) := by
            rw [ne_eq, ← Slot.joinable_eq_some_iff, hj]
            simp
          simp [hnot, hne]
  | advance probe answer =>
    right
    obtain ⟨lastKey, errorShown, hslot⟩ := h.slot_step_advance probe answer
    rw [epoch?_step_advance, hslot] at he
    rw [hslot]
    constructor
    · apply hkeeps.pending he hresult
    · simp
  | leave call =>
    right
    rw [epoch?_step_leave, epoch_step] at he
    rw [result?_step_leave] at hresult
    rw [epoch_step]
    constructor
    · use he, hresult
    · simpa using inFlight_step_leave hi hresult
  | look => exact .inr ⟨⟨he, hresult⟩, by simp [step]⟩
  | invalidate key =>
    right
    rcases h.invalidate_cases key with ⟨-, hs⟩ | ⟨-, hs⟩
    · rw [hs] at he hresult ⊢
      exact ⟨⟨he, hresult⟩, by simp⟩
    · rw [hs] at he
      exact absurd (hi.resolver.probe he) (Nat.not_succ_le_self _)

/-- Only a probe that was started is displaced. -/
theorem lt_size_of_displaced {steps : List Step} {n : Nat} (h : Displaced steps n) :
  n < (after steps).resolver.probes.size
  := by
  obtain ⟨earlier, call, ⟨later, rfl⟩, hd⟩ := h
  have hlt := lt_size_of_epoch? ((isolated_after earlier).resolver.inFlight hd.1).2
  have hle := (goesOn_after earlier ([.leave call] ++ later)).keeps.size_le
  rw [← List.append_assoc] at hle
  apply Nat.lt_of_lt_of_le hlt hle

/-- A probe of the current epoch that is not done is in flight exactly when it was never
displaced. -/
theorem inFlight_iff_not_displaced {steps : List Step} {n : Nat}
    (hn : (after steps).resolver.Pending n (after steps).resolver.slot.epoch) :
  (after steps).resolver.slot.inFlight = some ((after steps).resolver.slot.epoch, n)
    ↔ ¬ Displaced steps n
  := by
  induction steps using List.reverseRecOn with
  | nil => cases hn.1
  | append_singleton steps s ih =>
    have hi := isolated_after steps
    rw [after_concat] at hn ⊢
    rcases inFlight_step hi hn with ⟨hsize, hflight⟩ | ⟨hn', hstep⟩
    · constructor
      · intro _ hd
        rw [displaced_concat] at hd
        rcases hd with hd | ⟨call, -, hd⟩
        · have hlt := lt_size_of_displaced hd
          omega
        · have hlt := lt_size_of_epoch? (hi.resolver.inFlight hd.1).2
          omega
      · intro _
        apply hflight
    · rw [hstep, ih hn', displaced_concat, not_or]

/-! ### Histories in which no probe is displaced -/

/-- The calls of each epoch share a probe: of each epoch at most one probe has not failed; one of
the current epoch is in flight or has found the cached descriptor; and a descriptor that was
returned in the current epoch is the cached one. -/
structure Shared (h : History) : Prop where
  unique : ∀ {n m epoch}, h.resolver.Unfailed n epoch → h.resolver.Unfailed m epoch → n = m
  served : ∀ {n}, h.resolver.Unfailed n h.resolver.slot.epoch →
    h.resolver.slot.inFlight = some (h.resolver.slot.epoch, n)
      ∨ ∃ d, h.resolver.slot.cached = some d ∧ d.number = n
  returned : ∀ {call : Nat} {d : Descriptor},
    h.calls[call]? = some ⟨h.resolver.slot.epoch, .returned (some d)⟩ →
    h.resolver.slot.cached = some d

namespace Shared

theorem fresh :
  History.fresh.Shared
  := by
  constructor
  · intro n m epoch hn
    cases hn.1
  · intro n hn
    cases hn.1
  · intro call d hd
    simp [History.fresh] at hd

/-- A call that finds the cached descriptor, or waits, is added. -/
theorem push {h : History} (hs : h.Shared) {v : Visit}
    (hv : ∀ {d}, v.progress = .returned (some d) → h.resolver.slot.cached = some d) :
  Shared { h with calls := h.calls.push v }
  := by
  constructor
  · exact hs.unique
  · exact hs.served
  · intro call d hd
    dsimp only at hd ⊢
    rw [Array.getElem?_push] at hd
    split at hd
    · apply hv
      rw [Option.some.inj hd]
    · apply hs.returned hd

/-- Nothing that has not failed is left when a probe is started. -/
theorem not_unfailed {h : History} (hs : h.Shared) (hc : h.resolver.slot.cached = none)
    (hj : h.resolver.slot.joinable = none) {n : Nat} :
  ¬ h.resolver.Unfailed n h.resolver.slot.epoch
  := by
  intro hn
  rcases hs.served hn with hflight | ⟨d, hd, -⟩
  · rw [← Slot.joinable_eq_some_iff, hj] at hflight
    cases hflight
  · rw [hc] at hd
    cases hd

theorem unfailed_launch {r : Resolver} {n epoch : Nat} (hn : r.launch.Unfailed n epoch) :
  n = r.probes.size ∧ epoch = r.slot.epoch ∨ r.Unfailed n epoch
  := by
  rcases epoch?_launch_cases hn.1 with hnew | hold
  · exact .inl hnew
  · exact .inr ((keeps_launch r).unfailed hold hn.2)

theorem launch {h : History} (hs : h.Shared) (hc : h.resolver.slot.cached = none)
    (hj : h.resolver.slot.joinable = none) {v : Visit}
    (hv : ∀ result, v.progress ≠ .returned result) :
  Shared { h with resolver := h.resolver.launch, calls := h.calls.push v }
  := by
  have hnone {n : Nat} := hs.not_unfailed hc hj (n := n)
  constructor
  · intro n m epoch hn hm
    rcases unfailed_launch hn with ⟨rfl, rfl⟩ | hn
    · rcases unfailed_launch hm with ⟨rfl, -⟩ | hm
      · rfl
      · exact absurd hm hnone
    · rcases unfailed_launch hm with ⟨rfl, rfl⟩ | hm
      · exact absurd hn hnone
      · apply hs.unique hn hm
  · intro n hn
    rcases unfailed_launch hn with ⟨rfl, -⟩ | hn
    · exact .inl rfl
    · exact absurd hn hnone
  · intro call d hd
    dsimp only at hd ⊢
    rw [Array.getElem?_push] at hd
    split at hd
    · exact absurd (congrArg Visit.progress (Option.some.inj hd)) (hv _)
    · apply hs.returned hd

/-- A step that adds no probe and no call, and leaves the slot as it is but for the key and the
flag. -/
theorem of_keeps {h h' : History} (hs : h.Shared) (hkeeps : h.resolver.Keeps h'.resolver)
    (hepoch : ∀ n, h'.resolver.epoch? n = h.resolver.epoch? n)
    (hslot : ∃ lastKey errorShown, h'.resolver.slot
      = { h.resolver.slot with lastKey := lastKey, errorShown := errorShown })
    (hcalls : h'.calls = h.calls) :
  h'.Shared
  := by
  obtain ⟨lastKey, errorShown, hslot⟩ := hslot
  have hunfailed {n epoch : Nat} (hn : h'.resolver.Unfailed n epoch) :
      h.resolver.Unfailed n epoch :=
    hkeeps.unfailed ((hepoch n).symm.trans hn.1) hn.2
  constructor
  · intro n m epoch hn hm
    apply hs.unique (hunfailed hn) (hunfailed hm)
  · intro n hn
    rw [hslot] at hn ⊢
    apply hs.served (hunfailed hn)
  · intro call d hd
    rw [hslot, hcalls] at *
    apply hs.returned hd

/-- A call that displaces nothing leaves. -/
theorem leave {h : History} (hs : h.Shared) (hi : h.Isolated) {call : Nat}
    (hnot : ∀ n, ¬ h.Displaces call n) {m : Nat} {result : Option Descriptor}
    (hv : h.calls[call]? = some ⟨h.resolver.slot.epoch, .waiting m⟩)
    (hm : h.resolver.result? m = some result) :
  Shared
    { h with
      resolver := h.resolver.leave h.resolver.slot.epoch result
      calls := h.calls.setIfInBounds call ⟨h.resolver.slot.epoch, .returned result⟩ }
  := by
  have hslot := hi.resolver.slot_leave result
  constructor
  · exact hs.unique
  · intro n hn
    dsimp only at hn ⊢
    rw [hslot] at hn ⊢
    right
    rcases hs.served hn with hflight | ⟨d, hd, hnumber⟩
    · have hsame : m = n := by
        by_contra hne
        apply hnot n ⟨hflight, hn.2, m, result, hne, hv, hm⟩
      subst hsame
      cases result with
      | none => exact absurd hm hn.2
      | some d =>
        refine ⟨d, ?_, number_of_result? hm⟩
        rw [hi.resolver.cached_eq_none hflight]
        rfl
    · refine ⟨d, ?_, hnumber⟩
      rw [hd]
      rfl
  · intro call' d hd
    dsimp only at hd ⊢
    rw [hslot] at hd ⊢
    rw [Array.getElem?_setIfInBounds] at hd
    split at hd
    · rw [if_pos (Array.getElem?_eq_some_iff.mp hv).1] at hd
      cases hd
      have hfound : h.resolver.Found d h.resolver.slot.epoch :=
        found_of_result? (hi.calls _ (Array.mem_of_getElem? hv)) hm
      rcases hs.served hfound.unfailed with hflight | ⟨d', hd', hnumber⟩
      · rw [hi.resolver.cached_eq_none hflight]
        rfl
      · rw [hd', (hi.resolver.cached hd').eq_of_number_eq hfound hnumber]
        rfl
    · rw [hs.returned hd]
      rfl

/-- A step that displaces nothing. -/
theorem step {h : History} (hs : h.Shared) (hi : h.Isolated) {s : Step}
    (hnot : ∀ call n, s = .leave call → ¬ h.Displaces call n) :
  (h.step s).Shared
  := by
  have hkeeps := h.keeps_step s
  cases s with
  | enter =>
    rcases h.enter_cases with ⟨d, hc, he⟩ | ⟨n, -, -, he⟩ | ⟨hc, hj, he⟩
    · rw [he]
      apply hs.push
      rintro d' ⟨⟩
      apply hc
    · rw [he]
      apply hs.push
      rintro d ⟨⟩
    · rw [he]
      apply hs.launch hc hj
      rintro result ⟨⟩
  | advance probe answer =>
    apply hs.of_keeps hkeeps (h.epoch?_step_advance probe · answer)
      (h.slot_step_advance probe answer) rfl
  | leave call =>
    rcases h.leave_cases call with ⟨he, -⟩ | ⟨epoch, m, result, hv, hm, he⟩
    · rwa [he]
    · rw [he]
      by_cases hepoch : epoch = h.resolver.slot.epoch
      · subst hepoch
        apply hs.leave hi (fun n => hnot call n rfl) hv hm
      · rw [leave_of_ne hepoch]
        constructor
        · exact hs.unique
        · exact hs.served
        · intro call' d hd
          dsimp only at hd
          rw [Array.getElem?_setIfInBounds] at hd
          split at hd
          · rw [if_pos (Array.getElem?_eq_some_iff.mp hv).1] at hd
            cases hd
            exact absurd rfl hepoch
          · apply hs.returned hd
  | look => apply hs
  | invalidate key =>
    rcases h.invalidate_cases key with ⟨-, he⟩ | ⟨-, he⟩
    · rwa [he]
    · rw [he]
      constructor
      · exact hs.unique
      · intro n hn
        exact absurd (hi.resolver.probe hn.1) (Nat.not_succ_le_self _)
      · intro call d hd
        obtain ⟨n, hn, -⟩ := hi.calls _ (Array.mem_of_getElem? hd)
        exact absurd (hi.resolver.probe hn) (Nat.not_succ_le_self _)

end Shared

/-- The calls share a probe as long as none is displaced. -/
theorem shared_after {steps : List Step} (hnot : ∀ n, ¬ Displaced steps n) :
  (after steps).Shared
  := by
  induction steps using List.reverseRecOn with
  | nil => exact .fresh
  | append_singleton steps s ih =>
    simp only [displaced_concat, not_or, not_exists, not_and] at hnot
    rw [after_concat]
    apply (ih fun n => (hnot n).1).step (isolated_after steps)
    intro call n hs
    apply (hnot n).2 call hs

/-- A call that enters is served by the probe that has not failed. -/
theorem Shared.probe_enter {h : History} (hs : h.Shared) (hi : h.Isolated) {n : Nat}
    (hn : h.resolver.Unfailed n h.resolver.slot.epoch) :
  h.resolver.enter.1.probe = n
  := by
  rcases hs.served hn with hflight | ⟨d, hd, hnumber⟩
  · have henter := (enter_eq_waiting_iff hi.resolver (lt_size_of_epoch? hn.1)).mpr hflight
    rw [henter]
    rfl
  · rw [enter_of_cached hd]
    apply hnumber

/-- A probe that is displaced has not failed, but the next call is served by another one. -/
theorem probe_enter_of_displaces {h : History} (hi : h.Isolated) {call n : Nat}
    (hd : h.Displaces call n) :
  (h.step (.leave call)).resolver.Unfailed n (h.step (.leave call)).resolver.slot.epoch
    ∧ (h.step (.leave call)).resolver.enter.1.probe ≠ n
  := by
  obtain ⟨hflight, hfailed, m, result, hne, hv, hm⟩ := hd
  have hepoch := (hi.resolver.inFlight hflight).2
  have hc := hi.resolver.cached_eq_none hflight
  have hslot := hi.resolver.slot_leave result
  rcases h.leave_cases call with ⟨-, hwaits⟩ | ⟨_, _, _, hv', hm', hs⟩
  · cases (hwaits hv).symm.trans hm
  · cases hv.symm.trans hv'
    cases hm.symm.trans hm'
    rw [hs]
    dsimp only
    constructor
    · rw [hslot]
      use hepoch, hfailed
    · have hcached : (h.resolver.leave h.resolver.slot.epoch result).slot.cached = result := by
        rw [hslot, hc]
        rfl
      cases result with
      | none =>
        rcases (h.resolver.leave h.resolver.slot.epoch none).enter_cases with
          ⟨d, hd, -⟩ | ⟨k, -, hk, -⟩ | ⟨-, -, he⟩
        · cases hcached.symm.trans hd
        · rw [hslot] at hk
          cases hk
        · rw [he]
          apply Nat.ne_of_gt (lt_size_of_epoch? hepoch)
      | some d =>
        rw [enter_of_cached hcached]
        intro hsame
        apply hne ((number_of_result? hm).symm.trans hsame)

/-- A probe of the current epoch that is not done is joined by the next call exactly when it was
never displaced.  In a history, every call is served by the probe of its epoch that has not
failed, if there is one, exactly when no probe is displaced.  If none is, then at most one probe
of the current epoch is not done, and all calls of an epoch that return a descriptor return the
same one, which in the current epoch is the cached one. -/
theorem single_flight (steps : List Step) :
  (∀ n, (after steps).resolver.Pending n (after steps).resolver.slot.epoch →
      ((after steps).resolver.enter.1 = .waiting (after steps).resolver.slot.epoch n
        ↔ ¬ Displaced steps n))
    ∧ ((∀ earlier n, earlier <+: steps →
        (after earlier).resolver.Unfailed n (after earlier).resolver.slot.epoch →
        (after earlier).resolver.enter.1.probe = n)
      ↔ ∀ n, ¬ Displaced steps n)
    ∧ ((∀ n, ¬ Displaced steps n) →
      (∀ n m, (after steps).resolver.Pending n (after steps).resolver.slot.epoch →
          (after steps).resolver.Pending m (after steps).resolver.slot.epoch → n = m)
        ∧ (∀ (call call' epoch : Nat) (d d' : Descriptor),
          (after steps).calls[call]? = some ⟨epoch, .returned (some d)⟩ →
          (after steps).calls[call']? = some ⟨epoch, .returned (some d')⟩ → d = d')
        ∧ ∀ (call : Nat) (d : Descriptor),
          (after steps).calls[call]?
            = some ⟨(after steps).resolver.slot.epoch, .returned (some d)⟩ →
          (after steps).resolver.slot.cached = some d)
  := by
  have hi := isolated_after steps
  refine ⟨?_, ?_, ?_⟩
  · intro n hn
    rw [enter_eq_waiting_iff hi.resolver (lt_size_of_epoch? hn.1)]
    apply inFlight_iff_not_displaced hn
  · constructor
    · rintro hserved n ⟨earlier, call, hpart, hd⟩
      obtain ⟨hn, hne⟩ := probe_enter_of_displaces (isolated_after earlier) hd
      rw [← after_concat] at hn hne
      apply hne (hserved _ n hpart hn)
    · intro hnot earlier n hpart hn
      have hs : (after earlier).Shared := shared_after fun n hd => hnot n (hd.mono hpart)
      apply hs.probe_enter (isolated_after earlier) hn
  · intro hnot
    have hs := shared_after hnot
    refine ⟨?_, ?_, ?_⟩
    · intro n m hn hm
      apply hs.unique hn.unfailed hm.unfailed
    · intro call call' epoch d d' hv hv'
      have hd := hi.found_of_returned hv
      have hd' := hi.found_of_returned hv'
      apply hd.eq_of_number_eq hd' (hs.unique hd.unfailed hd'.unfailed)
    · intro call d hv
      apply hs.returned hv

/-- Two calls share a probe that finds an SDK. -/
def together : List Step := [.enter, .enter] ++ search 0 ++ [.leave 0, .leave 1]

/-- Both calls that share a probe return the same descriptor, which is cached. -/
theorem single_flight_together :
  (∀ n, ¬ Displaced together n)
    ∧ ∃ d, (after together).calls[0]? = some ⟨0, .returned (some d)⟩
      ∧ (after together).calls[1]? = some ⟨0, .returned (some d)⟩
      ∧ (after together).resolver.slot.cached = some d
  := by
  have hnot : ∀ n, ¬ Displaced together n := by
    intro n hd
    have hsplit : together = [.enter, .enter] ++ search 0 ++ [.leave 0] ++ [.leave 1] := by
      simp [together]
    rw [hsplit, displaced_concat, displaced_concat] at hd
    rcases hd with (⟨earlier, call, hpart, -⟩ | ⟨call, hs, hd⟩) | ⟨call, hs, hd⟩
    · have hmem := hpart.subset (List.mem_append_right earlier (List.mem_singleton_self _))
      simp [search] at hmem
    · cases hs
      obtain ⟨hflight, -, m, result, hne, hv, -⟩ := hd
      have hzero : (after ([.enter, .enter] ++ search 0)).resolver.slot.inFlight = some (0, 0) := by
        decide +kernel
      have hwait : (after ([.enter, .enter] ++ search 0)).calls[0]?
          = some ⟨0, .waiting 0⟩ := by
        decide +kernel
      have hn := (Prod.mk.inj (Option.some.inj (hzero.symm.trans hflight))).2
      have hm := (Visit.mk.inj (Option.some.inj (hwait.symm.trans hv))).2
      apply hne ((Progress.waiting.inj hm).symm.trans hn)
    · have hnone : (after ([.enter, .enter] ++ search 0 ++ [.leave 0])).resolver.slot.inFlight
          = none := by
        decide +kernel
      cases hnone.symm.trans hd.1
  have hepoch : (after together).resolver.slot.epoch = 0 := by
    decide +kernel
  obtain ⟨-, -, hshared⟩ := single_flight together
  obtain ⟨-, hsame, hcached⟩ := hshared hnot
  have hfirst : ∃ d, (after together).calls[0]? = some ⟨0, .returned (some d)⟩ := by
    exact ⟨⟨0, Sdk.packaged ⟨"/env"⟩ "linux"⟩, by decide +kernel⟩
  have hsecond : ∃ d, (after together).calls[1]? = some ⟨0, .returned (some d)⟩ := by
    exact ⟨⟨0, Sdk.packaged ⟨"/env"⟩ "linux"⟩, by decide +kernel⟩
  obtain ⟨d, hd⟩ := hfirst
  obtain ⟨d', hd'⟩ := hsecond
  obtain rfl := hsame 0 1 0 d d' hd hd'
  refine ⟨hnot, d, hd, hd', hcached 0 d ?_⟩
  rw [hepoch]
  apply hd

/-- Two calls wait for a probe that fails.  One of them leaves, a third call starts another
probe, the second call leaves, and a fourth call enters. -/
def crowded : List Step :=
  [.enter, .enter] ++ vainSearch 0 ++ [.leave 0, .enter, .leave 1, .enter]

/-- The environment stays the same, and yet there are two probes of the current epoch that are
not done, and in the end two calls return what each of them has found. -/
theorem two_flights :
  (∀ s ∈ crowded, ∀ key, s ≠ .invalidate key)
    ∧ (after crowded).resolver.Pending 1 (after crowded).resolver.slot.epoch
    ∧ (after crowded).resolver.Pending 2 (after crowded).resolver.slot.epoch
    ∧ ∃ d d', d ≠ d'
      ∧ (after (crowded ++ (search 1 ++ search 2) ++ [.leave 2, .leave 3])).calls[2]?
        = some ⟨0, .returned (some d)⟩
      ∧ (after (crowded ++ (search 1 ++ search 2) ++ [.leave 2, .leave 3])).calls[3]?
        = some ⟨0, .returned (some d')⟩
  := by
  have hpending : (after crowded).resolver.epoch? 1 = some (after crowded).resolver.slot.epoch
      ∧ (after crowded).resolver.result? 1 = none := by
    decide +kernel
  have hpending' : (after crowded).resolver.epoch? 2 = some (after crowded).resolver.slot.epoch
      ∧ (after crowded).resolver.result? 2 = none := by
    decide +kernel
  refine ⟨?_, hpending, hpending', ⟨1, Sdk.packaged ⟨"/env"⟩ "linux"⟩,
    ⟨2, Sdk.packaged ⟨"/env"⟩ "linux"⟩, ?_, ?_, ?_⟩
  · simp [crowded, vainSearch]
  · decide
  · decide +kernel
  · decide +kernel

end History

end Resolver

end MojoToolchain
