import MojoToolchain.Proofs.Resolver.Environments

/-!
# Cached descriptors

A descriptor that is cached stays until its epoch ends, whoever else leaves with another one.  A
call that enters meanwhile has it at once and for good: it starts no probe and waits for none, and
only probes ask the host (`History.Asks`).
-/

namespace MojoToolchain

/-- A cached descriptor is not replaced by the result of a call. -/
theorem Slot.cached_leave_of_some {s : Slot} {d : Descriptor} (hd : s.cached = some d) (epoch : Nat)
    (result : Option Descriptor) :
  (s.leave epoch result).cached = some d
  := by
  unfold leave
  split
  · simp [hd]
  · exact hd

namespace Resolver.History

open Host (Question)

/-! ### The cache -/

/-- A cached descriptor stays until the epoch ends. -/
theorem cached_step {h : History} {s : Step} {d : Descriptor}
    (hd : h.resolver.slot.cached = some d)
    (hepoch : (h.step s).resolver.slot.epoch = h.resolver.slot.epoch) :
  (h.step s).resolver.slot.cached = some d
  := by
  cases s with
  | enter => rwa [step, enter_of_cached hd]
  | advance n answer =>
    obtain ⟨lastKey, errorShown, hslot⟩ := h.slot_step_advance n answer
    rwa [hslot]
  | leave call =>
    rcases h.leave_cases call with ⟨hs, -⟩ | ⟨epoch, n, result, -, -, hs⟩
    · rwa [hs]
    · rw [hs]
      apply Slot.cached_leave_of_some hd
  | look => exact hd
  | invalidate key =>
    rcases h.invalidate_cases key with ⟨-, hs⟩ | ⟨-, hs⟩
    · rwa [hs]
    · rw [hs] at hepoch
      exact absurd hepoch (Nat.succ_ne_self _)

/-- The epoch lasts as long as no environment with another key is announced. -/
theorem epoch_after_of_same_key {earlier later : List Step}
    (hsame : ∀ between key, between ++ [.invalidate key] <+: later →
      (after (earlier ++ between)).resolver.slot.lastKey = some key) :
  (after earlier).resolver.slot.epoch = (after (earlier ++ later)).resolver.slot.epoch
  := by
  induction later using List.reverseRecOn with
  | nil => rw [List.append_nil]
  | append_singleton later s ih =>
    have hbefore := ih fun between key hpart =>
      hsame between key (hpart.trans (List.prefix_append later [s]))
    rw [← List.append_assoc, after_concat]
    rcases (after (earlier ++ later)).opens_or_stays s with ⟨key, rfl, hkey, -⟩ | ⟨hepoch, -⟩
    · exact absurd (hsame later key List.prefix_rfl) hkey
    · rw [hepoch, hbefore]

/-- A cached descriptor stays as long as no environment with another key is announced. -/
theorem cached_after {earlier later : List Step} {d : Descriptor}
    (hd : (after earlier).resolver.slot.cached = some d)
    (hsame : ∀ between key, between ++ [.invalidate key] <+: later →
      (after (earlier ++ between)).resolver.slot.lastKey = some key) :
  (after (earlier ++ later)).resolver.slot.cached = some d
  := lasts_after (P := fun h => h.resolver.slot.cached = some d) cached_step hd later
    (epoch_after_of_same_key hsame)

/-! ### Calls -/

/-- A call that has returned stays as it is, whatever comes later. -/
theorem returned_after {earlier : List Step} {call epoch : Nat} {result : Option Descriptor}
    (hv : (after earlier).calls[call]? = some ⟨epoch, .returned result⟩) (later : List Step) :
  (after (earlier ++ later)).calls[call]? = some ⟨epoch, .returned result⟩
  := by
  induction later using List.reverseRecOn with
  | nil => rwa [List.append_nil]
  | append_singleton later s ih =>
    rw [← List.append_assoc, after_concat]
    apply returned_step ih s

/-- A call that enters while a descriptor is cached returns it, and nothing else happens. -/
theorem enter_cached {h : History} {d : Descriptor} (hd : h.resolver.slot.cached = some d) :
  h.step .enter
    = { h with calls := h.calls.push ⟨h.resolver.slot.epoch, .returned (some d)⟩ }
  := by
  rw [step, visit, enter_of_cached hd]

/-! ### Probes -/

/-- A probe asks the host a question. -/
def Asks (n : Nat) (q : Question) (h : History) (s : Step) : Prop :=
  ∃ answer epoch next, s = .advance n answer ∧ h.resolver.probes[n]? = some ⟨epoch, .ask q next⟩

/-- A call starts a probe, for which it waits. -/
def Starts (n : Nat) (h : History) : Prop :=
  h.resolver.slot.cached = none ∧ h.resolver.slot.joinable = none ∧ n = h.resolver.probes.size
    ∧ (h.step .enter).calls[h.calls.size]? = some ⟨h.resolver.slot.epoch, .waiting n⟩

/-- A probe that is there after a step was there before, or a call has started it. -/
theorem epoch?_step {h : History} {s : Step} {n epoch : Nat}
    (hn : (h.step s).resolver.epoch? n = some epoch) :
  h.resolver.epoch? n = some epoch ∨ s = .enter ∧ h.Starts n
  := by
  cases s with
  | enter =>
    rcases h.enter_cases with ⟨d, -, hs⟩ | ⟨m, -, -, hs⟩ | ⟨hc, hj, hs⟩
    · rw [hs] at hn
      exact .inl hn
    · rw [hs] at hn
      exact .inl hn
    · rw [hs] at hn
      rcases epoch?_launch_cases hn with ⟨rfl, -⟩ | hn
      · refine .inr ⟨rfl, hc, hj, rfl, ?_⟩
        rw [hs]
        apply Array.getElem?_push_size
      · exact .inl hn
  | advance m answer =>
    rw [epoch?_step_advance] at hn
    exact .inl hn
  | leave call =>
    rw [epoch?_step_leave] at hn
    exact .inl hn
  | look => exact .inl hn
  | invalidate key =>
    rcases h.invalidate_cases key with ⟨-, hs⟩ | ⟨-, hs⟩
    · rw [hs] at hn
      exact .inl hn
    · rw [hs] at hn
      exact .inl hn

/-- Every probe was started by a call. -/
theorem started_after {steps : List Step} {n epoch : Nat}
    (hn : (after steps).resolver.epoch? n = some epoch) :
  ∃ earlier, earlier ++ [.enter] <+: steps ∧ (after earlier).Starts n
  := by
  induction steps using List.reverseRecOn with
  | nil => cases hn
  | append_singleton steps s ih =>
    rw [after_concat] at hn
    rcases epoch?_step hn with hn | ⟨rfl, hstarts⟩
    · obtain ⟨earlier, hpart, hstarts⟩ := ih hn
      exact ⟨earlier, hpart.trans (List.prefix_append steps [s]), hstarts⟩
    · exact ⟨steps, List.prefix_rfl, hstarts⟩

/-- Every question to the host is one of a probe that a call has started which found nothing
cached and nothing in flight. -/
theorem started_of_asks {steps : List Step} {n : Nat} {q : Question}
    (h : Happened (Asks n q) steps) :
  ∃ earlier, earlier ++ [.enter] <+: steps ∧ (after earlier).Starts n
  := by
  obtain ⟨before, s, hpart, answer, epoch, next, -, hp⟩ := h
  have hn : (after before).resolver.epoch? n = some epoch := by
    rw [epoch?, hp]
    rfl
  obtain ⟨earlier, hstart, hstarts⟩ := started_after hn
  exact ⟨earlier, hstart.trans ((List.prefix_append before [s]).trans hpart), hstarts⟩

end Resolver.History

end MojoToolchain
