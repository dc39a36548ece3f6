import MojoToolchain.Proofs.Resolver.Steps

/-!
# Epochs

What a resolver holds belongs to its current epoch (`Resolver.Isolated`), and what a call waits
for or has returned belongs to the epoch in which it entered (`Visit.Isolated`).  Every step
keeps both.  An invalidation that opens an epoch therefore parts the probes: none that was
started before it is heard of by the cache or by the calls that enter after it.
-/

namespace MojoToolchain.Resolver

open Host (Question)

/-! ### The slot -/

/-- What a resolver holds belongs to its current epoch. -/
structure Isolated (r : Resolver) : Prop where
  probe : ∀ {n e}, r.epoch? n = some e → e ≤ r.slot.epoch
  cached : ∀ {d}, r.slot.cached = some d → r.Found d r.slot.epoch
  inFlight : ∀ {e n}, r.slot.inFlight = some (e, n) → e = r.slot.epoch ∧ r.epoch? n = some e
  exclusive : r.slot.cached = none ∨ r.slot.inFlight = none

namespace Isolated

theorem fresh :
  Resolver.fresh.Isolated
  := by
  constructor
  · intro n e hn
    cases hn
  · intro d hd
    cases hd
  · intro e n hn
    cases hn
  · exact .inl rfl

theorem cached_eq_none {r : Resolver} (h : r.Isolated) {flight : Nat × Nat}
    (hflight : r.slot.inFlight = some flight) :
  r.slot.cached = none
  := by
  rcases h.exclusive with hc | hnone
  · apply hc
  · cases hnone.symm.trans hflight

theorem launch {r : Resolver} (h : r.Isolated) (hc : r.slot.cached = none) :
  r.launch.Isolated
  := by
  constructor
  · intro n e hn
    rcases epoch?_launch_cases hn with ⟨-, rfl⟩ | hn
    · apply Nat.le_refl _
    · apply h.probe hn
  · intro d hd
    rw [cached_launch, hc] at hd
    cases hd
  · intro e n hn
    cases hn
    constructor
    · rfl
    · rw [epoch?_launch, if_pos rfl]
  · exact .inl hc

theorem renew {r : Resolver} (h : r.Isolated) (key : String) :
  (r.renew key).Isolated
  := by
  constructor
  · intro n e hn
    apply Nat.le_succ_of_le (h.probe hn)
  · intro d hd
    cases hd
  · intro e n hn
    cases hn
  · exact .inl rfl

theorem advance {r : Resolver} (h : r.Isolated) (n : Nat)
    (answer : (q : Question) → q.Answer) :
  (r.advance n answer).1.Isolated
  := by
  have hkeeps := r.keeps_advance n answer
  obtain ⟨lastKey, errorShown, hslot⟩ := r.slot_advance n answer
  constructor
  · intro m e hm
    rw [epoch?_advance] at hm
    rw [hslot]
    apply h.probe hm
  · intro d hd
    rw [hslot] at hd ⊢
    apply hkeeps.found (h.cached hd)
  · intro e m hm
    rw [hslot] at hm ⊢
    rw [epoch?_advance]
    apply h.inFlight hm
  · rw [hslot]
    apply h.exclusive

/-- A call of the current epoch takes away what is in flight when it leaves, whichever probe that
is, and its result is kept when nothing was. -/
theorem slot_leave {r : Resolver} (h : r.Isolated) (result : Option Descriptor) :
  (r.leave r.slot.epoch result).slot
    = { r.slot with inFlight := none, cached := r.slot.cached <|> result }
  := Slot.leave_current (fun hn => (h.inFlight hn).1) result

/-- A call may leave with nothing or with what a probe of its epoch has found. -/
theorem leave {r : Resolver} (h : r.Isolated) {epoch : Nat} {result : Option Descriptor}
    (hresult : ∀ d, result = some d → r.Found d epoch) :
  (r.leave epoch result).Isolated
  := by
  by_cases hepoch : epoch = r.slot.epoch
  · subst hepoch
    have hslot := h.slot_leave result
    constructor
    · intro n e hn
      rw [hslot]
      apply h.probe hn
    · intro d hd
      rw [hslot] at hd ⊢
      cases hc : r.slot.cached with
      | none =>
        rw [hc] at hd
        apply hresult d hd
      | some d' =>
        rw [hc] at hd
        apply h.cached (hc.trans hd)
    · intro e n hn
      rw [hslot] at hn
      cases hn
    · rw [hslot]
      exact .inr rfl
  · rwa [leave_of_ne hepoch]

end Isolated

/-! ### The calls -/

/-- A call waits for a probe of its epoch, or has returned the result of one. -/
def Visit.Isolated (r : Resolver) : Visit → Prop
  | ⟨epoch, .waiting probe⟩ => r.epoch? probe = some epoch
  | ⟨epoch, .returned result⟩ => ∃ n, r.epoch? n = some epoch ∧ r.result? n = some result

theorem Visit.Isolated.mono {r r' : Resolver} (hkeeps : r.Keeps r') {v : Visit}
    (h : v.Isolated r) :
  v.Isolated r'
  := by
  obtain ⟨epoch, probe | result⟩ := v
  · apply hkeeps.epoch? h
  · obtain ⟨n, he, hresult⟩ := h
    use n, hkeeps.epoch? he, hkeeps.result? hresult

/-- A descriptor that is the result of a probe of an epoch was found in the epoch. -/
theorem found_of_result? {r : Resolver} {n epoch : Nat} {d : Descriptor}
    (hn : r.epoch? n = some epoch) (hresult : r.result? n = some (some d)) :
  r.Found d epoch
  := by
  obtain rfl := number_of_result? hresult
  use hresult, hn

namespace History

/-- The resolver and all calls keep to their epochs. -/
structure Isolated (h : History) : Prop where
  resolver : h.resolver.Isolated
  calls : ∀ v ∈ h.calls, v.Isolated h.resolver

/-- A call is added that keeps to its epoch. -/
theorem Isolated.push {h : History} (hi : h.Isolated) {r : Resolver} (hkeeps : h.resolver.Keeps r)
    (hr : r.Isolated) {v : Visit} (hv : v.Isolated r) :
  Isolated { h with resolver := r, calls := h.calls.push v }
  := by
  constructor
  · apply hr
  · intro v' hv'
    rcases Array.mem_push.mp hv' with hv' | rfl
    · apply (hi.calls v' hv').mono hkeeps
    · apply hv

theorem Isolated.step {h : History} (hi : h.Isolated) (s : Step) :
  (h.step s).Isolated
  := by
  have hcalls : ∀ v ∈ h.calls, v.Isolated (h.step s).resolver :=
    fun v hv => (hi.calls v hv).mono (h.keeps_step s)
  cases s with
  | enter =>
    rcases h.enter_cases with ⟨d, hc, hs⟩ | ⟨n, -, hn, hs⟩ | ⟨hc, -, hs⟩
    · rw [hs]
      apply hi.push (.refl _) hi.resolver
      use d.number, (hi.resolver.cached hc).2, (hi.resolver.cached hc).1
    · rw [hs]
      apply hi.push (.refl _) hi.resolver
      apply (hi.resolver.inFlight hn).2
    · rw [hs]
      apply hi.push (keeps_launch _) (hi.resolver.launch hc)
      apply (epoch?_launch ..).trans (if_pos rfl)
  | advance probe answer => use hi.resolver.advance probe answer, hcalls
  | leave call =>
    rcases h.leave_cases call with ⟨hs, -⟩ | ⟨epoch, probe, result, hv, hresult, hs⟩
    · rwa [hs]
    · have hepoch : h.resolver.epoch? probe = some epoch :=
        hi.calls _ (Array.mem_of_getElem? hv)
      rw [hs] at hcalls ⊢
      constructor
      · apply hi.resolver.leave
        rintro d rfl
        apply found_of_result? hepoch hresult
      · intro v hv
        rcases Array.mem_or_eq_of_mem_setIfInBounds hv with hv | rfl
        · apply hcalls v hv
        · use probe, hepoch, hresult
  | look => apply hi
  | invalidate key =>
    rcases h.invalidate_cases key with ⟨-, hs⟩ | ⟨-, hs⟩
    · rwa [hs]
    · rw [hs] at hcalls ⊢
      use hi.resolver.renew key, hcalls

/-- All histories keep to their epochs. -/
theorem isolated_after (steps : List Step) :
  (after steps).Isolated
  := by
  induction steps using List.reverseRecOn with
  | nil =>
    constructor
    · exact .fresh
    · exact fun v hv => absurd hv (Array.not_mem_empty v)
  | append_singleton steps s ih =>
    rw [after_concat]
    apply ih.step s

/-- A descriptor that a call has returned was found in the epoch of the call. -/
theorem Isolated.found_of_returned {h : History} (hi : h.Isolated) {call epoch : Nat}
    {d : Descriptor} (hv : h.calls[call]? = some ⟨epoch, .returned (some d)⟩) :
  h.resolver.Found d epoch
  := by
  obtain ⟨n, he, hresult⟩ := hi.calls _ (Array.mem_of_getElem? hv)
  apply found_of_result? he hresult

/-! ### Histories that go on -/

/-- The epoch in which a call entered. -/
def entered? (h : History) (call : Nat) : Option Nat :=
  (h.calls[call]?).map Visit.epoch

/-- A history goes on from another one: probes and calls are only added, and a call stays in the
epoch in which it entered, which is not before that of the first history if it is new. -/
structure GoesOn (h h' : History) : Prop where
  keeps : h.resolver.Keeps h'.resolver
  epoch_le : h.resolver.slot.epoch ≤ h'.resolver.slot.epoch
  old : ∀ {call e}, h.entered? call = some e → h'.entered? call = some e
  new : ∀ {call e}, h.entered? call = none → h'.entered? call = some e → h.resolver.slot.epoch ≤ e

namespace GoesOn

theorem refl (h : History) :
  h.GoesOn h
  := by
  constructor
  · exact .refl h.resolver
  · apply Nat.le_refl _
  · exact id
  · intro call e hnone hsome
    rw [hnone] at hsome
    cases hsome

theorem trans {h h' h'' : History} (hgo : h.GoesOn h') (hgo' : h'.GoesOn h'') :
  h.GoesOn h''
  := by
  constructor
  · apply hgo.keeps.trans hgo'.keeps
  · apply Nat.le_trans hgo.epoch_le hgo'.epoch_le
  · exact hgo'.old ∘ hgo.old
  · intro call e hnone hsome
    cases hbetween : h'.entered? call with
    | none => apply Nat.le_trans hgo.epoch_le (hgo'.new hbetween hsome)
    | some e' =>
      obtain rfl := Option.some.inj ((hgo'.old hbetween).symm.trans hsome)
      apply hgo.new hnone hbetween

/-- A step after which the calls are the same but for their progress. -/
theorem of_entered?_eq {h h' : History} (hkeeps : h.resolver.Keeps h'.resolver)
    (hepoch : h.resolver.slot.epoch ≤ h'.resolver.slot.epoch)
    (hcalls : ∀ call, h'.entered? call = h.entered? call) :
  h.GoesOn h'
  := by
  constructor
  · apply hkeeps
  · apply hepoch
  · intro call e he
    rwa [hcalls]
  · intro call e hnone hsome
    rw [hcalls, hnone] at hsome
    cases hsome

end GoesOn

/-- The call that enters next enters in the current epoch. -/
theorem entered?_enter (h : History) (call : Nat) :
  (h.step .enter).entered? call
    = if call = h.calls.size then some h.resolver.slot.epoch else h.entered? call
  := by
  have hpush : ∃ progress,
      (h.step .enter).calls = h.calls.push ⟨h.resolver.slot.epoch, progress⟩ := by
    rcases h.enter_cases with ⟨d, -, hs⟩ | ⟨n, -, -, hs⟩ | ⟨-, -, hs⟩
    · exact ⟨_, congrArg calls hs⟩
    · exact ⟨_, congrArg calls hs⟩
    · exact ⟨_, congrArg calls hs⟩
  obtain ⟨progress, hcalls⟩ := hpush
  rw [entered?, hcalls, Array.getElem?_push]
  split
  · rfl
  · rfl

/-- The current epoch ends only with a new environment. -/
theorem epoch_step (h : History) (s : Step) :
  (h.step s).resolver.slot.epoch
    = match s with
      | .invalidate key =>
        if h.resolver.slot.lastKey = some key then h.resolver.slot.epoch
        else h.resolver.slot.epoch + 1
      | _ => h.resolver.slot.epoch
  := by
  cases s with
  | enter =>
    rcases h.enter_cases with ⟨d, -, hs⟩ | ⟨n, -, -, hs⟩ | ⟨-, -, hs⟩
    · rw [hs]
    · rw [hs]
    · rw [hs]
      rfl
  | advance probe answer =>
    obtain ⟨lastKey, errorShown, hslot⟩ := h.resolver.slot_advance probe answer
    rw [step, hslot]
  | leave call =>
    rcases h.leave_cases call with ⟨hs, -⟩ | ⟨epoch, probe, result, -, -, hs⟩
    · rw [hs]
    · rw [hs]
      apply h.resolver.slot.epoch_leave epoch result
  | look => rfl
  | invalidate key =>
    rcases h.invalidate_cases key with ⟨hkey, hs⟩ | ⟨hkey, hs⟩
    · rw [hs]
      simp [hkey]
    · rw [hs]
      dsimp only
      rw [if_neg hkey]
      rfl

theorem epoch_le_step (h : History) (s : Step) :
  h.resolver.slot.epoch ≤ (h.step s).resolver.slot.epoch
  := by
  rw [epoch_step]
  split
  · split
    · apply Nat.le_refl _
    · apply Nat.le_succ _
  · apply Nat.le_refl _

theorem goesOn_step (h : History) (s : Step) :
  h.GoesOn (h.step s)
  := by
  have hkeeps := h.keeps_step s
  have hepoch := h.epoch_le_step s
  cases s with
  | enter =>
    constructor
    · apply hkeeps
    · apply hepoch
    · intro call e he
      rw [entered?_enter, if_neg]
      · apply he
      · rintro rfl
        simp [entered?] at he
    · intro call e hnone hsome
      rw [entered?_enter, hnone] at hsome
      split at hsome
      · apply Nat.le_of_eq (Option.some.inj hsome)
      · cases hsome
  | advance probe answer => exact .of_entered?_eq hkeeps hepoch fun _ => rfl
  | leave call =>
    rcases h.leave_cases call with ⟨hs, -⟩ | ⟨epoch, probe, result, hv, -, hs⟩
    · rw [hs]
      exact .refl h
    · rw [hs] at hkeeps hepoch ⊢
      apply GoesOn.of_entered?_eq hkeeps hepoch
      intro call'
      rw [entered?, entered?, Array.getElem?_setIfInBounds]
      split
      · next heq =>
        subst heq
        rw [if_pos (Array.getElem?_eq_some_iff.mp hv).1, hv]
        rfl
      · rfl
  | look => exact .refl h
  | invalidate key => exact .of_entered?_eq hkeeps hepoch fun _ => rfl

/-- The history after some steps goes on from the one after the first of them. -/
theorem goesOn_after (earlier later : List Step) :
  (after earlier).GoesOn (after (earlier ++ later))
  := by
  induction later using List.reverseRecOn with
  | nil =>
    rw [List.append_nil]
    exact .refl _
  | append_singleton later s ih =>
    rw [← List.append_assoc, after_concat]
    apply ih.trans (goesOn_step _ s)

/-- What is kept by every step that does not end the epoch holds as long as the epoch lasts. -/
theorem lasts_after {P : History → Prop}
    (hstep : ∀ {h : History} {s : Step}, P h →
      (h.step s).resolver.slot.epoch = h.resolver.slot.epoch → P (h.step s))
    {earlier : List Step} (hp : P (after earlier)) (later : List Step)
    (hepoch : (after earlier).resolver.slot.epoch
      = (after (earlier ++ later)).resolver.slot.epoch) :
  P (after (earlier ++ later))
  := by
  induction later using List.reverseRecOn with
  | nil =>
    rw [List.append_nil]
    apply hp
  | append_singleton later s ih =>
    rw [← List.append_assoc, after_concat] at hepoch ⊢
    have hfirst := (goesOn_after earlier later).epoch_le
    have hlast := (after (earlier ++ later)).epoch_le_step s
    apply hstep (ih (by omega)) (by omega)

/-- A call that has entered stays in the epoch in which it did. -/
theorem entered?_after (earlier later : List Step) :
  (after (earlier ++ [.enter] ++ later)).entered? (after earlier).calls.size
    = some (after earlier).resolver.slot.epoch
  := by
  apply (goesOn_after _ later).old
  rw [after_concat, entered?_enter, if_pos rfl]

/-- An invalidation with a new key ends an epoch. -/
theorem epoch_lt_of_invalidate {earlier : List Step} {key : String}
    (hkey : (after earlier).resolver.slot.lastKey ≠ some key) (later : List Step) :
  (after earlier).resolver.slot.epoch
    < (after (earlier ++ [.invalidate key] ++ later)).resolver.slot.epoch
  := by
  have hle := (goesOn_after (earlier ++ [.invalidate key]) later).epoch_le
  rw [after_concat, epoch_step] at hle
  simp only [hkey, if_false] at hle
  apply hle

/-- The calls that enter after an invalidation with a new key enter in later epochs. -/
theorem epoch_lt_of_entered? {earlier : List Step} {key : String}
    (hkey : (after earlier).resolver.slot.lastKey ≠ some key) (later : List Step) {call epoch : Nat}
    (hcall : (after earlier).calls.size ≤ call)
    (he : (after (earlier ++ [.invalidate key] ++ later)).entered? call = some epoch) :
  (after earlier).resolver.slot.epoch < epoch
  := by
  have hnone : (after (earlier ++ [.invalidate key])).entered? call = none := by
    rw [after_concat, entered?, step, Array.getElem?_eq_none hcall]
    rfl
  have hle := (goesOn_after _ later).new hnone he
  rw [after_concat, epoch_step] at hle
  simp only [hkey, if_false] at hle
  apply hle

/-- What was found in an epoch that is later than a history was found by a probe that started
later. -/
theorem size_le_of_found {h h' : History} (hi : h.resolver.Isolated) (hgo : h.GoesOn h')
    {d : Descriptor} {epoch : Nat} (hd : h'.resolver.Found d epoch)
    (hlt : h.resolver.slot.epoch < epoch) :
  h.resolver.probes.size ≤ d.number
  := by
  by_contra hsize
  obtain ⟨e, he⟩ := exists_epoch? (Nat.lt_of_not_le hsize)
  have hle : e ≤ h.resolver.slot.epoch := hi.probe he
  have heq : e = epoch := Option.some.inj ((hgo.keeps.epoch? he).symm.trans hd.2)
  omega

/-- In every history, whatever is cached was found by a probe of the current epoch, whatever is
in flight is a probe of the current epoch, and there are never both.  A call that has returned
has the result of a probe of the epoch in which it entered.  When an invalidation opens an
epoch, no descriptor of a probe that was started before is cached from then on, or returned by a
call that enters from then on. -/
theorem epoch_isolation (steps : List Step) :
  (∀ d, (after steps).resolver.slot.cached = some d →
      (after steps).resolver.Found d (after steps).resolver.slot.epoch)
    ∧ (∀ e n, (after steps).resolver.slot.inFlight = some (e, n) →
      e = (after steps).resolver.slot.epoch ∧ (after steps).resolver.epoch? n = some e)
    ∧ ((after steps).resolver.slot.cached = none ∨ (after steps).resolver.slot.inFlight = none)
    ∧ (∀ earlier, earlier ++ [.enter] <+: steps →
      ∃ progress, (after steps).calls[(after earlier).calls.size]?
          = some ⟨(after earlier).resolver.slot.epoch, progress⟩
        ∧ ∀ result, progress = .returned result →
          ∃ n, (after steps).resolver.epoch? n = some (after earlier).resolver.slot.epoch
            ∧ (after steps).resolver.result? n = some result)
    ∧ ∀ earlier key, earlier ++ [.invalidate key] <+: steps →
      (after earlier).resolver.slot.lastKey ≠ some key →
      (∀ d, (after steps).resolver.slot.cached = some d →
          (after earlier).resolver.probes.size ≤ d.number)
        ∧ ∀ call epoch d, (after earlier).calls.size ≤ call →
          (after steps).calls[call]? = some ⟨epoch, .returned (some d)⟩ →
          (after earlier).resolver.probes.size ≤ d.number
  := by
  have hi := isolated_after steps
  refine ⟨fun d => hi.resolver.cached, fun e n => hi.resolver.inFlight, hi.resolver.exclusive,
    ?_, ?_⟩
  · rintro earlier ⟨later, rfl⟩
    obtain ⟨⟨epoch, progress⟩, hv, rfl⟩ :=
      Option.map_eq_some_iff.mp (entered?_after earlier later)
    refine ⟨progress, hv, ?_⟩
    rintro result rfl
    apply hi.calls _ (Array.mem_of_getElem? hv)
  · rintro earlier key ⟨later, rfl⟩ hkey
    have hgo := goesOn_after earlier ([.invalidate key] ++ later)
    rw [← List.append_assoc] at hgo
    constructor
    · intro d hd
      apply size_le_of_found (isolated_after earlier).resolver hgo (hi.resolver.cached hd)
      apply epoch_lt_of_invalidate hkey later
    · intro call epoch d hcall hv
      apply size_le_of_found (isolated_after earlier).resolver hgo (hi.found_of_returned hv)
      apply epoch_lt_of_entered? hkey later hcall
      rw [entered?, hv]
      rfl

/-- A probe is started, the environment changes, another probe is started, and both find an
SDK. -/
def overtaken : List Step :=
  [.enter, .invalidate "new", .enter] ++ (search 0 ++ search 1) ++ [.leave 0, .leave 1]

/-- A probe that is overtaken by an invalidation: its descriptor is returned by the call that has
waited for it, and the cache has the one of the next probe. -/
theorem epoch_isolation_overtaken :
  ∃ d, (after overtaken).resolver.slot.cached = some d ∧ (after overtaken).resolver.Found d 1
    ∧ 1 ≤ d.number
    ∧ ∃ d', (after overtaken).calls[0]? = some ⟨0, .returned (some d')⟩ ∧ d'.number = 0
  := by
  obtain ⟨hcached, -, -, -, hparted⟩ := epoch_isolation overtaken
  have hd : (after overtaken).resolver.slot.cached = some ⟨1, Sdk.packaged ⟨"/env"⟩ "linux"⟩ := by
    decide +kernel
  have hcall : (after overtaken).calls[0]?
      = some ⟨0, .returned (some ⟨0, Sdk.packaged ⟨"/env"⟩ "linux"⟩)⟩ := by
    decide +kernel
  have hepoch : (after overtaken).resolver.slot.epoch = 1 := by
    decide +kernel
  have hkey : (after [.enter]).resolver.slot.lastKey ≠ some "new" := by
    decide
  have hsize := hparted [.enter] "new" ⟨_, rfl⟩ hkey
  have hfound := hcached _ hd
  rw [hepoch] at hfound
  exact ⟨_, hd, hfound, hsize.1 _ hd, _, hcall, rfl⟩

end History

end MojoToolchain.Resolver
