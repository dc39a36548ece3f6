import MojoToolchain.Proofs.Resolver.Epochs

/-!
# Messages to the user

A probe that reports a failure may or may not show a message.  A notice is due when the failure
is meant for the user and the epoch of the probe is not over.  Of the notices that are due in an
epoch, the first one is shown and no other (`History.Told`).
-/

namespace MojoToolchain

/-! ### Reports -/

namespace Slot

/-- A failure is shown when it is meant for the user, its epoch is the current one, and no other
was shown in it. -/
theorem isSome_report (s : Slot) (epoch : Nat) (error : SdkError) :
  (s.report epoch error).2.isSome = (epoch == s.epoch && error.isVisible && !s.errorShown)
  := by
  unfold report
  by_cases hepoch : epoch = s.epoch
  · subst hepoch
    cases error.isVisible
    · simp
    · cases s.errorShown
      · simp
      · simp
  · simp [hepoch, Ne.symm hepoch]

theorem errorShown_report (s : Slot) (epoch : Nat) (error : SdkError) :
  (s.report epoch error).1.errorShown = (s.errorShown || epoch == s.epoch && error.isVisible)
  := by
  unfold report
  by_cases hepoch : epoch = s.epoch
  · subst hepoch
    cases error.isVisible
    · simp
    · cases hshown : s.errorShown
      · simp
      · simp [hshown]
  · simp [hepoch, Ne.symm hepoch]

theorem eq_userMessage_of_report {s : Slot} {epoch : Nat} {error : SdkError} {message : String}
    (h : (s.report epoch error).2 = some message) :
  message = error.userMessage
  := by
  unfold report at h
  split at h
  · apply (Option.some.inj h).symm
  · cases h

end Slot

namespace Resolver

open Host (Question)

namespace Notice

/-- A failure that is meant for the user, of a probe whose epoch was not over. -/
def isDue (n : Notice) : Bool := n.started == n.epoch && n.error.isVisible

/-- The notice was shown to the user. -/
def isShown (n : Notice) : Bool := n.shown.isSome

/-- What the user was shown, and the epoch of it. -/
def message? (n : Notice) : Option (Nat × String) := n.shown.map fun text => (n.epoch, text)

/-- A notice names the epoch of its probe, and only a notice that is due is shown, with its
message. -/
structure Genuine (r : Resolver) (n : Notice) : Prop where
  started : r.epoch? n.probe = some n.started
  shown : ∀ {message}, n.shown = some message → n.isDue = true ∧ message = n.error.userMessage

end Notice

namespace History

/-- The notices of an epoch that are due. -/
def dueIn (h : History) (epoch : Nat) : List Notice :=
  h.notices.filter fun n => n.epoch == epoch && n.isDue

/-- The notices that were shown in an epoch. -/
def shownIn (h : History) (epoch : Nat) : List Notice :=
  h.notices.filter fun n => n.epoch == epoch && n.isShown

/-- Of each epoch the first notice that is due was shown, and no other.  The flag says whether
there was one in the current epoch. -/
structure Told (h : History) : Prop where
  shown : ∀ epoch, h.shownIn epoch = (h.dueIn epoch).take 1
  flag : h.resolver.slot.errorShown = true ↔ h.dueIn h.resolver.slot.epoch ≠ []
  epoch_le : ∀ n ∈ h.notices, n.epoch ≤ h.resolver.slot.epoch
  genuine : ∀ n ∈ h.notices, n.Genuine h.resolver

theorem dueIn_append {h h' : History} {n : Notice} (hnotices : h'.notices = h.notices ++ [n])
    (epoch : Nat) :
  h'.dueIn epoch = h.dueIn epoch ++ if n.epoch = epoch ∧ n.isDue = true then [n] else []
  := by
  simp [dueIn, hnotices, List.filter_cons]

theorem shownIn_append {h h' : History} {n : Notice} (hnotices : h'.notices = h.notices ++ [n])
    (epoch : Nat) :
  h'.shownIn epoch = h.shownIn epoch ++ if n.epoch = epoch ∧ n.isShown = true then [n] else []
  := by
  simp [shownIn, hnotices, List.filter_cons]

/-- A probe goes on that reports a failure. -/
theorem advance_report {h : History} {probe started : Nat} {error : SdkError} {next : Probe}
    (hp : h.resolver.probes[probe]? = some ⟨started, .report error next⟩)
    (answer : (q : Question) → q.Answer) :
  (h.resolver.advance probe answer).2 = (h.resolver.slot.report started error).2
    ∧ (h.step (.advance probe answer)).notices
      = h.notices ++ [⟨h.resolver.slot.epoch, started, probe, error,
        (h.resolver.slot.report started error).2⟩]
    ∧ (h.step (.advance probe answer)).resolver.slot.errorShown
      = (h.resolver.slot.report started error).1.errorShown
  := by
  simp [step, notice?, advance, hp]

/-- A probe goes on that reports nothing. -/
theorem advance_of_not_report {h : History} {probe : Nat}
    (hp : ∀ started error next,
      h.resolver.probes[probe]? ≠ some ⟨started, .report error next⟩)
    (answer : (q : Question) → q.Answer) :
  (h.resolver.advance probe answer).2 = none
    ∧ (h.step (.advance probe answer)).notices = h.notices
    ∧ (h.step (.advance probe answer)).resolver.slot.errorShown = h.resolver.slot.errorShown
  := by
  cases hprobe : h.resolver.probes[probe]? with
  | none => simp [step, notice?, advance, hprobe]
  | some p =>
    obtain ⟨started, stage⟩ := p
    cases stage with
    | done found => simp [step, notice?, advance, hprobe]
    | ask q next => simp [step, notice?, advance, hprobe]
    | observe key next =>
      obtain ⟨lastKey, hslot⟩ := h.resolver.slot.observe_eq started key
      simp [step, notice?, advance, hprobe, hslot]
    | report error next => exact absurd hprobe (hp started error next)

/-- What the user is shown in a step. -/
def shownBy (h : History) : Step → Option String
  | .advance probe answer => (h.resolver.advance probe answer).2
  | _ => none

/-- What is shown is noted, with the epoch. -/
theorem messages_step (h : History) (s : Step) :
  (h.step s).notices.filterMap Notice.message?
    = h.notices.filterMap Notice.message?
      ++ ((h.shownBy s).map fun text => (h.resolver.slot.epoch, text)).toList
  := by
  cases s with
  | enter => simp [step, shownBy]
  | advance probe answer =>
    by_cases hp : ∃ started error next,
      h.resolver.probes[probe]? = some ⟨started, .report error next⟩
    · obtain ⟨started, error, next, hp⟩ := hp
      obtain ⟨hshown, hnotices, -⟩ := advance_report hp answer
      rw [hnotices, List.filterMap_append, shownBy, hshown]
      cases (h.resolver.slot.report started error).2 with
      | none => rfl
      | some text => rfl
    · simp only [not_exists] at hp
      obtain ⟨hshown, hnotices, -⟩ := advance_of_not_report hp answer
      simp [hnotices, shownBy, hshown]
  | leave call =>
    rcases h.leave_cases call with ⟨hs, -⟩ | ⟨_, _, _, -, -, hs⟩
    · simp [hs, shownBy]
    · simp [hs, shownBy]
  | look => simp [step, shownBy]
  | invalidate key => simp [step, shownBy]

/-- The flag is reset only by a new environment. -/
theorem errorShown_step (h : History) (s : Step) (hflag : h.resolver.slot.errorShown = true) :
  (h.step s).resolver.slot.errorShown = true
    ∨ ∃ key, s = .invalidate key ∧ h.resolver.slot.lastKey ≠ some key
  := by
  cases s with
  | enter =>
    left
    rcases h.enter_cases with ⟨d, -, hs⟩ | ⟨n, -, -, hs⟩ | ⟨-, -, hs⟩
    · rw [hs, hflag]
    · rw [hs, hflag]
    · rw [hs]
      dsimp only
      rw [errorShown_launch, hflag]
  | advance probe answer =>
    left
    by_cases hp : ∃ started error next,
      h.resolver.probes[probe]? = some ⟨started, .report error next⟩
    · obtain ⟨started, error, next, hp⟩ := hp
      rw [(advance_report hp answer).2.2, Slot.errorShown_report, hflag]
      rfl
    · simp only [not_exists] at hp
      rw [(advance_of_not_report hp answer).2.2, hflag]
  | leave call =>
    left
    rcases h.leave_cases call with ⟨hs, -⟩ | ⟨epoch, n, result, -, -, hs⟩
    · rw [hs, hflag]
    · rw [hs]
      dsimp only
      rw [leave, Slot.errorShown_leave, hflag]
  | look => exact .inl hflag
  | invalidate key =>
    rcases h.invalidate_cases key with ⟨-, hs⟩ | ⟨hkey, -⟩
    · left
      rw [hs, hflag]
    · exact .inr ⟨key, rfl, hkey⟩

namespace Told

theorem fresh :
  History.fresh.Told
  := by
  constructor
  · intro epoch
    rfl
  · simp [History.fresh, Resolver.fresh, Slot.empty, dueIn]
  · intro n hn
    cases hn
  · intro n hn
    cases hn

/-- A step that reports nothing. -/
theorem of_notices_eq {h h' : History} (ht : h.Told) (hkeeps : h.resolver.Keeps h'.resolver)
    (hnotices : h'.notices = h.notices)
    (hepoch : h'.resolver.slot.epoch = h.resolver.slot.epoch)
    (hflag : h'.resolver.slot.errorShown = h.resolver.slot.errorShown) :
  h'.Told
  := by
  constructor
  · intro epoch
    rw [shownIn, dueIn, hnotices]
    apply ht.shown epoch
  · rw [dueIn, hnotices, hepoch, hflag]
    apply ht.flag
  · rw [hnotices, hepoch]
    apply ht.epoch_le
  · intro n hn
    rw [hnotices] at hn
    use hkeeps.epoch? (ht.genuine n hn).started, (ht.genuine n hn).shown

/-- A new epoch begins, in which no notice is due. -/
theorem renew {h : History} (ht : h.Told) (key : String) :
  Told { h with resolver := h.resolver.renew key }
  := by
  constructor
  · apply ht.shown
  · have hnone : h.dueIn (h.resolver.slot.epoch + 1) = [] := by
      rw [dueIn, List.filter_eq_nil_iff]
      intro n hn
      have hle := ht.epoch_le n hn
      have hne : n.epoch ≠ h.resolver.slot.epoch + 1 := by omega
      simp [hne]
    simp only [slot_renew, Bool.false_eq_true, false_iff, not_not]
    apply hnone
  · intro n hn
    apply Nat.le_succ_of_le (ht.epoch_le n hn)
  · intro n hn
    use (ht.genuine n hn).started, (ht.genuine n hn).shown

/-- A notice is added that is shown exactly when it is the first one of its epoch that is due. -/
theorem note {h h' : History} (ht : h.Told) (hkeeps : h.resolver.Keeps h'.resolver) {n : Notice}
    (hnotices : h'.notices = h.notices ++ [n]) (hn : n.Genuine h.resolver)
    (hnow : n.epoch = h.resolver.slot.epoch)
    (hshown : n.isShown = (n.isDue && !h.resolver.slot.errorShown))
    (hepoch : h'.resolver.slot.epoch = h.resolver.slot.epoch)
    (hflag : h'.resolver.slot.errorShown = (h.resolver.slot.errorShown || n.isDue)) :
  h'.Told
  := by
  have hgenuine : ∀ n' ∈ h'.notices, n'.Genuine h.resolver ∧ n'.epoch ≤ h.resolver.slot.epoch := by
    intro n' hn'
    rw [hnotices] at hn'
    rcases List.mem_append.mp hn' with hn' | hn'
    · use ht.genuine n' hn', ht.epoch_le n' hn'
    · obtain rfl := List.mem_singleton.mp hn'
      use hn, Nat.le_of_eq hnow
  constructor
  · intro epoch
    rw [shownIn_append hnotices, dueIn_append hnotices, ht.shown]
    by_cases he : n.epoch = epoch
    · cases hdue : n.isDue with
      | false => simp [hshown, hdue]
      | true =>
        cases hbefore : h.resolver.slot.errorShown with
        | false =>
          have hnone : h.dueIn epoch = [] := by
            rw [← he, hnow]
            by_contra hne
            rw [ht.flag.mpr hne] at hbefore
            cases hbefore
          simp [hshown, hdue, hbefore, he, hnone]
        | true =>
          have hsome : h.dueIn epoch ≠ [] := by
            rw [← he, hnow]
            apply ht.flag.mp hbefore
          obtain ⟨first, rest, hfirst⟩ := List.exists_cons_of_ne_nil hsome
          simp [hshown, hdue, hbefore, hfirst]
    · simp [he]
  · rw [hepoch, hflag, dueIn_append hnotices, Bool.or_eq_true, ht.flag]
    cases hdue : n.isDue with
    | false => simp
    | true => simp [hnow]
  · intro n' hn'
    rw [hepoch]
    apply (hgenuine n' hn').2
  · intro n' hn'
    obtain ⟨hn', -⟩ := hgenuine n' hn'
    use hkeeps.epoch? hn'.started, hn'.shown

theorem step {h : History} (ht : h.Told) (s : Step) :
  (h.step s).Told
  := by
  have hkeeps := h.keeps_step s
  have hepoch := h.epoch_step s
  cases s with
  | enter =>
    rcases h.enter_cases with ⟨d, -, hs⟩ | ⟨n, -, -, hs⟩ | ⟨-, -, hs⟩
    · rw [hs] at hkeeps hepoch ⊢
      apply ht.of_notices_eq hkeeps rfl hepoch rfl
    · rw [hs] at hkeeps hepoch ⊢
      apply ht.of_notices_eq hkeeps rfl hepoch rfl
    · rw [hs] at hkeeps hepoch ⊢
      apply ht.of_notices_eq hkeeps rfl hepoch rfl
  | advance probe answer =>
    by_cases hp : ∃ started error next,
      h.resolver.probes[probe]? = some ⟨started, .report error next⟩
    · obtain ⟨started, error, next, hp⟩ := hp
      obtain ⟨-, hnotices, hflag⟩ := advance_report hp answer
      have hstarted : h.resolver.epoch? probe = some started := by
        rw [epoch?, hp]
        rfl
      have hshown := h.resolver.slot.isSome_report started error
      have hflag' := h.resolver.slot.errorShown_report started error
      refine ht.note hkeeps hnotices ⟨hstarted, ?_⟩ rfl hshown hepoch (hflag.trans hflag')
      intro message hmessage
      dsimp only at hmessage
      constructor
      · rw [hmessage] at hshown
        apply (Bool.and_eq_true_iff.mp hshown.symm).1
      · apply Slot.eq_userMessage_of_report hmessage
    · simp only [not_exists] at hp
      obtain ⟨-, hnotices, hflag⟩ := advance_of_not_report hp answer
      apply ht.of_notices_eq hkeeps hnotices hepoch hflag
  | leave call =>
    rcases h.leave_cases call with ⟨hs, -⟩ | ⟨epoch, n, result, -, -, hs⟩
    · rwa [hs]
    · rw [hs] at hkeeps hepoch ⊢
      apply ht.of_notices_eq hkeeps rfl hepoch (h.resolver.slot.errorShown_leave epoch result)
  | look => apply ht
  | invalidate key =>
    rcases h.invalidate_cases key with ⟨-, hs⟩ | ⟨-, hs⟩
    · rwa [hs]
    · rw [hs]
      apply ht.renew key

end Told

/-- In all histories, the first notice of an epoch that is due is shown, and no other. -/
theorem told_after (steps : List Step) :
  (after steps).Told
  := by
  induction steps using List.reverseRecOn with
  | nil => exact .fresh
  | append_singleton steps s ih =>
    rw [after_concat]
    apply ih.step s

/-- The messages of an epoch. -/
theorem filter_messages (h : History) (epoch : Nat) :
  (h.notices.filterMap Notice.message?).filter (fun m => m.1 == epoch)
    = (h.shownIn epoch).filterMap Notice.message?
  := by
  rw [shownIn, List.filter_filterMap, List.filterMap_filter]
  congr 1
  funext n
  cases hn : n.shown with
  | none => simp [Notice.message?, hn]
  | some text =>
    by_cases he : n.epoch = epoch
    · simp [Notice.message?, Notice.isShown, hn, he]
    · simp [Notice.message?, hn, he]

/-- At most one message is shown in an epoch. -/
theorem length_messages_le (steps : List Step) (epoch : Nat) :
  (((after steps).notices.filterMap Notice.message?).filter fun m => m.1 == epoch).length ≤ 1
  := by
  rw [filter_messages, (told_after steps).shown]
  apply Nat.le_trans (List.length_filterMap_le ..)
  apply List.length_take_le 1 _

/-- A probe of the current epoch that reports a failure which is meant for the user leaves a
notice that is due. -/
theorem dueIn_advance_ne_nil {h : History} {probe : Nat} {error : SdkError} {next : Probe}
    (hp : h.resolver.probes[probe]? = some ⟨h.resolver.slot.epoch, .report error next⟩)
    (hvisible : error.isVisible = true) (answer : (q : Question) → q.Answer) :
  (h.step (.advance probe answer)).dueIn h.resolver.slot.epoch ≠ []
  := by
  obtain ⟨-, hnotices, -⟩ := advance_report hp answer
  rw [dueIn_append hnotices]
  simp [Notice.isDue, hvisible]

/-- In every history, at most one message is shown in an epoch, and it is that of the first
failure meant for the user that a probe of the epoch has reported in it.  A probe of the current
epoch that reports such a failure does not go on before there is a message.  Every message
belongs to a notice, which names the epoch of its probe.  The flag is reset only by an
environment with another key. -/
theorem messages_of_epoch (steps : List Step) :
  (∀ epoch, ((after steps).shownIn epoch).length ≤ 1
      ∧ (after steps).shownIn epoch = ((after steps).dueIn epoch).take 1)
    ∧ (∀ n ∈ (after steps).notices, (after steps).resolver.epoch? n.probe = some n.started
      ∧ ∀ message, n.shown = some message →
        n.started = n.epoch ∧ n.error.isVisible = true ∧ message = n.error.userMessage)
    ∧ (∀ probe error next answer,
      (after steps).resolver.probes[probe]?
        = some ⟨(after steps).resolver.slot.epoch, .report error next⟩ →
      error.isVisible = true →
      (after (steps ++ [.advance probe answer])).shownIn (after steps).resolver.slot.epoch ≠ [])
    ∧ (∀ probe answer message, ((after steps).resolver.advance probe answer).2 = some message →
      ∃ n, (after (steps ++ [.advance probe answer])).notices = (after steps).notices ++ [n]
        ∧ n.epoch = (after steps).resolver.slot.epoch ∧ n.probe = probe ∧ n.shown = some message)
    ∧ ∀ s, (after steps).resolver.slot.errorShown = true →
      (after (steps ++ [s])).resolver.slot.errorShown = false →
      ∃ key, s = .invalidate key ∧ (after steps).resolver.slot.lastKey ≠ some key
  := by
  have ht := told_after steps
  refine ⟨?_, ?_, ?_, ?_, ?_⟩
  · intro epoch
    constructor
    · rw [ht.shown]
      apply List.length_take_le 1 _
    · apply ht.shown epoch
  · intro n hn
    refine ⟨(ht.genuine n hn).started, ?_⟩
    intro message hmessage
    obtain ⟨hdue, hmessage⟩ := (ht.genuine n hn).shown hmessage
    rw [Notice.isDue, Bool.and_eq_true, beq_iff_eq] at hdue
    use hdue.1, hdue.2, hmessage
  · intro probe error next answer hp hvisible
    rw [(told_after _).shown, after_concat]
    have hdue := dueIn_advance_ne_nil hp hvisible answer
    simpa using hdue
  · intro probe answer message hmessage
    by_cases hp : ∃ started error next,
      (after steps).resolver.probes[probe]? = some ⟨started, .report error next⟩
    · obtain ⟨started, error, next, hp⟩ := hp
      obtain ⟨hreport, hnotices, -⟩ := advance_report hp answer
      rw [after_concat]
      exact ⟨_, hnotices, rfl, rfl, hreport.symm.trans hmessage⟩
    · simp only [not_exists] at hp
      rw [(advance_of_not_report hp answer).1] at hmessage
      cases hmessage
  · intro s hflag hreset
    rw [after_concat] at hreset
    rcases (after steps).errorShown_step s hflag with hflag' | hkey
    · rw [hflag'] at hreset
      cases hreset
    · apply hkey

/-- Three probes find no environment: one in the first epoch, one that is overtaken by a new
environment, and one in the second epoch. -/
def staleReport : List Step :=
  [.enter] ++ vainSearch 0 ++ [.leave 0, .enter, .invalidate "new"] ++ vainSearch 1
    ++ [.enter] ++ vainSearch 2

/-- The failure of the probe that was overtaken comes first in the second epoch, but the message
is that of the other one. -/
theorem messages_of_epoch_stale :
  (after ([.enter] ++ vainSearch 0)).shownIn 0 ≠ []
    ∧ (after staleReport).notices.map Notice.probe = [0, 1, 2]
    ∧ (after staleReport).shownIn 1 = ((after staleReport).dueIn 1).take 1
    ∧ ((after staleReport).shownIn 1).map Notice.probe = [2]
  := by
  obtain ⟨-, -, hfirst, -⟩ :=
    messages_of_epoch ([.enter] ++ .replicate 2 (.advance 0 (plainHost none true)))
  obtain ⟨hshown, -⟩ := messages_of_epoch staleReport
  refine ⟨?_, ?_, (hshown 1).2, ?_⟩
  · apply hfirst 0 .environmentUnavailable (.done none) (plainHost none true) rfl rfl
  · decide +kernel
  · decide +kernel

end History

end Resolver

end MojoToolchain
