import Mathlib.Data.List.Destutter
import MojoToolchain.Proofs.Resolver.Environments

/-!
# Announcements

A resolver announces every change of the environment and nothing else.  A key that is announced is
recorded, and probes record nothing as long as a key is recorded, so that the recorded key is the
one announced last until the next one is announced (`Resolver.Announced`).  That is why no key is
announced twice in a row, although probes record keys as well.
-/

namespace MojoToolchain

/-- A receiver that has passed all that was announced gets nothing until there is more, and then
what is announced next. -/
theorem receive_push (announced : Array String) (key : String) :
  receive announced announced.size = (.nothing, announced.size)
    ∧ receive (announced.push key) announced.size = (.change key, announced.size + 1)
  := by
  constructor
  · simp [receive, announcementsKept]
  · simp [receive, announcementsKept]

namespace Resolver

/-- What a resolver has announced: one key for each epoch but the first, no key twice in a row,
and the last of them is recorded. -/
structure Announced (r : Resolver) : Prop where
  size : r.announced.size = r.slot.epoch
  lastKey : ∀ key ∈ r.announced.toList.getLast?, r.slot.lastKey = some key
  chain : r.announced.toList.IsChain (· ≠ ·)

namespace Announced

theorem fresh :
  Resolver.fresh.Announced
  := by
  constructor
  · rfl
  · rintro key ⟨⟩
  · exact .nil

/-- A key that is not the recorded one is announced. -/
theorem renew {r : Resolver} (ha : r.Announced) {key : String} (hkey : r.slot.lastKey ≠ some key) :
  (r.renew key).Announced
  := by
  constructor
  · simp [Resolver.renew, ha.size]
  · intro last hlast
    have hsame : key = last := by simpa [Resolver.renew] using hlast
    rw [← hsame]
    rfl
  · simp only [Resolver.renew, Array.toList_push]
    apply List.isChain_append.mpr
    refine ⟨ha.chain, .singleton key, ?_⟩
    rintro last hlast _ ⟨⟩ rfl
    exact hkey (ha.lastKey last hlast)

end Announced

namespace History

theorem announced_after (steps : List Step) :
  (after steps).resolver.Announced
  := by
  induction steps using List.reverseRecOn with
  | nil => exact .fresh
  | append_singleton steps s ih =>
    rw [after_concat]
    rcases (after steps).opens_or_stays s with ⟨key, -, hkey, hs⟩ | ⟨hepoch, hannounced⟩
    · rw [hs]
      exact ih.renew hkey
    · constructor
      · rw [hannounced, hepoch, ih.size]
      · rw [hannounced]
        exact fun key hlast => lastKey_step (ih.lastKey key hlast) hepoch
      · rw [hannounced]
        exact ih.chain

/-- Environments that come one after the other are announced without those that are the same as
the one before, where the recorded one counts as the first. -/
theorem announced_invalidations {h : History} {recorded : String}
    (hrecorded : h.resolver.slot.lastKey = some recorded) (keys : List String) :
  ∃ new, recorded :: new = keys.destutter' (· ≠ ·) recorded
    ∧ ((keys.map .invalidate).foldl step h).resolver.announced.toList
      = h.resolver.announced.toList ++ new
  := by
  induction keys generalizing h recorded with
  | nil => exact ⟨[], rfl, by simp⟩
  | cons key keys ih =>
    rcases h.invalidate_cases key with ⟨hkey, hs⟩ | ⟨hkey, hs⟩
    · obtain rfl := Option.some.inj (hrecorded.symm.trans hkey)
      obtain ⟨new, hnew, hannounced⟩ := ih hrecorded
      refine ⟨new, ?_, ?_⟩
      · rw [hnew, List.destutter'_cons_neg _ (by simp)]
      · rw [List.map_cons, List.foldl_cons, hs, hannounced]
    · have hne : recorded ≠ key := by
        rintro rfl
        exact hkey hrecorded
      obtain ⟨new, hnew, hannounced⟩ := ih (h.lastKey_invalidate key)
      refine ⟨key :: new, ?_, ?_⟩
      · rw [hnew, List.destutter'_cons_pos _ hne]
      · rw [List.map_cons, List.foldl_cons, hannounced, hs]
        simp [renew]

/-- For a new resolver the first environment is a change, too. -/
theorem announced_after_invalidations (keys : List String) :
  (after (keys.map .invalidate)).resolver.announced.toList = keys.destutter (· ≠ ·)
  := by
  cases keys with
  | nil => rfl
  | cons key keys =>
    obtain ⟨new, hnew, hannounced⟩ :=
      announced_invalidations (fresh.lastKey_invalidate key) keys
    rw [after, List.map_cons, List.foldl_cons, hannounced, List.destutter_cons', ← hnew]
    rfl

/-- In every history, an environment is a change exactly when its key is not the recorded one.  Then
the key is recorded, all else that the slot holds is dropped, the next epoch begins, and the key is
announced, once, to every receiver; otherwise nothing happens.  Nothing else opens an epoch or
announces anything.  So there are as many announcements as epochs have been opened, no key is
announced twice in a row, and a series of environments is announced without repetitions. -/
theorem invalidation_protocol (steps : List Step) :
  (∀ key, ((after steps).resolver.invalidate key).1 = true
      ↔ (after steps).resolver.slot.lastKey ≠ some key)
    ∧ (∀ key, (after steps).resolver.slot.lastKey ≠ some key →
      (after (steps ++ [.invalidate key])).resolver.slot
          = { cached := none
              lastKey := some key
              errorShown := false
              epoch := (after steps).resolver.slot.epoch + 1
              inFlight := none }
        ∧ (after (steps ++ [.invalidate key])).resolver.announced
          = (after steps).resolver.announced.push key
        ∧ receive (after steps).resolver.announced (after steps).resolver.announced.size
          = (.nothing, (after steps).resolver.announced.size)
        ∧ receive (after (steps ++ [.invalidate key])).resolver.announced
            (after steps).resolver.announced.size
          = (.change key, (after (steps ++ [.invalidate key])).resolver.announced.size))
    ∧ (∀ key, (after steps).resolver.slot.lastKey = some key →
      after (steps ++ [.invalidate key]) = after steps)
    ∧ (∀ s, (∀ key, s ≠ .invalidate key) →
      (after (steps ++ [s])).resolver.slot.epoch = (after steps).resolver.slot.epoch
        ∧ (after (steps ++ [s])).resolver.announced = (after steps).resolver.announced)
    ∧ (after steps).resolver.announced.size = (after steps).resolver.slot.epoch
    ∧ (after steps).resolver.announced.toList.IsChain (· ≠ ·)
    ∧ ∀ keys : List String, steps = keys.map .invalidate →
      (after steps).resolver.announced.toList = keys.destutter (· ≠ ·)
  := by
  have ha := announced_after steps
  refine ⟨?_, ?_, ?_, ?_, ha.size, ha.chain, ?_⟩
  · intro key
    rw [invalidate_fst, bne_iff_ne]
  · intro key hkey
    rcases (after steps).invalidate_cases key with ⟨hsame, -⟩ | ⟨-, hs⟩
    · exact absurd hsame hkey
    · have hannounced : (after (steps ++ [.invalidate key])).resolver.announced
          = (after steps).resolver.announced.push key := by
        rw [after_concat, hs]
        rfl
      obtain ⟨hbefore, hafter⟩ := receive_push (after steps).resolver.announced key
      refine ⟨?_, hannounced, hbefore, ?_⟩
      · rw [after_concat, hs]
        rfl
      · rw [hannounced, hafter, Array.size_push]
  · intro key hkey
    rcases (after steps).invalidate_cases key with ⟨-, hs⟩ | ⟨hnew, -⟩
    · rw [after_concat, hs]
    · exact absurd hkey hnew
  · intro s hs
    rw [after_concat]
    rcases (after steps).opens_or_stays s with ⟨key, rfl, -⟩ | hstays
    · exact absurd rfl (hs key)
    · exact hstays
  · rintro keys rfl
    exact announced_after_invalidations keys

/-- A probe records its environment, which is no change when it is notified of, and then another
environment is announced, twice. -/
def renotified : List Step :=
  [.enter] ++ search 0 ++ [.invalidate "env", .invalidate "new", .invalidate "new"]

/-- Only the environment that no probe has recorded is announced, and once. -/
theorem invalidation_protocol_renotified :
  (after ([.enter] ++ search 0)).resolver.slot.lastKey = some "env"
    ∧ after ([.enter] ++ search 0 ++ [.invalidate "env"]) = after ([.enter] ++ search 0)
    ∧ (after renotified).resolver.announced.size = (after renotified).resolver.slot.epoch
    ∧ (after renotified).resolver.announced = #["new"]
  := by
  have hkey : (after ([.enter] ++ search 0)).resolver.slot.lastKey = some "env" := by
    decide +kernel
  obtain ⟨-, -, hsame, -⟩ := invalidation_protocol ([.enter] ++ search 0)
  obtain ⟨-, -, -, -, hsize, -⟩ := invalidation_protocol renotified
  refine ⟨hkey, hsame "env" hkey, hsize, ?_⟩
  decide +kernel

end History

end Resolver

end MojoToolchain
