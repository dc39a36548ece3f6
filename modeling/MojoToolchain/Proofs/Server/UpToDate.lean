import MojoToolchain.Proofs.Server.Origins

/-!
# Servers that are up to date

Whatever is done with the SDK of an epoch is based on the epoch (`History.BasedOn`): the server
that was started with it, and the holder of the supervisor who has asked the resolver in it.  Only a
holder who asks makes a new basis, and that is the current epoch; so a basis becomes outdated only
by an announcement, and until a follower has seen that announcement, or its restart has got the
supervisor, something is pending for the follower (`History.Pending`).
-/

namespace MojoToolchain

/-! ### Receivers -/

/-- A receiver that has missed too much is told so once, and goes on with all that is kept. -/
theorem receive_of_lagged {announced : Array String} {position : Nat}
    (h : position + announcementsKept < announced.size) :
  (∃ lost, receive announced position = (.lagged lost, announced.size - announcementsKept))
    ∧ ∀ (n : Nat) key, announced.size - announcementsKept ≤ n → announced[n]? = some key →
      receive announced n = (.change key, n + 1)
  := by
  constructor
  · exact ⟨_, if_pos h⟩
  · intro n key hn hkey
    have hkept : ¬ n + announcementsKept < announced.size := by omega
    simp [receive, hkept, hkey]

/-- A receiver that gets nothing has passed all announcements. -/
theorem size_le_of_nothing {announced : Array String} {position : Nat}
    (h : (receive announced position).1 = .nothing) :
  announced.size ≤ position
  := by
  unfold receive at h
  split at h
  · cases h
  · split at h
    · cases h
    · next hnone => exact Array.getElem?_eq_none_iff.mp hnone

/-- A receiver never passes what is not announced yet. -/
theorem receive_le_size {announced : Array String} {position : Nat}
    (h : position ≤ announced.size) :
  (receive announced position).2 ≤ announced.size
  := by
  unfold receive
  split
  · exact Nat.sub_le _ _
  · split
    · next hkey => exact (Array.getElem?_eq_some_iff.mp hkey).1
    · exact h

namespace Watching.History

variable {options : SupervisorOptions} {h : History}

/-! ### What is outdated -/

/-- What runs, or is under way, rests on what was asked of the resolver in an epoch. -/
inductive BasedOn (h : History) (epoch : Nat) : Prop
  | running {server : Server} {d : Descriptor}
      (hserver : h.supervisor.supervisor.current = some server)
      (horigin : h.origins[server.number]? = some d)
      (hepoch : h.resolver.resolver.epoch? d.number = some epoch) : BasedOn h epoch
  | asked {query : Nat} (hquery : h.query = some query)
      (hepoch : h.resolver.entered? query = some epoch) : BasedOn h epoch

/-- What runs, or is under way, rests on an epoch that is over. -/
def Outdated (h : History) : Prop := ∃ epoch < h.resolver.resolver.slot.epoch, h.BasedOn epoch

/-- When no server runs and nothing was asked, nothing is outdated. -/
theorem not_outdated_of_idle (hcurrent : h.supervisor.supervisor.current = none)
    (hquery : h.query = none) :
  ¬ h.Outdated
  := by
  rintro ⟨epoch, -, hbased⟩
  cases hbased with
  | running hserver _ _ => cases hcurrent.symm.trans hserver
  | asked hq _ => cases hquery.symm.trans hq

/-- The resolver changes no basis. -/
theorem Grounded.basedOn_of_resolve (hg : h.Grounded options) {s : Resolver.Step} {epoch : Nat}
    (hbased : BasedOn { h with resolver := h.resolver.step s } epoch) :
  h.BasedOn epoch
  := by
  cases hbased with
  | running hserver horigin hepoch =>
    obtain ⟨d', e, horigin', hfound, -⟩ := hg.running hserver
    cases horigin.symm.trans horigin'
    cases hepoch.symm.trans ((h.resolver.keeps_step s).epoch? hfound.2)
    exact .running hserver horigin hfound.2
  | asked hq hepoch =>
    obtain ⟨e, he⟩ := hg.query hq
    cases hepoch.symm.trans ((h.resolver.goesOn_step s).old he)
    exact .asked hq he

/-- A server that is started rests on what the holder of the supervisor has asked; nothing else
that happens to the supervisor makes a basis. -/
theorem Grounded.basedOn_of_supervise (hg : h.Grounded options) {s : Supervisor.Step} {epoch : Nat}
    (hbased : (h.supervise s).BasedOn epoch) :
  h.BasedOn epoch
  := by
  cases hbased with
  | asked hq hepoch => exact .asked (query_supervise hq) hepoch
  | @running server d hserver horigin hepoch =>
    rcases hg.supervise_cases s with ⟨ho, -, hsame⟩ | ⟨query, e, d', hq, hd, ho, -, hnew⟩
    · rw [ho] at horigin
      exact .running (hsame server hserver) horigin hepoch
    · cases hserver.symm.trans hnew
      rw [ho, List.getElem?_concat_length] at horigin
      cases horigin
      cases hepoch.symm.trans (hg.resolver.found_of_returned hd).2
      exact .asked hq (by simp [Resolver.History.entered?, hd])

theorem Grounded.outdated_of_supervise (hg : h.Grounded options) {s : Supervisor.Step}
    (hout : (h.supervise s).Outdated) :
  h.Outdated
  := by
  obtain ⟨epoch, hlt, hbased⟩ := hout
  exact ⟨epoch, hlt, hg.basedOn_of_supervise hbased⟩

/-- What is asked now is not outdated. -/
theorem not_outdated_look (hcurrent : h.supervisor.supervisor.current = none) :
  ¬ h.look.Outdated
  := by
  rintro ⟨epoch, hlt, hbased⟩
  cases hbased with
  | running hserver _ _ => cases hcurrent.symm.trans hserver
  | asked hq hepoch =>
    cases hq
    cases hepoch.symm.trans ((h.resolver.entered?_enter _).trans (if_pos rfl))
    exact absurd (h.resolver.epoch_step .enter) (Nat.ne_of_gt hlt)

/-! ### What is pending -/

/-- Something is pending for a follower: there is an announcement that it has not passed, or its
restart waits for the supervisor. -/
def Pending (h : History) (f : Follower) : Prop :=
  f.position < h.resolver.resolver.announced.size
    ∨ ∃ call : Nat, f.restart = some call ∧ h.supervisor.calls[call]? = some ⟨.restart, .waiting⟩

/-- While something is outdated, something is pending for a follower. -/
def Watched (h : History) (follower : Nat) : Prop :=
  ∃ f, h.followers[follower]? = some f ∧ f.position ≤ h.resolver.resolver.announced.size
    ∧ (h.Outdated → h.Pending f)

theorem Grounded.watched_resolve (hg : h.Grounded options) {follower : Nat}
    (hw : h.Watched follower) (s : Resolver.Step) :
  Watched { h with resolver := h.resolver.step s } follower
  := by
  obtain ⟨f, hf, hposition, hpending⟩ := hw
  refine ⟨f, hf, ?_⟩
  rcases h.resolver.announced_step s with ⟨hepoch, hsize⟩ | hsize
  · constructor
    · exact Nat.le_trans hposition (Nat.le_of_eq hsize.symm)
    · rintro ⟨epoch, hlt, hbased⟩
      have hlt := Nat.lt_of_lt_of_eq hlt hepoch
      rcases hpending ⟨epoch, hlt, hg.basedOn_of_resolve hbased⟩ with hp | hp
      · exact .inl (Nat.lt_of_lt_of_eq hp hsize.symm)
      · exact .inr hp
  · have hlt : f.position < (h.resolver.step s).resolver.announced.size := by omega
    exact ⟨Nat.le_of_lt hlt, fun _ => .inl hlt⟩

theorem Grounded.watched_supervise (hg : h.Grounded options) {follower : Nat}
    (hw : h.Watched follower) (s : Supervisor.Step) :
  (h.supervise s).Watched follower
  := by
  obtain ⟨f, hf, hposition, hpending⟩ := hw
  refine ⟨f, hf, hposition, ?_⟩
  intro hout
  rcases hpending (hg.outdated_of_supervise hout) with hp | ⟨call, hcall, hwaiting⟩
  · exact .inl hp
  · rcases Supervisor.History.waiting_step hwaiting s with hstill | ⟨hfree, hs⟩
    · exact .inr ⟨call, hcall, hstill⟩
    · -- the restart gets the supervisor, and what was outdated is stopped
      obtain ⟨stage, -, hr⟩ := h.supervisor.supervisor.enter_restart
      have hidle : ¬ (h.supervise s).Outdated := by
        apply not_outdated_of_idle
        · change (h.supervisor.step s).supervisor.current = none
          rw [hs, hr]
        · have hstage : (h.supervisor.step s).supervisor.stage = some stage := by rw [hs, hr]
          rw [query_supervise_of_held hstage, hg.free hfree]
      exact absurd hout hidle

/-- A follower that takes what is announced waits for its restart. -/
theorem watched_receive {follower position : Nat}
    (hf : h.followers[follower]? = some ⟨position, none⟩)
    (hposition : position ≤ h.resolver.resolver.announced.size) :
  Watched { h.supervise (.ask .restart) with
      followers := h.followers.setIfInBounds follower
        ⟨(receive h.resolver.resolver.announced position).2,
          some h.supervisor.calls.size⟩ } follower
  := by
  refine ⟨_, Array.getElem?_setIfInBounds_self_of_lt (Array.getElem?_eq_some_iff.mp hf).1,
    receive_le_size hposition, fun _ => .inr ⟨_, rfl, ?_⟩⟩
  exact Array.getElem?_push_size

/-- The followers make no basis. -/
theorem outdated_of_followers {followers : Array Follower}
    (hout : Outdated { h with followers := followers }) :
  h.Outdated
  := by
  obtain ⟨epoch, hlt, hbased⟩ := hout
  use epoch, hlt
  cases hbased with
  | running hserver horigin hepoch => exact .running hserver horigin hepoch
  | asked hq hepoch => exact .asked hq hepoch

/-- What is pending for a follower stays when only the other followers change. -/
theorem Watched.of_followers {follower : Nat} {f : Follower} {followers : Array Follower}
    (hf : h.followers[follower]? = some f) (hsame : followers[follower]? = some f)
    (hw : h.Watched follower) :
  Watched { h with followers := followers } follower
  := by
  obtain ⟨f', hf', hposition, hpending⟩ := hw
  cases hf.symm.trans hf'
  exact ⟨f, hsame, hposition, fun hout => hpending (outdated_of_followers hout)⟩

theorem Watched.step (hg : h.Grounded options) {follower : Nat} (hw : h.Watched follower)
    (s : Step) :
  (h.step s).Watched follower
  := by
  cases s with
  | resolve s => exact hg.watched_resolve hw s
  | ask call => exact hg.watched_supervise hw _
  | enter call => exact hg.watched_supervise hw _
  | stopped call => exact hg.watched_supervise hw _
  | query =>
    rcases hg.query_cases with hs | ⟨-, hcurrent, hs⟩
    · rwa [hs]
    · obtain ⟨f, hf, hposition, -⟩ := hg.watched_resolve hw .enter
      rw [hs]
      exact ⟨f, hf, hposition, fun hout => absurd hout (not_outdated_look hcurrent)⟩
  | given call =>
    unfold History.step
    cases hgiven : h.given? with
    | none => exact hw
    | some result => exact hg.watched_supervise hw _
  | spawned call outcome => exact hg.watched_supervise hw _
  | watch =>
    obtain ⟨f, hf, -⟩ := id hw
    apply hw.of_followers hf
    rw [Array.getElem?_push, if_neg]
    · exact hf
    · exact Nat.ne_of_lt (Array.getElem?_eq_some_iff.mp hf).1
  | receive other =>
    rcases h.receive_cases other with hs | ⟨position, hother, hs⟩
    · rwa [hs]
    · rw [hs]
      by_cases hne : other = follower
      · subst hne
        obtain ⟨f, hf, hposition, -⟩ := hw
        cases hf.symm.trans hother
        exact watched_receive hother hposition
      · have hw := hg.watched_supervise hw (.ask .restart)
        obtain ⟨f, hf, -⟩ := id hw
        apply hw.of_followers hf
        rwa [Array.getElem?_setIfInBounds_ne hne]
  | resume other =>
    rcases h.resume_cases other with hs | ⟨position, call, hother, hover, hs⟩
    · rwa [hs]
    · rw [hs]
      by_cases hne : other = follower
      · subst hne
        obtain ⟨f, hf, hposition, hpending⟩ := hw
        cases hf.symm.trans hother
        refine ⟨_, Array.getElem?_setIfInBounds_self_of_lt
          (Array.getElem?_eq_some_iff.mp hother).1, hposition, fun hout => .inl ?_⟩
        rcases hpending (outdated_of_followers hout) with hp | ⟨call', hcall, hwaiting⟩
        · exact hp
        · cases hcall
          exact absurd hwaiting (hover _)
      · obtain ⟨f, hf, -⟩ := id hw
        apply hw.of_followers hf
        rwa [Array.getElem?_setIfInBounds_ne hne]

/-- A new follower has nothing to do with what is not outdated. -/
theorem watched_watch (hout : ¬ h.Outdated) :
  (h.step .watch).Watched h.followers.size
  := by
  refine ⟨_, Array.getElem?_push_size, Nat.le_refl _, fun hout' => ?_⟩
  exact absurd (outdated_of_followers hout') hout

theorem watched_after {earlier : List Step} (hout : ¬ (after options earlier).Outdated)
    (later : List Step) :
  (after options (earlier ++ [.watch] ++ later)).Watched (after options earlier).followers.size
  := by
  induction later using List.reverseRecOn with
  | nil =>
    rw [List.append_nil, after_concat]
    exact watched_watch hout
  | append_singleton later s ih =>
    rw [← List.append_assoc, after_concat]
    exact ih.step (grounded_after options _) s

/-- A follower waits for an announcement, and there is none. -/
def AtRest (h : History) (f : Follower) : Prop :=
  f.restart = none ∧ (receive h.resolver.resolver.announced f.position).1 = .nothing

/-- The server that runs, if one does, was started with what a probe of the current epoch has
found. -/
def UpToDate (h : History) (options : SupervisorOptions) : Prop :=
  ∀ server, h.supervisor.supervisor.current = some server →
    ∃ d, h.origins[server.number]? = some d
      ∧ h.resolver.resolver.Found d h.resolver.resolver.slot.epoch
      ∧ server.launch = launchOf options d

theorem Grounded.upToDate (hg : h.Grounded options) (hout : ¬ h.Outdated) :
  h.UpToDate options
  := by
  intro server hserver
  obtain ⟨d, e, horigin, hfound, hlaunch⟩ := hg.running hserver
  have hle : e ≤ h.resolver.resolver.slot.epoch := hg.resolver.resolver.probe hfound.2
  have hnot : ¬ e < h.resolver.resolver.slot.epoch := fun hlt =>
    hout ⟨e, hlt, .running hserver horigin hfound.2⟩
  obtain rfl : e = h.resolver.resolver.slot.epoch := by omega
  exact ⟨d, horigin, hfound, hlaunch⟩

/-- Let a follower begin to watch while nothing is outdated, in particular while no server runs and
none is being started.  Whatever happens then, whenever it is at rest the server that runs is up to
date.  A follower that has missed more than what is kept is told so once, and goes on with all that
is kept. -/
theorem upToDate_of_atRest (options : SupervisorOptions) (earlier later : List Step)
    (hout : ¬ (after options earlier).Outdated) :
  (∃ f, (after options (earlier ++ [.watch] ++ later)).followers[
        (after options earlier).followers.size]? = some f
      ∧ ((after options (earlier ++ [.watch] ++ later)).AtRest f →
        (after options (earlier ++ [.watch] ++ later)).UpToDate options))
    ∧ ∀ announced position, position + announcementsKept < Array.size announced →
      (∃ lost, receive announced position
        = (.lagged lost, announced.size - announcementsKept))
      ∧ ∀ (n : Nat) key, announced.size - announcementsKept ≤ n → announced[n]? = some key →
        receive announced n = (.change key, n + 1)
  := by
  constructor
  · obtain ⟨f, hf, -, hpending⟩ := watched_after hout later
    refine ⟨f, hf, ?_⟩
    rintro ⟨hrestart, hnothing⟩
    apply (grounded_after options _).upToDate
    intro hout'
    rcases hpending hout' with hp | ⟨call, hcall, -⟩
    · exact absurd hp (Nat.not_lt_of_le (size_le_of_nothing hnothing))
    · cases hrestart.symm.trans hcall
  · intro announced position hlagged
    exact receive_of_lagged hlagged

/-- A search goes on while the environment changes: what it finds is started all the same, and the
restart that the change has brought about then replaces it. -/
def overtaken : List Step :=
  [.ask .start, .enter 0, .query, .resolve (.invalidate "new"), .receive 0]
    ++ (Resolver.History.search 0).map .resolve
    ++ [.resolve (.leave 0), .given 0, .spawned 0 (.ok ()), .enter 1, .stopped 1, .query]
    ++ (Resolver.History.search 1).map .resolve
    ++ [.resolve (.leave 1), .given 1, .spawned 1 (.ok ()), .resume 0]

/-- The second server is the one that runs, and it is up to date. -/
theorem upToDate_of_atRest_overtaken :
  ∃ server d, (after ⟨false, []⟩ ([] ++ [.watch] ++ overtaken)).supervisor.supervisor.current
      = some server
    ∧ server.number = 1 ∧ server.launch = launchOf ⟨false, []⟩ d
    ∧ server.launch.command = ⟨"/env/bin/mojo-lsp-server"⟩
    ∧ server.launch.env = [("MODULAR_TELEMETRY_ENABLED", "false")]
    ∧ (after ⟨false, []⟩ ([] ++ [.watch] ++ overtaken)).resolver.resolver.Found d 1
  := by
  obtain ⟨⟨f, hf, hrest⟩, -⟩ := upToDate_of_atRest ⟨false, []⟩ [] overtaken
    (not_outdated_of_idle rfl rfl)
  obtain rfl : ⟨1, none⟩ = f := by
    have hfollower : (after ⟨false, []⟩ ([] ++ [.watch] ++ overtaken)).followers[0]?
        = some ⟨1, none⟩ := by
      decide +kernel
    exact Option.some.inj (hfollower.symm.trans hf)
  have hcurrent : (after ⟨false, []⟩ ([] ++ [.watch] ++ overtaken)).supervisor.supervisor.current
      = some ⟨1, .ofSdk (Sdk.packaged ⟨"/env"⟩ "linux") false []⟩ := by
    decide +kernel
  obtain ⟨d, -, hfound, hlaunch⟩ := hrest ⟨rfl, by decide +kernel⟩ _ hcurrent
  have hepoch :
      (after ⟨false, []⟩ ([] ++ [.watch] ++ overtaken)).resolver.resolver.slot.epoch = 1 := by
    decide +kernel
  rw [hepoch] at hfound
  exact ⟨_, d, hcurrent, rfl, hlaunch, by decide +kernel, by decide +kernel, hfound⟩

/-- A follower that begins to watch while a search goes on that a change has overtaken learns
nothing of the change: it is at rest while the server that is started then is outdated. -/
theorem late_follower :
  ∃ earlier later f, (after ⟨false, []⟩ earlier).supervisor.supervisor.starts = 0
    ∧ (after ⟨false, []⟩ (earlier ++ [.watch] ++ later)).followers[0]? = some f
    ∧ (after ⟨false, []⟩ (earlier ++ [.watch] ++ later)).AtRest f
    ∧ ¬ (after ⟨false, []⟩ (earlier ++ [.watch] ++ later)).UpToDate ⟨false, []⟩
  := by
  let earlier : List Step := [.ask .start, .enter 0, .query, .resolve (.invalidate "new")]
  let later : List Step := (Resolver.History.search 0).map .resolve
    ++ [.resolve (.leave 0), .given 0, .spawned 0 (.ok ())]
  refine ⟨earlier, later, ⟨1, none⟩, by decide +kernel, by decide +kernel,
    ⟨rfl, by decide +kernel⟩, ?_⟩
  intro hup
  have hcurrent : (after ⟨false, []⟩ (earlier ++ [.watch] ++ later)).supervisor.supervisor.current
      = some ⟨0, .ofSdk (Sdk.packaged ⟨"/env"⟩ "linux") false []⟩ := by
    decide +kernel
  obtain ⟨d, horigin, hfound, -⟩ := hup _ hcurrent
  have hold : ((after ⟨false, []⟩ (earlier ++ [.watch] ++ later)).origins[0]?).bind (fun d =>
      (after ⟨false, []⟩ (earlier ++ [.watch] ++ later)).resolver.resolver.epoch? d.number)
      = some 0 := by
    decide +kernel
  have hnew :
      (after ⟨false, []⟩ (earlier ++ [.watch] ++ later)).resolver.resolver.slot.epoch = 1 := by
    decide +kernel
  rw [horigin, Option.bind_some, hfound.2, hnew] at hold
  cases hold

end Watching.History

end MojoToolchain
