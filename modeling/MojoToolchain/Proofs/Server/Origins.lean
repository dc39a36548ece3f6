import MojoToolchain.Proofs.Server.Watching

/-!
# Where servers come from

Only the holder of the supervisor asks the resolver for the SDK, and it starts the server of the
descriptor that the resolver has returned to it.  So the server that runs was started with the
descriptor that is noted for it, which a probe of some epoch has found
(`Watching.History.Grounded`).
-/

namespace MojoToolchain

/-! ### The resolver -/

namespace Resolver.History

/-- An epoch is opened together with an announcement. -/
theorem announced_step (h : History) (s : Step) :
  (h.step s).resolver.slot.epoch = h.resolver.slot.epoch
      ∧ (h.step s).resolver.announced.size = h.resolver.announced.size
    ∨ (h.step s).resolver.announced.size = h.resolver.announced.size + 1
  := by
  rcases h.opens_or_stays s with ⟨key, -, -, hs⟩ | ⟨hepoch, hannounced⟩
  · right
    simp [hs, renew]
  · left
    rw [hannounced]
    exact ⟨hepoch, rfl⟩

end Resolver.History

namespace Watching.History

open Supervisor (Moved)

variable {options : SupervisorOptions} {h : History}

/-! ### Where servers come from -/

/-- The launch of the server of a descriptor: the language server of its SDK, with the variables of
that SDK. -/
def launchOf (options : SupervisorOptions) (d : Descriptor) : ServerLaunch where
  language := "mojo"
  command := d.sdk.tools.languageServer
  args := options.extraArgs
  env := d.sdk.environment options.telemetry
  extensions := ["mojo", "🔥"]
  rootPatterns := ["mojoproject.toml", "pixi.toml", "pyproject.toml", ".git"]

/-- The resolver and the supervisor keep their rules; what the holder of the supervisor starts is
the server of what its call of the resolver has returned, and the server that runs was started with
the descriptor that is noted for it. -/
structure Grounded (h : History) (options : SupervisorOptions) : Prop where
  resolver : h.resolver.Isolated
  supervisor : h.supervisor.Sound
  unchanged : h.supervisor.supervisor.options = options
  free : h.supervisor.supervisor.stage = none → h.query = none
  query : ∀ {query}, h.query = some query → ∃ e, h.resolver.entered? query = some e
  spawning : ∀ {launch}, h.supervisor.supervisor.stage = some (.spawning launch) →
    ∃ query e d, h.query = some query
      ∧ h.resolver.calls[query]? = some ⟨e, .returned (some d)⟩ ∧ launch = launchOf options d
  running : ∀ {server}, h.supervisor.supervisor.current = some server →
    ∃ d e, h.origins[server.number]? = some d ∧ h.resolver.resolver.Found d e
      ∧ server.launch = launchOf options d
  starts : h.origins.length = h.supervisor.supervisor.starts

theorem grounded_fresh (options : SupervisorOptions) :
  (fresh options).Grounded options
  := by
  constructor
  · exact Resolver.History.isolated_after []
  · exact Supervisor.History.sound_fresh options
  · rfl
  · exact fun _ => rfl
  · rintro query ⟨⟩
  · rintro launch ⟨⟩
  · rintro server ⟨⟩
  · rfl

/-- While the supervisor is held no server runs. -/
theorem Grounded.current_eq_none (hg : h.Grounded options) {stage : Stage}
    (hstage : h.supervisor.supervisor.stage = some stage) :
  h.supervisor.supervisor.current = none
  := by
  cases hg.supervisor.turn with
  | free hs _ => cases hs.free.symm.trans hstage
  | held _ _ hs _ => exact hs.held.1

theorem Grounded.resolve (hg : h.Grounded options) (s : Resolver.Step) :
  Grounded { h with resolver := h.resolver.step s } options
  := by
  constructor
  · exact hg.resolver.step s
  · exact hg.supervisor
  · exact hg.unchanged
  · exact hg.free
  · intro query hq
    obtain ⟨e, he⟩ := hg.query hq
    exact ⟨e, (h.resolver.goesOn_step s).old he⟩
  · intro launch hl
    obtain ⟨query, e, d, hq, hd, rfl⟩ := hg.spawning hl
    exact ⟨query, e, d, hq, Resolver.History.returned_step hd s, rfl⟩
  · intro server hserver
    obtain ⟨d, e, hd, hfound, hlaunch⟩ := hg.running hserver
    exact ⟨d, e, hd, (h.resolver.keeps_step s).found hfound, hlaunch⟩
  · exact hg.starts

/-- What the resolver has returned to the holder of the supervisor. -/
theorem given?_of_returned {query e : Nat} {result : Option Descriptor} (hq : h.query = some query)
    (hresult : h.resolver.calls[query]? = some ⟨e, .returned result⟩) :
  h.given? = some result
  := by
  simp [given?, hq, hresult]

theorem given?_eq_some {result : Option Descriptor} (hgiven : h.given? = some result) :
  ∃ query e, h.query = some query
    ∧ h.resolver.calls[query]? = some ⟨e, .returned result⟩
  := by
  obtain ⟨query, hq, hcall⟩ := Option.bind_eq_some_iff.mp hgiven
  split at hcall
  · next e result' hv =>
    cases hcall
    exact ⟨query, e, hq, hv⟩
  · cases hcall

/-- A step of the supervisor brings no SDK but what the resolver has returned. -/
def Brings (h : History) (s : Supervisor.Step) : Prop :=
  ∀ sdk, s.sdk? = some sdk → ∃ d : Descriptor, h.given? = some (some d) ∧ sdk = d.sdk

theorem query_supervise {s : Supervisor.Step} {query : Nat}
    (hq : (h.supervise s).query = some query) :
  h.query = some query
  := by
  unfold supervise at hq
  dsimp only at hq
  split at hq
  · cases hq
  · exact hq

theorem query_supervise_of_held {s : Supervisor.Step} {stage : Stage}
    (hstage : (h.supervisor.step s).supervisor.stage = some stage) :
  (h.supervise s).query = h.query
  := by
  simp [supervise, hstage]

/-- A server is started with what the resolver has returned to the holder of the supervisor, and its
descriptor is noted.  Nothing is noted otherwise, and the server that runs is the one that ran
before. -/
theorem Grounded.supervise_cases (hg : h.Grounded options) (s : Supervisor.Step) :
  ((h.supervise s).origins = h.origins
      ∧ (h.supervise s).supervisor.supervisor.starts = h.supervisor.supervisor.starts
      ∧ ∀ server, (h.supervise s).supervisor.supervisor.current = some server →
        h.supervisor.supervisor.current = some server)
    ∨ ∃ query e d, h.query = some query
      ∧ h.resolver.calls[query]? = some ⟨e, .returned (some d)⟩
      ∧ (h.supervise s).origins = h.origins ++ [d]
      ∧ (h.supervise s).supervisor.supervisor.starts = h.supervisor.supervisor.starts + 1
      ∧ (h.supervise s).supervisor.supervisor.current
        = some ⟨h.origins.length, launchOf options d⟩
  := by
  have hmoved := hg.supervisor.moved s
  unfold supervise
  dsimp only
  generalize (h.supervisor.step s).supervisor = now at hmoved ⊢
  cases hmoved with
  | rest =>
    rw [if_neg (Nat.lt_irrefl _)]
    exact .inl ⟨rfl, rfl, fun _ hserver => hserver⟩
  | cleared alive hstage =>
    rw [if_neg (Nat.lt_irrefl _)]
    exact .inl ⟨rfl, rfl, fun _ hserver => by cases hserver⟩
  | launching hsdk =>
    rw [if_neg (Nat.lt_irrefl _)]
    exact .inl ⟨rfl, rfl, fun _ hserver => hserver⟩
  | started hstage =>
    obtain ⟨query, e, d, hq, hd, rfl⟩ := hg.spawning hstage
    refine .inr ⟨query, e, d, hq, hd, ?_, rfl, ?_⟩
    · apply (if_pos (Nat.lt_succ_self _)).trans
      rw [given?_of_returned hq hd]
      rfl
    · rw [hg.starts]
      rfl

theorem Grounded.spawning_supervise (hg : h.Grounded options) {s : Supervisor.Step}
    (hs : h.Brings s) {launch : ServerLaunch}
    (hstage : (h.supervise s).supervisor.supervisor.stage = some (.spawning launch)) :
  ∃ query e d, (h.supervise s).query = some query
    ∧ h.resolver.calls[query]? = some ⟨e, .returned (some d)⟩ ∧ launch = launchOf options d
  := by
  rw [query_supervise_of_held hstage]
  have hmoved := hg.supervisor.moved s
  change (h.supervisor.step s).supervisor.stage = _ at hstage
  generalize (h.supervisor.step s).supervisor = now at hmoved hstage
  cases hmoved with
  | rest => exact hg.spawning hstage
  | cleared alive hnot => exact absurd hstage (hnot launch)
  | launching hsdk =>
    cases hstage
    obtain ⟨d, hgiven, rfl⟩ := hs _ hsdk
    obtain ⟨query, e, hq, hd⟩ := given?_eq_some hgiven
    use query, e, d, hq, hd
    rw [← hg.unchanged]
    rfl
  | started => cases hstage

theorem Grounded.running_supervise (hg : h.Grounded options) {s : Supervisor.Step}
    {server : Server} (hserver : (h.supervise s).supervisor.supervisor.current = some server) :
  ∃ d e, (h.supervise s).origins[server.number]? = some d ∧ h.resolver.resolver.Found d e
    ∧ server.launch = launchOf options d
  := by
  rcases hg.supervise_cases s with ⟨ho, -, hsame⟩ | ⟨query, e, d, -, hd, ho, -, hnew⟩
  · rw [ho]
    exact hg.running (hsame server hserver)
  · cases hserver.symm.trans hnew
    rw [ho]
    exact ⟨d, e, List.getElem?_concat_length, hg.resolver.found_of_returned hd, rfl⟩

theorem Grounded.starts_supervise (hg : h.Grounded options) (s : Supervisor.Step) :
  (h.supervise s).origins.length = (h.supervise s).supervisor.supervisor.starts
  := by
  rcases hg.supervise_cases s with ⟨ho, hstarts, -⟩ | ⟨query, e, d, -, -, ho, hstarts, -⟩
  · rw [ho, hstarts, hg.starts]
  · rw [ho, hstarts, List.length_append, hg.starts]
    rfl

theorem Grounded.supervise (hg : h.Grounded options) {s : Supervisor.Step} (hs : h.Brings s) :
  (h.supervise s).Grounded options
  := by
  constructor
  · exact hg.resolver
  · exact hg.supervisor.step s
  · rw [← hg.unchanged]
    have hmoved := hg.supervisor.moved s
    change (h.supervisor.step s).supervisor.options = _
    generalize (h.supervisor.step s).supervisor = now at hmoved
    cases hmoved <;> rfl
  · exact fun hfree => if_pos hfree
  · exact fun hq => hg.query (query_supervise hq)
  · exact hg.spawning_supervise hs
  · exact hg.running_supervise
  · exact hg.starts_supervise s

/-- The holder of the supervisor looks for the SDK with a new call of the resolver. -/
def look (h : History) : History :=
  { h with resolver := h.resolver.step .enter, query := some h.resolver.calls.size }

/-- Only the holder of the supervisor looks for the SDK, and no server runs then. -/
theorem Grounded.query_cases (hg : h.Grounded options) :
  h.step .query = h
    ∨ h.supervisor.supervisor.stage = some .resolving ∧ h.supervisor.supervisor.current = none
      ∧ h.step .query = h.look
  := by
  unfold step
  dsimp only
  split
  · next hcan => exact .inr ⟨hcan.1, hg.current_eq_none hcan.1, rfl⟩
  · exact .inl rfl

theorem Grounded.look (hg : h.Grounded options)
    (hstage : h.supervisor.supervisor.stage = some .resolving) :
  h.look.Grounded options
  := by
  have hresolve := hg.resolve .enter
  constructor
  · exact hresolve.resolver
  · exact hresolve.supervisor
  · exact hresolve.unchanged
  · intro hfree
    cases hfree.symm.trans hstage
  · rintro query ⟨⟩
    use h.resolver.resolver.slot.epoch
    apply (h.resolver.entered?_enter _).trans (if_pos rfl)
  · intro launch hl
    cases hl.symm.trans hstage
  · exact hresolve.running
  · exact hresolve.starts

/-- Followers may come and go on. -/
theorem Grounded.of_followers (hg : h.Grounded options) (followers : Array Follower) :
  Grounded { h with followers := followers } options
  where
  resolver := hg.resolver
  supervisor := hg.supervisor
  unchanged := hg.unchanged
  free := hg.free
  query := hg.query
  spawning := hg.spawning
  running := hg.running
  starts := hg.starts

theorem brings_of_none {s : Supervisor.Step} (hs : s.sdk? = none) :
  h.Brings s
  := by
  intro sdk hsdk
  cases hs.symm.trans hsdk

theorem brings_given {result : Option Descriptor} (hgiven : h.given? = some result) (call : Nat) :
  h.Brings (.proceed call (.resolved (result.map Descriptor.sdk)))
  := by
  intro sdk hsdk
  obtain ⟨d, rfl, rfl⟩ := Option.map_eq_some_iff.mp hsdk
  exact ⟨d, hgiven, rfl⟩

/-- A follower does nothing, or it takes what is announced and asks for a restart. -/
theorem receive_cases (h : History) (follower : Nat) :
  h.step (.receive follower) = h
    ∨ ∃ position, h.followers[follower]? = some ⟨position, none⟩
      ∧ h.step (.receive follower)
        = { h.supervise (.ask .restart) with
            followers := h.followers.setIfInBounds follower
              ⟨(receive h.resolver.resolver.announced position).2,
                some h.supervisor.calls.size⟩ }
  := by
  unfold step
  dsimp only
  split
  · next position hf =>
    split
    · exact .inl rfl
    · next received position' _ hr => exact .inr ⟨position, hf, by rw [hr]⟩
  · exact .inl rfl

/-- A follower does nothing, or its restart is over. -/
theorem resume_cases (h : History) (follower : Nat) :
  h.step (.resume follower) = h
    ∨ ∃ position call, h.followers[follower]? = some ⟨position, some call⟩
      ∧ (∀ c, h.supervisor.calls[call]? ≠ some ⟨c, .waiting⟩)
      ∧ h.step (.resume follower)
        = { h with followers := h.followers.setIfInBounds follower ⟨position, none⟩ }
  := by
  unfold step
  dsimp only
  split
  · next position call hf =>
    split
    · next hover =>
      refine .inr ⟨position, call, hf, ?_, rfl⟩
      intro c hc
      simp [isOver, hc] at hover
    · exact .inl rfl
  · exact .inl rfl

theorem Grounded.step (hg : h.Grounded options) (s : Step) :
  (h.step s).Grounded options
  := by
  cases s with
  | resolve s => exact hg.resolve s
  | ask call => exact hg.supervise (brings_of_none rfl)
  | enter call => exact hg.supervise (brings_of_none rfl)
  | stopped call => exact hg.supervise (brings_of_none rfl)
  | query =>
    rcases hg.query_cases with hs | ⟨hstage, -, hs⟩
    · rwa [hs]
    · rw [hs]
      exact hg.look hstage
  | given call =>
    unfold History.step
    cases hgiven : h.given? with
    | none => exact hg
    | some result => exact hg.supervise (brings_given hgiven call)
  | spawned call outcome => exact hg.supervise (brings_of_none rfl)
  | watch => exact hg.of_followers _
  | receive follower =>
    rcases h.receive_cases follower with hs | ⟨position, -, hs⟩
    · rwa [hs]
    · rw [hs]
      have hask : h.Brings (.ask .restart) := brings_of_none rfl
      exact (hg.supervise hask).of_followers _
  | resume follower =>
    rcases h.resume_cases follower with hs | ⟨position, call, -, -, hs⟩
    · rwa [hs]
    · rw [hs]
      exact hg.of_followers _

theorem grounded_after (options : SupervisorOptions) (steps : List Step) :
  (after options steps).Grounded options
  := by
  induction steps using List.reverseRecOn with
  | nil => exact grounded_fresh options
  | append_singleton steps s ih =>
    rw [after_concat]
    exact ih.step s

end Watching.History

end MojoToolchain
