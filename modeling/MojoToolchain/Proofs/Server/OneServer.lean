import MojoToolchain.Proofs.Server.History
import MojoToolchain.Sdk.Probe

/-!
# One server at a time

A call that gets a supervisor finds it settled: what was started and not stopped is the server
that runs, if one does.  `Supervisor.Underway` says what the call has made of it while it waits,
and `Supervisor.Served` how it leaves it; every event leads from the one to the other.  So there is
never a second server, and each start in the record of a history (`Supervisor.Accounted`) comes
after the stop of every server that was started before.
-/

namespace MojoToolchain.Supervisor

/-! ### What a call does -/

/-- Nobody holds the supervisor, and what was started and not stopped is the server that runs. -/
structure Settled (s : Supervisor) : Prop where
  free : s.stage = none
  alive : s.alive = s.current.toList

/-- The supervisor when its server is stopped. -/
def cleared (s : Supervisor) : Supervisor := { s with current := none, alive := [] }

/-- The supervisor when a server is started. -/
def running (s : Supervisor) (launch : ServerLaunch) : Supervisor :=
  { s with
    current := some (s.newServer launch)
    alive := s.newServer launch :: s.alive
    starts := s.starts + 1 }

/-- A call starts a server: a restart does, and a start when no server runs. -/
def Starts (s : Supervisor) : SupervisorCall → Prop
  | .start => s.current = none
  | .stop => False
  | .restart => True

/-- What a call that waits has made of a supervisor that it has found settled. -/
inductive Underway (before : Supervisor) : SupervisorCall → Supervisor → Prop
  | stopping {server : Server} (hserver : before.current = some server) :
      Underway before .stop
        { before with current := none, stage := some (.stopping server false) }
  | replacing {server : Server} (hserver : before.current = some server) :
      Underway before .restart
        { before with current := none, stage := some (.stopping server true) }
  | resolving {call : SupervisorCall} (hcall : before.Starts call) :
      Underway before call { before.cleared with stage := some .resolving }
  | spawning {call : SupervisorCall} (hcall : before.Starts call) (launch : ServerLaunch) :
      Underway before call { before.cleared with stage := some (.spawning launch) }

/-- How a call leaves a supervisor that it has found settled. -/
inductive Served (before : Supervisor) : SupervisorCall → Supervisor → CallResult → Prop
  | kept (hrunning : before.isRunning) : Served before .start before (.ok ())
  | stopped : Served before .stop before.cleared (.ok ())
  | failed {call : SupervisorCall} (hcall : before.Starts call) (e : ToolError) :
      Served before call before.cleared (.error e)
  | started {call : SupervisorCall} (hcall : before.Starts call) (launch : ServerLaunch) :
      Served before call (before.cleared.running launch) (.ok ())

/-- What a call makes of a supervisor that it has found settled, whether it is over or not. -/
def Serving (before : Supervisor) (call : SupervisorCall) :
    Option CallResult × Supervisor → Prop
  | (none, s) => Underway before call s
  | (some result, s) => Served before call s result

variable {s before now : Supervisor} {call : SupervisorCall} {result : CallResult}

theorem cleared_of_not_running (h : s.Settled) (hc : s.current = none) :
  s.cleared = s
  := by
  have halive : s.alive = [] := by rw [h.alive, hc, Option.toList_none]
  rw [cleared, ← hc, ← halive]

theorem free_of_settled (h : s.Settled) :
  { s with stage := none } = s
  := by
  rw [← h.free]

/-- A call that is over at once leaves a settled supervisor as it is. -/
theorem finish_of_settled (h : s.Settled) (result : CallResult) :
  s.finish result = (some result, s)
  := by
  rw [finish, free_of_settled h]

theorem settled_cleared (h : s.Settled) :
  s.cleared.Settled
  := ⟨h.free, rfl⟩

theorem settled_running (h : s.Settled) (launch : ServerLaunch) :
  (s.cleared.running launch).Settled
  := ⟨h.free, rfl⟩

/-- A call that gets a settled supervisor. -/
theorem serving_enter (h : s.Settled) (call : SupervisorCall) :
  s.Serving call (s.enter call)
  := by
  have hfinish := finish_of_settled h
  cases hc : s.current with
  | none =>
    have hclear := cleared_of_not_running h hc
    cases call with
    | start =>
      have hs : Underway s .start { s.cleared with stage := some .resolving } := .resolving hc
      rw [hclear] at hs
      simpa only [enter, hc, await, Serving] using hs
    | stop =>
      have hs : Served s .stop s.cleared (.ok ()) := .stopped
      rw [hclear] at hs
      simpa only [enter, hc, hfinish, Serving] using hs
    | restart =>
      have hs : Underway s .restart { s.cleared with stage := some .resolving } :=
        .resolving trivial
      rw [hclear] at hs
      simpa only [enter, hc, await, Serving] using hs
  | some server =>
    cases call with
    | start =>
      have hrunning : s.isRunning := by simp [isRunning, hc]
      simpa only [enter, hc, hfinish, Serving] using Served.kept hrunning
    | stop => simpa only [enter, hc, await, Serving] using Underway.stopping hc
    | restart => simpa only [enter, hc, await, Serving] using Underway.replacing hc

/-- The holder of a supervisor goes on: each event that it waits for brings it further, and any
other one changes nothing. -/
theorem Underway.serving_step (h : Underway before call s) (hbefore : before.Settled)
    (event : Event) :
  before.Serving call (s.step event)
  := by
  have hfree : { before.cleared with stage := none } = before.cleared :=
    free_of_settled (settled_cleared hbefore)
  cases h with
  | @stopping server hserver =>
    cases event with
    | stopped =>
      have hs : Served before .stop before.cleared (.ok ()) := .stopped
      rw [← hfree] at hs
      simpa [step, finish, Serving, hbefore.alive, hserver, cleared] using hs
    | resolved sdk => exact .stopping hserver
    | spawned outcome => exact .stopping hserver
  | @replacing server hserver =>
    cases event with
    | stopped =>
      have hs : Underway before .restart { before.cleared with stage := some .resolving } :=
        .resolving trivial
      simpa [step, await, Serving, hbefore.alive, hserver, cleared] using hs
    | resolved sdk => exact .replacing hserver
    | spawned outcome => exact .replacing hserver
  | resolving hcall =>
    cases event with
    | stopped => exact .resolving hcall
    | resolved sdk =>
      cases sdk with
      | none =>
        have hs := Served.failed hcall .noSdk
        rwa [← hfree] at hs
      | some sdk => exact .spawning hcall (before.launchOf sdk)
    | spawned outcome => exact .resolving hcall
  | spawning hcall launch =>
    cases event with
    | stopped => exact .spawning hcall launch
    | resolved sdk => exact .spawning hcall launch
    | spawned outcome =>
      cases outcome with
      | error fault =>
        have hs := Served.failed hcall (.spawn launch.command fault)
        rwa [← hfree] at hs
      | ok =>
        have hs := Served.started hcall launch
        rwa [← hfree] at hs

theorem Served.settled (h : Served before call now result) (hbefore : before.Settled) :
  now.Settled
  := by
  cases h with
  | kept => exact hbefore
  | stopped => exact settled_cleared hbefore
  | failed => exact settled_cleared hbefore
  | started hcall launch => exact settled_running hbefore launch

/-- A supervisor that is held has a stage, and no server runs. -/
theorem Underway.held (h : Underway before call s) :
  s.current = none ∧ s.stage ≠ none
  := by
  cases h <;> exact ⟨rfl, by simp⟩

/-! ### Whose turn it is -/

namespace History

/-- Nobody holds the supervisor, or one call does. -/
inductive Turn (h : History) : Prop
  | free (hs : h.supervisor.Settled)
      (hnone : ∀ {n : Nat} {call before}, h.calls[n]? ≠ some ⟨call, .holding before⟩) : Turn h
  | held {holder : Nat} {call : SupervisorCall} {before : Supervisor}
      (hholder : h.calls[holder]? = some ⟨call, .holding before⟩) (hbefore : before.Settled)
      (hs : Underway before call h.supervisor)
      (honly : ∀ {n : Nat} {call before},
        h.calls[n]? = some ⟨call, .holding before⟩ → n = holder) : Turn h

/-- The supervisor is held exactly while a call holds it. -/
theorem Turn.free_iff {h : History} (hturn : h.Turn) :
  h.supervisor.stage = none ↔ ∀ (n : Nat) call before, h.calls[n]? ≠ some ⟨call, .holding before⟩
  := by
  cases hturn with
  | free hs hnone => exact ⟨fun _ _ _ _ => hnone, fun _ => hs.free⟩
  | held hholder _ hs _ =>
    constructor
    · intro hfree
      exact absurd hfree hs.held.2
    · intro hnone
      exact absurd hholder (hnone _ _ _)

theorem Turn.settled {h : History} (hturn : h.Turn) (hfree : h.supervisor.stage = none) :
  h.supervisor.Settled
  := by
  cases hturn with
  | free hs _ => exact hs
  | held _ _ hs _ => exact absurd hfree hs.held.2

/-- A call that holds the supervisor. -/
theorem Turn.underway {h : History} (hturn : h.Turn) {n : Nat} {call : SupervisorCall}
    {before : Supervisor} (hn : h.calls[n]? = some ⟨call, .holding before⟩) :
  before.Settled ∧ Underway before call h.supervisor
    ∧ ∀ {m : Nat} {call before}, h.calls[m]? = some ⟨call, .holding before⟩ → m = n
  := by
  cases hturn with
  | free _ hnone => exact absurd hn hnone
  | held hholder hbefore hs honly =>
    obtain rfl := honly hn
    cases hholder.symm.trans hn
    exact ⟨hbefore, hs, honly⟩

/-- A call goes on while no other one holds the supervisor. -/
theorem Turn.goOn {h : History} {n : Nat} {v : Visit} (hv : h.calls[n]? = some v)
    (hbefore : before.Settled)
    (hothers : ∀ {m : Nat} {call before}, h.calls[m]? = some ⟨call, .holding before⟩ → m = n)
    {outcome : Option CallResult × Supervisor} (hserving : before.Serving call outcome) :
  (h.goOn n call before outcome).Turn
  := by
  have hself := goOn_calls_self hv call before outcome
  have honly {m : Nat} {call' before'}
      (hm : (h.goOn n call before outcome).calls[m]? = some ⟨call', .holding before'⟩) :
      m = n := by
    by_contra hne
    rw [goOn_calls_of_ne h hne] at hm
    exact hne (hothers hm)
  obtain ⟨_ | result, s⟩ := outcome
  · exact .held hself hbefore hserving honly
  · apply Turn.free
    · apply Served.settled hserving hbefore
    · intro m call' before' hm
      obtain rfl := honly hm
      cases hself.symm.trans hm

theorem Turn.step {h : History} (hturn : h.Turn) (s : Step) :
  (h.step s).Turn
  := by
  cases s with
  | ask call =>
    have hpush {n : Nat} {call' before}
        (hn : (h.step (.ask call)).calls[n]? = some ⟨call', .holding before⟩) :
        h.calls[n]? = some ⟨call', .holding before⟩ := by
      rw [History.step, Array.getElem?_push] at hn
      split at hn
      · cases hn
      · exact hn
    cases hturn with
    | free hs hnone => exact .free hs fun hn => hnone (hpush hn)
    | @held holder _ _ hholder hbefore hs honly =>
      have hstill : (h.step (.ask call)).calls[holder]? = h.calls[holder]? := by
        rw [History.step, Array.getElem?_push, if_neg]
        exact Nat.ne_of_lt (Array.getElem?_eq_some_iff.mp hholder).1
      exact .held (hstill.trans hholder) hbefore hs fun hn => honly (hpush hn)
  | enter n =>
    rcases h.enter_cases n with hs | ⟨call, hfree, hcall, hs⟩
    · rwa [hs]
    · rw [hs]
      apply Turn.goOn hcall (hturn.settled hfree)
      · intro m call' before' hm
        exact absurd hm (hturn.free_iff.mp hfree m call' before')
      · apply serving_enter (hturn.settled hfree)
  | proceed n event =>
    rcases h.proceed_cases n event with hs | ⟨call, before, hcall, hs⟩
    · rwa [hs]
    · obtain ⟨hbefore, hunderway, honly⟩ := hturn.underway hcall
      rw [hs]
      apply Turn.goOn (h := { h with deeds := h.deeds ++ (h.supervisor.deed? event).toList })
        hcall hbefore honly (hunderway.serving_step hbefore event)

/-! ### Calls that are over -/

/-- Every call that is over has found a settled supervisor and has done what it is for. -/
def Kept (h : History) : Prop :=
  ∀ (n : Nat) call before now result,
    h.calls[n]? = some ⟨call, .returned before now result⟩ →
    before.Settled ∧ Served before call now result

theorem Kept.goOn {h : History} (hkept : h.Kept) {n : Nat} {v : Visit}
    (hv : h.calls[n]? = some v) (hbefore : before.Settled)
    {outcome : Option CallResult × Supervisor} (hserving : before.Serving call outcome) :
  (h.goOn n call before outcome).Kept
  := by
  intro m call' before' now' result' hm
  by_cases hne : m = n
  · subst hne
    have hself := goOn_calls_self hv call before outcome
    obtain ⟨_ | result, s⟩ := outcome
    · cases hself.symm.trans hm
    · cases hself.symm.trans hm
      exact ⟨hbefore, hserving⟩
  · rw [goOn_calls_of_ne h hne] at hm
    exact hkept m call' before' now' result' hm

theorem Kept.step {h : History} (hkept : h.Kept) (hturn : h.Turn) (s : Step) :
  (h.step s).Kept
  := by
  cases s with
  | ask call =>
    intro n call' before now result hn
    rw [History.step, Array.getElem?_push] at hn
    split at hn
    · cases hn
    · exact hkept n call' before now result hn
  | enter n =>
    rcases h.enter_cases n with hs | ⟨call, hfree, hcall, hs⟩
    · rwa [hs]
    · rw [hs]
      exact hkept.goOn hcall (hturn.settled hfree) (serving_enter (hturn.settled hfree) call)
  | proceed n event =>
    rcases h.proceed_cases n event with hs | ⟨call, before, hcall, hs⟩
    · rwa [hs]
    · obtain ⟨hbefore, hunderway, -⟩ := hturn.underway hcall
      rw [hs]
      apply Kept.goOn (h := { h with deeds := h.deeds ++ (h.supervisor.deed? event).toList })
        hkept hcall hbefore (hunderway.serving_step hbefore event)

end History

/-! ### The record -/

/-- A supervisor answers for a record of what was done with servers: what was started and not
stopped is alive, starts are counted, and each start comes after the stops of all servers that
were started before. -/
structure Accounted (s : Supervisor) (deeds : List Deed) : Prop where
  alive : ∀ server, server ∈ s.alive ↔ .started server ∈ deeds ∧ .stopped server ∉ deeds
  started : ∀ server, .stopped server ∈ deeds → .started server ∈ deeds
  number : ∀ server, .started server ∈ deeds → server.number < s.starts
  starts : s.starts = deeds.countP Deed.isStart
  order : ∀ earlier server, earlier ++ [.started server] <+: deeds →
    ∀ other, .started other ∈ earlier → .stopped other ∈ earlier

theorem accounted_fresh (options : SupervisorOptions) :
  (fresh options).Accounted []
  := by
  constructor
  · simp [fresh]
  · simp
  · simp
  · rfl
  · simp

/-- Only the servers that are alive and the count of starts matter. -/
theorem Accounted.of_eq {deeds : List Deed} (h : s.Accounted deeds) (halive : now.alive = s.alive)
    (hstarts : now.starts = s.starts) :
  now.Accounted deeds
  := by
  constructor
  · rw [halive]
    exact h.alive
  · exact h.started
  · rw [hstarts]
    exact h.number
  · rw [hstarts]
    exact h.starts
  · exact h.order

theorem Accounted.enter {deeds : List Deed} (h : s.Accounted deeds) (call : SupervisorCall) :
  (s.enter call).2.Accounted deeds
  := by
  have hsame : (s.enter call).2.alive = s.alive ∧ (s.enter call).2.starts = s.starts := by
    cases call <;> cases hc : s.current <;> simp [Supervisor.enter, hc, await, finish]
  exact h.of_eq hsame.1 hsame.2

/-- The only server is stopped. -/
theorem Accounted.stop {deeds : List Deed} (h : s.Accounted deeds) {server : Server}
    (halive : s.alive = [server]) (hnow : now.alive = []) (hstarts : now.starts = s.starts) :
  now.Accounted (deeds ++ [.stopped server])
  := by
  have hserver := (h.alive server).mp (by simp [halive])
  constructor
  · intro other
    have hother := h.alive other
    rw [halive, List.mem_singleton] at hother
    simp only [hnow, List.not_mem_nil, List.mem_append, List.mem_singleton, Deed.stopped.injEq,
      reduceCtorEq, or_false, not_or, false_iff, not_and, not_not]
    intro hstarted hnot
    exact hother.mpr ⟨hstarted, hnot⟩
  · intro other hother
    rcases List.mem_append.mp hother with hother | hother
    · exact List.mem_append_left _ (h.started other hother)
    · cases List.mem_singleton.mp hother
      exact List.mem_append_left _ hserver.1
  · intro other hother
    rw [hstarts]
    rcases List.mem_append.mp hother with hother | hother
    · exact h.number other hother
    · cases List.mem_singleton.mp hother
  · rw [hstarts, h.starts, List.countP_append]
    rfl
  · intro earlier other hprefix
    rcases List.prefix_concat_iff.mp hprefix with heq | hprefix
    · cases (List.append_inj' heq rfl).2
    · exact h.order earlier other hprefix

/-- A server is started when none is alive. -/
theorem Accounted.start {deeds : List Deed} (h : s.Accounted deeds) (halive : s.alive = [])
    (launch : ServerLaunch) (hnow : now.alive = [s.newServer launch])
    (hstarts : now.starts = s.starts + 1) :
  now.Accounted (deeds ++ [.started (s.newServer launch)])
  := by
  have hnew : .started (s.newServer launch) ∉ deeds := fun hmem =>
    Nat.lt_irrefl _ (h.number _ hmem)
  have hstopped : ∀ other, .started other ∈ deeds → .stopped other ∈ deeds := by
    intro other hother
    by_contra hnot
    have hmem := (h.alive other).mpr ⟨hother, hnot⟩
    rw [halive] at hmem
    cases hmem
  constructor
  · intro other
    rw [hnow, List.mem_singleton]
    simp only [List.mem_append, List.mem_singleton, Deed.started.injEq, reduceCtorEq, or_false]
    constructor
    · rintro rfl
      exact ⟨.inr rfl, fun hmem => hnew (h.started _ hmem)⟩
    · rintro ⟨hother | hother, hnot⟩
      · exact absurd (hstopped other hother) hnot
      · exact hother
  · intro other hother
    rcases List.mem_append.mp hother with hother | hother
    · exact List.mem_append_left _ (h.started other hother)
    · cases List.mem_singleton.mp hother
  · intro other hother
    rw [hstarts]
    rcases List.mem_append.mp hother with hother | hother
    · exact Nat.lt_succ_of_lt (h.number other hother)
    · cases List.mem_singleton.mp hother
      exact Nat.lt_succ_self _
  · rw [hstarts, h.starts, List.countP_append]
    rfl
  · intro earlier server hprefix
    rcases List.prefix_concat_iff.mp hprefix with heq | hprefix
    · obtain ⟨rfl, -⟩ := List.append_inj' heq rfl
      exact hstopped
    · exact h.order earlier server hprefix

/-- What happens to the holder of a supervisor is recorded. -/
theorem Accounted.step {deeds : List Deed} (h : s.Accounted deeds) (hs : Underway before call s)
    (hbefore : before.Settled) (event : Event) :
  (s.step event).2.Accounted (deeds ++ (s.deed? event).toList)
  := by
  have hquiet (hdeed : s.deed? event = none) (halive : (s.step event).2.alive = s.alive)
      (hstarts : (s.step event).2.starts = s.starts) :
      (s.step event).2.Accounted (deeds ++ (s.deed? event).toList) := by
    rw [hdeed, Option.toList_none, List.append_nil]
    exact h.of_eq halive hstarts
  cases hs with
  | @stopping server hserver =>
    have halive : before.alive = [server] := by rw [hbefore.alive, hserver, Option.toList_some]
    cases event with
    | stopped =>
      apply h.stop halive
      · simp [Supervisor.step, finish, halive]
      · rfl
    | resolved sdk => exact hquiet rfl rfl rfl
    | spawned outcome => exact hquiet rfl rfl rfl
  | @replacing server hserver =>
    have halive : before.alive = [server] := by rw [hbefore.alive, hserver, Option.toList_some]
    cases event with
    | stopped =>
      apply h.stop halive
      · simp [Supervisor.step, await, halive]
      · rfl
    | resolved sdk => exact hquiet rfl rfl rfl
    | spawned outcome => exact hquiet rfl rfl rfl
  | resolving hcall =>
    cases event with
    | stopped => exact hquiet rfl rfl rfl
    | resolved sdk => cases sdk <;> exact hquiet rfl rfl rfl
    | spawned outcome => exact hquiet rfl rfl rfl
  | spawning hcall launch =>
    cases event with
    | stopped => exact hquiet rfl rfl rfl
    | resolved sdk => exact hquiet rfl rfl rfl
    | spawned outcome =>
      cases outcome with
      | error fault => exact hquiet rfl rfl rfl
      | ok => exact h.start rfl launch rfl rfl

/-! ### Histories -/

namespace History

/-- At most one call holds the supervisor, the calls that are over have done what they are for,
and the record is right. -/
structure Sound (h : History) : Prop where
  turn : h.Turn
  kept : h.Kept
  accounted : h.supervisor.Accounted h.deeds

theorem sound_fresh (options : SupervisorOptions) :
  (fresh options).Sound
  := by
  constructor
  · apply Turn.free ⟨rfl, rfl⟩
    intro n call before hn
    cases hn
  · intro n call before now result hn
    cases hn
  · exact accounted_fresh options

theorem Sound.step {h : History} (hsound : h.Sound) (s : Step) :
  (h.step s).Sound
  := by
  use hsound.turn.step s, hsound.kept.step hsound.turn s
  cases s with
  | ask call => exact hsound.accounted
  | enter n =>
    rcases h.enter_cases n with hs | ⟨call, -, -, hs⟩
    · rw [hs]
      exact hsound.accounted
    · rw [hs]
      exact hsound.accounted.enter call
  | proceed n event =>
    rcases h.proceed_cases n event with hs | ⟨call, before, hcall, hs⟩
    · rw [hs]
      exact hsound.accounted
    · obtain ⟨hbefore, hunderway, -⟩ := hsound.turn.underway hcall
      rw [hs]
      exact hsound.accounted.step hunderway hbefore event

theorem sound_after (options : SupervisorOptions) (steps : List Step) :
  (after options steps).Sound
  := by
  induction steps using List.reverseRecOn with
  | nil => exact sound_fresh options
  | append_singleton steps s ih =>
    rw [after_concat]
    exact ih.step s

/-- A server is alive only while it runs or is being stopped. -/
theorem Turn.length_alive_le {h : History} (hturn : h.Turn) :
  h.supervisor.alive.length ≤ 1
  := by
  have hlength (s : Supervisor) (hs : s.Settled) : s.alive.length ≤ 1 := by
    rw [hs.alive]
    cases s.current <;> simp
  cases hturn with
  | free hs _ => exact hlength _ hs
  | @held _ _ before _ hbefore hs _ =>
    generalize h.supervisor = s at hs
    cases hs with
    | stopping => exact hlength before hbefore
    | replacing => exact hlength before hbefore
    | resolving => exact Nat.zero_le 1
    | spawning => exact Nat.zero_le 1

/-- In every history at most one server was started and not stopped; while nobody holds the
supervisor, that is the one that runs.  A server is started only when all servers that were
started before are stopped, and the starts are counted.  A start of a running server changes
nothing, and neither does one that fails; a restart that fails leaves no server. -/
theorem one_server (options : SupervisorOptions) (steps : List Step) :
  (after options steps).supervisor.alive.length ≤ 1
    ∧ (∀ server, server ∈ (after options steps).supervisor.alive
      ↔ .started server ∈ (after options steps).deeds
        ∧ .stopped server ∉ (after options steps).deeds)
    ∧ ((after options steps).supervisor.stage = none
      ↔ ∀ (n : Nat) call before, (after options steps).calls[n]? ≠ some ⟨call, .holding before⟩)
    ∧ ((after options steps).supervisor.stage = none →
      (after options steps).supervisor.alive = (after options steps).supervisor.current.toList)
    ∧ (∀ earlier server, earlier ++ [.started server] <+: (after options steps).deeds →
      ∀ other, .started other ∈ earlier → .stopped other ∈ earlier)
    ∧ (after options steps).supervisor.starts = (after options steps).deeds.countP Deed.isStart
    ∧ ∀ (n : Nat) call before now result,
      (after options steps).calls[n]? = some ⟨call, .returned before now result⟩ →
      (call = .start → before.isRunning → result = .ok () ∧ now = before)
        ∧ (call = .start → ∀ e, result = .error e → now = before)
        ∧ (call = .restart → ∀ e, result = .error e → now = before.cleared)
        ∧ (call = .stop → result = .ok () ∧ now = before.cleared)
        ∧ (call = .restart ∨ call = .start ∧ ¬ before.isRunning → result = .ok () →
          ∃ launch, now = before.cleared.running launch)
  := by
  have hsound := sound_after options steps
  refine ⟨hsound.turn.length_alive_le, hsound.accounted.alive, hsound.turn.free_iff,
    fun hfree => (hsound.turn.settled hfree).alive, hsound.accounted.order,
    hsound.accounted.starts, ?_⟩
  intro n call before now result hn
  obtain ⟨hbefore, hserved⟩ := hsound.kept n call before now result hn
  cases hserved with
  | kept hrunning => simp [hrunning]
  | stopped => simp
  | failed hcall e =>
    cases call with
    | start =>
      have hnone : before.current = none := hcall
      simp [isRunning, hnone, cleared_of_not_running hbefore hnone]
    | stop => cases hcall
    | restart => simp
  | started hcall launch =>
    cases call with
    | start =>
      have hnone : before.current = none := hcall
      simp [isRunning, hnone]
    | stop => cases hcall
    | restart => simp

/-- A server is started, a restart stops it and cannot start another one, and a start that waits
meanwhile finds no SDK. -/
def failedRestart : List Step :=
  [.ask .start, .ask .restart, .ask .start, .enter 0,
    .proceed 0 (.resolved (some (Sdk.packaged ⟨"/env"⟩ "linux"))), .proceed 0 (.spawned (.ok ())),
    .enter 1, .enter 2, .proceed 1 .stopped,
    .proceed 1 (.resolved (some (Sdk.packaged ⟨"/env"⟩ "linux"))),
    .proceed 1 (.spawned (.error .notFound)), .enter 2, .proceed 2 (.resolved none)]

/-- The server that the failed restart has found is stopped, none is left, and the start that fails
after it changes nothing. -/
theorem one_server_failedRestart :
  ∃ server before now e, (after ⟨false, []⟩ failedRestart).calls[1]?
      = some ⟨.restart, .returned before now (.error e)⟩
    ∧ before.alive = [server] ∧ now = before.cleared
    ∧ (∃ e', (after ⟨false, []⟩ failedRestart).calls[2]?
      = some ⟨.start, .returned now now (.error e')⟩)
    ∧ (after ⟨false, []⟩ failedRestart).supervisor.alive = []
    ∧ (after ⟨false, []⟩ failedRestart).supervisor.starts = 1
    ∧ .started server ∈ (after ⟨false, []⟩ failedRestart).deeds
    ∧ .stopped server ∈ (after ⟨false, []⟩ failedRestart).deeds
  := by
  obtain ⟨-, halive, -, hfree, -, hstarts, hcalls⟩ := one_server ⟨false, []⟩ failedRestart
  let launch := ServerLaunch.ofSdk (Sdk.packaged ⟨"/env"⟩ "linux") false []
  let before := (fresh ⟨false, []⟩).supervisor.running launch
  have hrestart : (after ⟨false, []⟩ failedRestart).calls[1]? = some ⟨.restart, .returned before
      before.cleared (.error (.spawn launch.command .notFound))⟩ := by
    decide +kernel
  have hstart : (after ⟨false, []⟩ failedRestart).calls[2]? = some ⟨.start, .returned before.cleared
      before.cleared (.error .noSdk)⟩ := by
    decide +kernel
  have hnone : (after ⟨false, []⟩ failedRestart).supervisor.alive = [] := by
    rw [hfree (by decide +kernel)]
    decide +kernel
  have hstarted : .started ⟨0, launch⟩ ∈ (after ⟨false, []⟩ failedRestart).deeds := by
    decide +kernel
  have hcount : (after ⟨false, []⟩ failedRestart).supervisor.starts = 1 := by
    rw [hstarts]
    decide +kernel
  refine ⟨⟨0, launch⟩, before, before.cleared, _, hrestart, rfl, ?_, ⟨_, hstart⟩, hnone, hcount,
    hstarted, ?_⟩
  · exact (hcalls 1 _ _ _ _ hrestart).2.2.1 rfl _ rfl
  · by_contra hnot
    have hmem := (halive _).mpr ⟨hstarted, hnot⟩
    rw [hnone] at hmem
    cases hmem

end History

end MojoToolchain.Supervisor
