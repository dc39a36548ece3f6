import MojoToolchain.Proofs.Resolver.Messages
import MojoToolchain.Proofs.Resolver.Stability
import MojoToolchain.Proofs.Sdk.Failures

/-!
# Failures that the user is told of

On a host that does not change, what a probe has reported and what it has yet to report are together
what the search reports (`History.reports_of_run`).  So the messages of the first epoch are settled
by the failures of the search: one message tells of the first of them.  A build in the workspace
that cannot be loaded is told of before the environment is looked at.  A failed search in a home is
told of once, whatever the fault of the descriptor file is.  Tools that do not exist are not told
of, although the file names them.
-/

namespace MojoToolchain

open Host (Question)

/-! ### What a probe reports -/

namespace Probe

/-- The failure that a probe reports with its next instruction. -/
def reported? : Probe → Option SdkError
  | report error _ => some error
  | _ => none

/-- One instruction reports the first failure or none. -/
theorem reports_next (host : (q : Question) → q.Answer) (p : Probe) :
  p.reports host = p.reported?.toList ++ (p.next host).reports host
  := by
  cases p with
  | done result => rfl
  | ask q next => rfl
  | observe key next => rfl
  | report error next => rfl

end Probe

namespace Resolver.History

/-- The failures that a probe has reported, in order. -/
def reportedBy (h : History) (n : Nat) : List SdkError :=
  (h.notices.filter fun m => m.probe == n).map Notice.error

/-- A probe goes on. -/
theorem reportedBy_advance {h : History} {n epoch : Nat} {p : Probe}
    (hp : h.resolver.probes[n]? = some ⟨epoch, p⟩) (answer : (q : Question) → q.Answer) :
  (h.step (.advance n answer)).reportedBy n = h.reportedBy n ++ p.reported?.toList
  := by
  cases p with
  | done result => simp [reportedBy, step, notice?, hp, Probe.reported?]
  | ask q next => simp [reportedBy, step, notice?, hp, Probe.reported?]
  | observe key next => simp [reportedBy, step, notice?, hp, Probe.reported?]
  | report error next => simp [reportedBy, step, notice?, hp, Probe.reported?]

/-- Something else happens. -/
theorem reportedBy_of_ne {h : History} {s : Step} {n : Nat}
    (hs : ∀ answer, s ≠ .advance n answer) :
  (h.step s).reportedBy n = h.reportedBy n
  := by
  cases s with
  | enter => rfl
  | advance m answer =>
    have hm : m ≠ n := by
      rintro rfl
      exact hs answer rfl
    by_cases hp : ∃ started error next,
      h.resolver.probes[m]? = some ⟨started, .report error next⟩
    · obtain ⟨started, error, next, hp⟩ := hp
      simp [reportedBy, (advance_report hp answer).2.1, hm]
    · simp only [not_exists] at hp
      simp [reportedBy, (advance_of_not_report hp answer).2.1]
  | leave call =>
    rcases h.leave_cases call with ⟨he, -⟩ | ⟨_, _, _, -, -, he⟩
    · rw [he]
    · rw [he]
      rfl
  | look => rfl
  | invalidate key => rfl

/-- Every failure was reported by a probe that was started. -/
theorem reportedBy_size (steps : List Step) :
  (after steps).reportedBy (after steps).resolver.probes.size = []
  := by
  rw [reportedBy, List.map_eq_nil_iff, List.filter_eq_nil_iff]
  intro n hn
  have hlt := lt_size_of_epoch? ((told_after steps).genuine n hn).started
  simp [Nat.ne_of_lt hlt]

/-! ### Runs on a host that does not change -/

/-- All questions are answered by one host. -/
def AnsweredBy (host : (q : Question) → q.Answer) (steps : List Step) : Prop :=
  ∀ probe answer, .advance probe answer ∈ steps → answer = host

variable {host : (q : Question) → q.Answer} {steps : List Step}

/-- What every probe finds and reports in the end. -/
theorem reports_of_run (hs : AnsweredBy host steps) {n epoch : Nat} {p : Probe}
    (hp : (after steps).resolver.probes[n]? = some ⟨epoch, p⟩) :
  p.answered host = Probe.start.answered host
    ∧ (after steps).reportedBy n ++ p.reports host = Probe.start.reports host
  := by
  induction steps using List.reverseRecOn generalizing p with
  | nil => simp [after, fresh, Resolver.fresh] at hp
  | append_singleton steps s ih =>
    have hbefore : AnsweredBy host steps := fun probe answer hmem =>
      hs probe answer (List.mem_append_left _ hmem)
    rw [after_concat] at hp ⊢
    rcases probe_step hp with ⟨hp', hne⟩ | ⟨answer, p', rfl, hp', rfl⟩ | ⟨rfl, rfl, rfl⟩
    · rw [reportedBy_of_ne hne]
      exact ih hbefore hp'
    · obtain rfl := hs n answer (List.mem_append_right _ List.mem_cons_self)
      obtain ⟨hanswered, hreports⟩ := ih hbefore hp'
      rw [reportedBy_advance hp', Probe.answered_next, List.append_assoc, ← Probe.reports_next]
      exact ⟨hanswered, hreports⟩
    · -- The probe is new: all notices are of earlier ones.
      rw [reportedBy_of_ne (by simp), reportedBy_size]
      exact ⟨rfl, rfl⟩

/-- Every failure that was reported is one of the search. -/
theorem error_mem_reports (hs : AnsweredBy host steps) {n : Notice}
    (hn : n ∈ (after steps).notices) :
  n.error ∈ Probe.start.reports host
  := by
  obtain ⟨p, hp, -⟩ := Option.map_eq_some_iff.mp ((told_after steps).genuine n hn).started
  rw [← (reports_of_run hs hp).2]
  apply List.mem_append_left
  exact List.mem_map_of_mem (List.mem_filter.mpr ⟨hn, beq_self_eq_true n.probe⟩)

/-- What a call has returned is what the search finds, and some probe has reported all failures of
the search. -/
theorem reports_of_returned (hs : AnsweredBy host steps) {call epoch : Nat}
    {result : Option Descriptor}
    (hv : (after steps).calls[call]? = some ⟨epoch, .returned result⟩) :
  result.map Descriptor.sdk = Probe.start.answered host
    ∧ ∃ n, (after steps).reportedBy n = Probe.start.reports host
  := by
  obtain ⟨n, -, hresult⟩ := (isolated_after steps).calls _ (Array.mem_of_getElem? hv)
  obtain ⟨started, found, hp, rfl⟩ := result?_eq_some_iff.mp hresult
  obtain ⟨hanswered, hreports⟩ := reports_of_run hs hp
  constructor
  · simp [← hanswered, Probe.answered, Function.comp_def]
  · use n
    rw [← hreports]
    exact (List.append_nil _).symm

/-! ### Messages -/

/-- A search whose failures are not meant for the user is never told of. -/
theorem messages_eq_nil (hs : AnsweredBy host steps)
    (hreports : ∀ e ∈ Probe.start.reports host, e.isVisible = false) :
  (after steps).notices.filterMap Notice.message? = []
  := by
  rw [List.filterMap_eq_nil_iff]
  intro n hn
  cases hshown : n.shown with
  | none => rw [Notice.message?, hshown, Option.map_none]
  | some text =>
    obtain ⟨hdue, -⟩ := ((told_after steps).genuine n hn).shown hshown
    rw [Notice.isDue, hreports n.error (error_mem_reports hs hn), Bool.and_false] at hdue
    cases hdue

/-- As long as the first epoch lasts, everything is of it. -/
theorem epoch_eq_zero (hepoch : (after steps).resolver.slot.epoch = 0) {n : Notice}
    (hn : n ∈ (after steps).notices) :
  n.epoch = 0 ∧ n.started = 0
  := by
  have ht := told_after steps
  have hnow := ht.epoch_le n hn
  have hstarted := (isolated_after steps).resolver.probe (ht.genuine n hn).started
  omega

/-- As long as the first epoch lasts, only the first notice that is due is shown. -/
theorem messages_of_first_epoch (hepoch : (after steps).resolver.slot.epoch = 0) :
  (after steps).notices.filterMap Notice.message?
    = (((after steps).dueIn 0).take 1).filterMap Notice.message?
  := by
  rw [← (told_after steps).shown, ← filter_messages, eq_comm, List.filter_eq_self]
  intro m hm
  obtain ⟨n, hn, hmessage⟩ := List.mem_filterMap.mp hm
  obtain ⟨text, -, rfl⟩ := Option.map_eq_some_iff.mp hmessage
  simp [(epoch_eq_zero hepoch hn).1]

/-- The first notice of all tells of the first failure of the search. -/
theorem error_of_first_notice (hs : AnsweredBy host steps) {n : Notice} {rest : List Notice}
    (hnotices : (after steps).notices = n :: rest) :
  (Probe.start.reports host).head? = some n.error
  := by
  have hn : n ∈ (after steps).notices := by
    rw [hnotices]
    exact List.mem_cons_self
  obtain ⟨p, hp, -⟩ := Option.map_eq_some_iff.mp ((told_after steps).genuine n hn).started
  rw [← (reports_of_run hs hp).2]
  simp [reportedBy, hnotices]

/-- A search whose first failure is meant for the user is told of in the first epoch by one message,
which tells of this failure, as soon as a call has returned. -/
theorem messages_eq_singleton (hs : AnsweredBy host steps)
    (hepoch : (after steps).resolver.slot.epoch = 0) {e : SdkError} {later : List SdkError}
    (hreports : Probe.start.reports host = e :: later) (hvisible : e.isVisible = true)
    {call epoch : Nat} {result : Option Descriptor}
    (hv : (after steps).calls[call]? = some ⟨epoch, .returned result⟩) :
  (after steps).notices.filterMap Notice.message? = [(0, e.userMessage)]
  := by
  -- The probe that the call has its result from has reported the failure, so there is a notice.
  obtain ⟨k, hk⟩ := (reports_of_returned hs hv).2
  rw [messages_of_first_epoch hepoch]
  cases hnotices : (after steps).notices with
  | nil => simp [reportedBy, hnotices, hreports] at hk
  | cons n rest =>
    have hn : n ∈ (after steps).notices := by
      rw [hnotices]
      exact List.mem_cons_self
    have herror := error_of_first_notice hs hnotices
    rw [hreports] at herror
    obtain rfl : e = n.error := Option.some.inj herror
    obtain ⟨hnow, hstarted⟩ := epoch_eq_zero hepoch hn
    have hdue : ((after steps).dueIn 0).take 1 = [n] := by
      simp [dueIn, hnotices, Notice.isDue, hnow, hstarted, hvisible]
    have hshown : n ∈ (after steps).shownIn 0 := by
      rw [(told_after steps).shown, hdue]
      exact List.mem_cons_self
    obtain ⟨-, hisShown⟩ := Bool.and_eq_true_iff.mp (List.mem_filter.mp hshown).2
    obtain ⟨text, htext⟩ := Option.isSome_iff_exists.mp hisShown
    obtain ⟨-, rfl⟩ := ((told_after steps).genuine n hn).shown htext
    rw [hdue]
    simp [Notice.message?, htext, hnow]

/-! ### Builds in the workspace -/

/-- The descriptor file of a build in the workspace has a fault.  Until the first epoch ends and
whatever calls there are, a call that has returned has returned what is found in the environment,
and then there is exactly one message, which tells of the fault, also when the search in the
environment fails. -/
theorem messages_of_workspace {root : Path} (honly : host .workspaceRoots = [root])
    (hdir : host (.kindOf (root / (".derived" : Path))) = .ok .directory)
    {reason : DescriptorFault}
    (hreason : reason.IsOf host (root / (".derived" : Path) / ("modular.cfg" : Path)))
    (hs : AnsweredBy host steps) (hepoch : (after steps).resolver.slot.epoch = 0)
    {call epoch : Nat} {result : Option Descriptor}
    (hv : (after steps).calls[call]? = some ⟨epoch, .returned result⟩) :
  result.map Descriptor.sdk = Probe.inEnvironment.answered host
    ∧ (after steps).notices.filterMap Notice.message?
      = [(0, (SdkError.installationCorrupted (root / (".derived" : Path)) reason).userMessage)]
  := by
  have hload := Sdk.answered_loadHome_of_isOf host hreason .internal none
  obtain ⟨hreports, hanswered, -⟩ := Probe.start_of_broken_workspace host honly hdir hload
  constructor
  · rw [← hanswered]
    exact (reports_of_returned hs hv).1
  · exact messages_eq_singleton hs hepoch hreports rfl hv

/-! ### Home installations -/

open Sdk

/-- Only a notification ends the first epoch. -/
theorem epoch_eq_zero_of_not_notified (hs : ∀ key, .invalidate key ∉ steps) :
  (after steps).resolver.slot.epoch = 0
  := by
  have hsame : ∀ between key, between ++ [.invalidate key] <+: steps →
      (after ([] ++ between)).resolver.slot.lastKey = some key := by
    intro between key hpart
    exact absurd (hpart.subset (List.mem_append_right _ List.mem_cons_self)) (hs key)
  exact (epoch_after_of_same_key hsame).symm

/-- A single call of a resolver that was never used, as a run. -/
def single (host : (q : Question) → q.Answer) (count : Nat) : List Step :=
  .enter :: .replicate count (.advance 0 host) ++ [.leave 0]

theorem after_single (host : (q : Question) → q.Answer) (count : Nat) :
  after (single host count) = fresh.resolve host count
  := by
  simp [after, single, resolve, fresh, Resolver.fresh]

theorem answeredBy_single (host : (q : Question) → q.Answer) (count : Nat) :
  AnsweredBy host (single host count)
  := by
  intro probe answer hmem
  simp [single, List.mem_replicate] at hmem
  exact hmem.2.2

theorem epoch_single (host : (q : Question) → q.Answer) (count : Nat) :
  (after (single host count)).resolver.slot.epoch = 0
  := by
  apply epoch_eq_zero_of_not_notified
  simp [single, List.mem_replicate]

/-- A host that does not change has no workspace, and the descriptor file of its active
environment exists.  A call of a resolver that was never used returns.  The descriptor file has a
fault or names all tools.  Until the first epoch ends, whatever calls there are and however their
probes take turns: once a call has returned, a fault of the file, whichever it is, has led to
nothing and to exactly one message, which tells of the fault; and a file that names all tools has
led to nothing exactly when some of them do not exist, and even then to no message. -/
theorem messages_of_home {name : String} {environment : Host.Environment}
    (hroots : host .workspaceRoots = []) (hname : host .activeEnvironment = some name)
    (henvironment : host (.environment name) = some environment)
    (hfile : Present host (environmentHome environment / (descriptorName : Path))) :
  (∃ enough, ∀ count ≥ enough, ∃ result,
      AnsweredBy host (single host count) ∧ (after (single host count)).resolver.slot.epoch = 0
        ∧ (after (single host count)).calls[0]? = some ⟨0, .returned result⟩)
    ∧ ((∃ reason : DescriptorFault,
        reason.IsOf host (environmentHome environment / (descriptorName : Path)))
      ∨ ∃ descriptor tools,
        Describes host (environmentHome environment / (descriptorName : Path)) descriptor
          ∧ Names descriptor tools)
    ∧ ∀ steps, AnsweredBy host steps → (after steps).resolver.slot.epoch = 0 →
      ∀ (call epoch : Nat) result, (after steps).calls[call]? = some ⟨epoch, .returned result⟩ →
        (∀ reason : DescriptorFault,
          reason.IsOf host (environmentHome environment / (descriptorName : Path)) →
          result = none
            ∧ (after steps).notices.filterMap Notice.message?
              = [(0, (SdkError.installationCorrupted (environmentHome environment)
                reason).userMessage)])
        ∧ ∀ descriptor tools,
          Describes host (environmentHome environment / (descriptorName : Path)) descriptor →
          Names descriptor tools →
          (result = none ↔ ∃ path ∈ tools.toList, ¬ Present host path)
            ∧ (after steps).notices.filterMap Notice.message? = []
  := by
  have hactive : activeEnvironment.answered host = some environment := by
    rw [answered_activeEnvironment, hname]
    exact henvironment
  refine ⟨⟨Probe.start.length host, ?_⟩, isOf_or_names host _, ?_⟩
  · intro count hcount
    have hcall := calls_resolve (h := fresh) host rfl rfl hcount
    rw [← after_single] at hcall
    exact ⟨_, answeredBy_single host count, epoch_single host count, hcall⟩
  · intro steps hs hepoch call epoch result hv
    have hresult := (reports_of_returned hs hv).1
    constructor
    · intro reason hreason
      obtain ⟨hnone, hreports⟩ := Probe.start_of_isOf hroots hactive hfile hreason
      rw [hnone, Option.map_eq_none_iff] at hresult
      exact ⟨hresult, messages_eq_singleton hs hepoch hreports rfl hv⟩
    · intro descriptor tools hdescribes hnames
      obtain ⟨hnone, hreports⟩ := Probe.start_of_names hroots hactive hfile hdescribes hnames
      rw [← hresult, Option.map_eq_none_iff] at hnone
      exact ⟨hnone, messages_eq_nil hs hreports⟩

/-- The descriptor file exists, but it cannot be read: the call returns nothing, and there is one
message. -/
theorem messages_of_home_unreadable :
  ∃ count,
    (after (single (plainHost (some "env") true) count)).calls[0]? = some ⟨0, .returned none⟩
      ∧ (after (single (plainHost (some "env") true) count)).notices.filterMap Notice.message?
        = [(0, (SdkError.installationCorrupted ⟨"/env/share/max"⟩
          (.unreadable ⟨"/env/share/max/modular.cfg"⟩ .notFound)).userMessage)]
  := by
  have hroots : plainHost (some "env") true .workspaceRoots = [] := rfl
  obtain ⟨⟨enough, hreturns⟩, -, hruns⟩ := messages_of_home hroots rfl rfl ⟨.file, rfl⟩
  obtain ⟨result, hs, hepoch, hv⟩ := hreturns enough (Nat.le_refl _)
  obtain ⟨rfl, hmessages⟩ := (hruns _ hs hepoch 0 0 result hv).1
    (.unreadable ⟨"/env/share/max/modular.cfg"⟩ .notFound) ⟨rfl, rfl⟩
  exact ⟨enough, hv, hmessages⟩

/-- A descriptor file that names all tools. -/
def sevenTools : String :=
  "[mojo-max]\nlsp_server_path=/t\nmblack_path=/t\nlldb_plugin_path=/t\nlldb_vscode_path=/t\n"
    ++ "driver_path=/t\nlldb_visualizers_path=/t\nlldb_path=/t\n"

/-- A host with no workspace and one environment, in which there is only a descriptor file. -/
def emptyHome : (q : Question) → q.Answer
  | .kindOf path =>
    if path = environmentHome ⟨"/env", ⟨"/env"⟩⟩ / (descriptorName : Path) then .ok .file
    else .error .notFound
  | .read _ => .ok sevenTools.toUTF8
  | q => plainHost (some "/env") true q

/-- The descriptor file of the environment exists, a call of a resolver that was never used returns
nothing, and no message is shown. -/
theorem silent_home :
  emptyHome .workspaceRoots = [] ∧ emptyHome .activeEnvironment = some "/env"
    ∧ emptyHome (.environment "/env") = some ⟨"/env", ⟨"/env"⟩⟩
    ∧ Present emptyHome (environmentHome ⟨"/env", ⟨"/env"⟩⟩ / (descriptorName : Path))
    ∧ (after (single emptyHome 20)).calls[0]? = some ⟨0, .returned none⟩
    ∧ (after (single emptyHome 20)).notices.filterMap Notice.message? = []
  := by
  refine ⟨rfl, rfl, rfl, ⟨.file, ?_⟩, ?_⟩
  · simp [emptyHome]
  · decide +kernel

end Resolver.History

end MojoToolchain
