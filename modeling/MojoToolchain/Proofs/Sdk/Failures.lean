import MojoToolchain.Proofs.Sdk.Search

/-!
# Failures of home installations

Why a home cannot be loaded on a host that does not change.  Either its descriptor file has a fault
(`DescriptorFault.IsOf`): it cannot be read, decoded or parsed, or has no value for a key.  Or the
file names all tools and some of them do not exist.  A search reports the failure to load a build in
the workspace and goes on in the environment.  A search without a workspace that meets a descriptor
file in the environment reports the failure to load its home and no other.
-/

namespace MojoToolchain

open Host (Dialogue Question)

variable (host : (q : Question) → q.Answer)

/-- A file has a fault.  Of the keys without a value the first one counts. -/
def DescriptorFault.IsOf (file : Path) : DescriptorFault → Prop
  | unreadable path fault => path = file ∧ host (.read file) = .error fault
  | undecodable path fault =>
    path = file ∧ ∃ bytes, host (.read file) = .ok bytes ∧ Text.decode bytes = .error fault
  | unparsable path fault =>
    path = file ∧ ∃ bytes text, host (.read file) = .ok bytes ∧ Text.decode bytes = .ok text
      ∧ Descriptor.File.parse text.toList = .error fault
  | missingKey path key =>
    path = file ∧ ∃ descriptor, Sdk.Describes host file descriptor
      ∧ Sdk.toolKeys.find? (fun k => (descriptor.value? (some toolSection) k).isNone) = some key

namespace Sdk

/-! ### Loading a home -/

/-- One key after the other: the first one without a value is missing. -/
theorem toolPath_bind_eq_error {file : Path} {descriptor : Descriptor.File} {key : String}
    {rest : List String} {reason : DescriptorFault} {f : Path → Except DescriptorFault α}
    (hrest : ∀ path, f path = .error reason
      ↔ ∃ k, rest.find? (fun k => (descriptor.value? (some toolSection) k).isNone) = some k
        ∧ reason = .missingKey file k) :
  (toolPath file descriptor key >>= f) = .error reason
    ↔ ∃ k, (key :: rest).find? (fun k => (descriptor.value? (some toolSection) k).isNone) = some k
      ∧ reason = .missingKey file k
  := by
  rw [bind_eq_error, List.find?_cons, toolPath]
  cases descriptor.value? (some toolSection) key with
  | none => simp [eq_comm]
  | some value => simp [hrest]

theorem toolsOf_eq_error (file : Path) (descriptor : Descriptor.File) (reason : DescriptorFault) :
  toolsOf file descriptor = .error reason
    ↔ ∃ key, toolKeys.find? (fun k => (descriptor.value? (some toolSection) k).isNone) = some key
      ∧ reason = .missingKey file key
  := by
  apply toolPath_bind_eq_error
  intro languageServer
  apply toolPath_bind_eq_error
  intro formatter
  apply toolPath_bind_eq_error
  intro debugPlugin
  apply toolPath_bind_eq_error
  intro debugAdapter
  apply toolPath_bind_eq_error
  intro runtime
  apply toolPath_bind_eq_error
  intro visualizersDir
  apply toolPath_bind_eq_error
  intro debugger
  simp [Pure.pure, Except.pure]

/-- Loading a file fails with its fault, unless it is only a key that has no value. -/
theorem answered_load_eq_error (file : Path) (reason : DescriptorFault) :
  (Descriptor.load file).answered host = .error reason
    ↔ reason.IsOf host file ∧ ∀ path key, reason ≠ .missingKey path key
  := by
  simp only [Descriptor.load, Dialogue.question, Bind.bind, Pure.pure, Dialogue.bind,
    Dialogue.answered]
  cases hread : host (.read file) with
  | error fault => cases reason <;> simp [DescriptorFault.IsOf, Dialogue.answered, hread, eq_comm]
  | ok bytes =>
    cases hdecode : Text.decode bytes with
    | error fault =>
      cases reason <;> simp [DescriptorFault.IsOf, Dialogue.answered, hread, hdecode, eq_comm]
    | ok text =>
      cases hparse : Descriptor.File.parse text.toList with
      | error fault =>
        cases reason <;>
          simp [DescriptorFault.IsOf, Dialogue.answered, hread, hdecode, hparse, eq_comm]
      | ok sections =>
        cases reason <;> simp [DescriptorFault.IsOf, Dialogue.answered, hread, hdecode, hparse]

/-- A file has a fault exactly when it cannot be loaded or names too few tools. -/
theorem isOf_iff (file : Path) (reason : DescriptorFault) :
  reason.IsOf host file
    ↔ (Descriptor.load file).answered host = .error reason
      ∨ ∃ descriptor, (Descriptor.load file).answered host = .ok descriptor
        ∧ toolsOf file descriptor = .error reason
  := by
  simp only [answered_load_eq_error, answered_load_eq_ok, toolsOf_eq_error]
  cases reason with
  | unreadable path fault => simp
  | undecodable path fault => simp
  | unparsable path fault => simp
  | missingKey path key =>
    simp only [DescriptorFault.IsOf, ne_eq, DescriptorFault.missingKey.injEq]
    constructor
    · rintro ⟨rfl, descriptor, hdescribes, hkey⟩
      exact .inr ⟨descriptor, hdescribes, key, hkey, rfl, rfl⟩
    · rintro (⟨-, hnot⟩ | ⟨descriptor, hdescribes, _, hkey, rfl, rfl⟩)
      · exact absurd ⟨rfl, rfl⟩ (hnot path key)
      · exact ⟨rfl, descriptor, hdescribes, hkey⟩

/-- A file has a fault or names all tools. -/
theorem isOf_or_names (file : Path) :
  (∃ reason : DescriptorFault, reason.IsOf host file)
    ∨ ∃ descriptor tools, Describes host file descriptor ∧ Names descriptor tools
  := by
  simp only [isOf_iff, ← answered_load_eq_ok]
  cases (Descriptor.load file).answered host with
  | error reason => exact .inl ⟨reason, .inl rfl⟩
  | ok descriptor =>
    cases htools : toolsOf file descriptor with
    | error reason => exact .inl ⟨reason, .inr ⟨descriptor, rfl, htools⟩⟩
    | ok tools => exact .inr ⟨descriptor, tools, rfl, (toolsOf_eq_ok ..).mp htools⟩

/-- A home whose descriptor file has a fault cannot be loaded. -/
theorem answered_loadHome_of_isOf {home : Path} {reason : DescriptorFault}
    (h : reason.IsOf host (home / (descriptorName : Path))) (kind : Kind) (root : Option Path) :
  (loadHome kind home root).answered host = .error (.installationCorrupted home reason)
  := by
  simp only [loadHome, Bind.bind, Pure.pure, Dialogue.answered_bind]
  rcases (isOf_iff ..).mp h with hload | ⟨descriptor, hload, htools⟩
  · simp [hload, Dialogue.answered]
  · simp [hload, htools, Dialogue.answered]

/-- A home whose descriptor file names all tools cannot be loaded when some of them do not
exist. -/
theorem answered_loadHome_of_missing {home : Path} {descriptor : Descriptor.File} {tools : Tools}
    (hdescribes : Describes host (home / (descriptorName : Path)) descriptor)
    (hnames : Names descriptor tools) (hmissing : ¬ ∀ path ∈ tools.toList, Present host path)
    (kind : Kind) (root : Option Path) :
  (loadHome kind home root).answered host
    = .error (.installationIncomplete home ((missingOf tools.toList).answered host))
  := by
  have hload := (answered_load_eq_ok ..).mpr hdescribes
  have htools := (toolsOf_eq_ok (home / (descriptorName : Path)) ..).mpr hnames
  rw [← paths_ofDescriptor kind home root descriptor tools, ← answered_missing_eq_nil] at hmissing
  rw [← paths_ofDescriptor kind home root descriptor tools, ← missing]
  simp only [loadHome, Bind.bind, Pure.pure, Dialogue.answered_bind, hload, htools, verify]
  rfl

end Sdk

namespace Probe

open Sdk

/-! ### What a search reports -/

/-- The failures that are reported to a fixed host, in order. -/
def reports : Probe → List SdkError
  | done _ => []
  | ask q next => (next (host q)).reports
  | observe _ next => next.reports
  | report error next => error :: next.reports

@[simp]
theorem reports_after {α : Type} (d : Dialogue α) (f : α → Probe) :
  (after d f).reports host = (f (d.answered host)).reports host
  := by
  induction d with
  | done a => rfl
  | ask q next ih => simp [after, reports, Dialogue.answered, ih]

/-- When the directory for the SDK in the only open folder cannot be loaded, this failure is
reported first.  After it the search goes on in the environment, as without a workspace. -/
theorem start_of_broken_workspace {root : Path} {e : SdkError}
    (honly : host .workspaceRoots = [root])
    (hdir : host (.kindOf (root / (".derived" : Path))) = .ok .directory)
    (he : (loadHome .internal (root / (".derived" : Path)) none).answered host = .error e) :
  start.reports host = e :: inEnvironment.reports host
    ∧ start.answered host = inEnvironment.answered host
    ∧ start.questions host = workspaceSource.questions host ++ inEnvironment.questions host
  := by
  have hworkspace : workspaceSource.answered host = some (.error e) := by
    rw [← he]
    exact answered_workspaceSource host honly hdir
  have hnone : ∀ sdk, workspaceSource.answered host ≠ some (.ok sdk) := by
    simp [hworkspace]
  constructor
  · simp [start, hworkspace, reports]
  · exact start_of_no_workspace host hnone

section Home

variable {host} {environment : Host.Environment} (hroots : host .workspaceRoots = [])
  (hactive : activeEnvironment.answered host = some environment)
  (hfile : Present host (environmentHome environment / (descriptorName : Path)))

include hroots hactive hfile

/-- Without a workspace, a search that meets a descriptor file in the environment comes to what
loading its home does. -/
theorem start_of_home :
  start.answered host
      = (conclude ((loadHome .environment (environmentHome environment)
        (some environment.sysPrefix)).answered host)).answered host
    ∧ start.reports host
      = (conclude ((loadHome .environment (environmentHome environment)
        (some environment.sysPrefix)).answered host)).reports host
  := by
  have hworkspace : workspaceSource.answered host = none := by
    simp [workspaceSource, Dialogue.question, Bind.bind, Pure.pure, Dialogue.bind,
      Dialogue.answered, hroots]
  have hexists := (answered_exists? host _).mpr hfile
  constructor
  · simp [start, inEnvironment, hworkspace, hactive, environmentSource, Bind.bind, hexists,
      answered]
  · simp [start, inEnvironment, hworkspace, hactive, environmentSource, Bind.bind, hexists,
      reports]

/-- When the descriptor file has a fault, it reports this and finds nothing. -/
theorem start_of_isOf {reason : DescriptorFault}
    (h : reason.IsOf host (environmentHome environment / (descriptorName : Path))) :
  start.answered host = none
    ∧ start.reports host = [.installationCorrupted (environmentHome environment) reason]
  := by
  obtain ⟨hanswered, hreports⟩ := start_of_home hroots hactive hfile
  rw [answered_loadHome_of_isOf host h] at hanswered hreports
  exact ⟨hanswered, hreports⟩

/-- When the descriptor file names all tools, it finds nothing exactly when some of them do not
exist, and even then it reports nothing that is meant for the user. -/
theorem start_of_names {descriptor : Descriptor.File} {tools : Tools}
    (hdescribes : Describes host (environmentHome environment / (descriptorName : Path)) descriptor)
    (hnames : Names descriptor tools) :
  (start.answered host = none ↔ ∃ path ∈ tools.toList, ¬ Present host path)
    ∧ ∀ e ∈ start.reports host, e.isVisible = false
  := by
  obtain ⟨hanswered, hreports⟩ := start_of_home hroots hactive hfile
  by_cases hpresent : ∀ path ∈ tools.toList, Present host path
  · have hload := (answered_loadHome_eq_ok host .environment _ (some environment.sysPrefix) _).mpr
      ⟨descriptor, tools, ⟨hdescribes, hnames, (tools.exist_iff host).mpr hpresent⟩, rfl⟩
    rw [hanswered, hreports, hload]
    simpa [conclude, answered, reports] using hpresent
  · rw [hanswered, hreports, answered_loadHome_of_missing host hdescribes hnames hpresent]
    simpa [conclude, answered, reports, SdkError.isVisible] using hpresent

end Home

end Probe

end MojoToolchain
