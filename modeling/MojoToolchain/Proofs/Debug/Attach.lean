import MojoToolchain.Proofs.Debug.Backends
import MojoToolchain.Session.Debugging

/-!
# Attaching on request

A configuration attaches when it names a process or says so (`Configuration.isAttach`).  What is
made of a configuration on request goes by that, with one exception: one that says neither that it
launches nor that it attaches is taken for one that asks for nothing (`Configuration.orActiveFile`),
even if it names a process.
-/

namespace MojoToolchain

open Host (MemoryHost)

namespace Debug.Configuration

variable {c : Configuration} {sdk : Sdk}

/-! ### Completing with a host in memory -/

/-- Completing a configuration succeeds when the file that it runs can be run, whatever the host
answers. -/
theorem converse_complete (host : MemoryHost) (options : NormalizerOptions) (sdk : Sdk)
    (known : Option Bool) (c : Configuration) :
  ∃ visualizers, (host.converse (c.complete options sdk known)).1.1
    = (checkLaunch sdk c).map fun _ => (c.launching sdk).fill options sdk visualizers
  := by
  rw [complete, withRequest_eq]
  cases checkLaunch sdk c with
  | error e => exact ⟨[], rfl⟩
  | ok =>
    simp only [Except.map, Bind.bind, MemoryHost.converse_bind]
    cases (host.converse (supportsScripting sdk known)).1 with
    | false => exact ⟨[], rfl⟩
    | true =>
      rw [if_pos rfl, MemoryHost.converse_bind]
      exact ⟨_, rfl⟩

/-! ### What attaches -/

/-- A configuration attaches like another one: to the same process, with its program, its variables
behind others and its members that are not known. -/
structure AttachesLike (c n : Configuration) : Prop where
  request : n.request = some .attach
  pid : n.pid = c.pid
  program : n.program = c.program
  env : ∃ added, n.env = some (added ++ c.env.getD [])
  extra : n.extra = c.extra

theorem launchedFile?_of_isAttach (h : c.isAttach) :
  c.launchedFile? = none
  := if_pos h

/-- A configuration that attaches runs no file, so there is none to check. -/
theorem checkLaunch_of_isAttach (h : c.isAttach) (sdk : Sdk) :
  checkLaunch sdk c = .ok ()
  := by
  rw [checkLaunch, launchedFile?_of_isAttach h]

theorem attachesLike_fill (h : c.isAttach) (options : NormalizerOptions) (sdk : Sdk)
    (visualizers : List String) :
  c.AttachesLike ((c.launching sdk).fill options sdk visualizers)
  where
  request := congrArg some (requestOf_of_isAttach h)
  pid := rfl
  program := by simp [fill, launching, launchedProgram, launchedFile?_of_isAttach h]
  env := ⟨_, rfl⟩
  extra := rfl

/-- For the companion debugger a configuration that attaches is translated if all its arguments can
be quoted. -/
theorem toCompanion_of_isAttach (h : c.isAttach) (sdk : Sdk)
    (hargs : ∀ args, c.args = some args → ∀ argument ∈ args, ¬ HasNul argument) :
  ∃ t, c.toCompanion sdk = .ok t ∧ t.type = CompanionConfiguration.ownType
    ∧ t.request = .attach ∧ t.processId = c.pid
  := by
  cases ht : c.toCompanion sdk with
  | error e =>
    obtain ⟨kept, argument, hkept, hmem, hnul⟩ :=
      (exists_error_iff (checkLaunch_of_isAttach h sdk)).mp ⟨e, ht⟩
    rw [launchedArgs, launchedFile?_of_isAttach h] at hkept
    exact absurd hnul (hargs kept hkept argument hmem)
  | ok t =>
    obtain ⟨program, args, text, -, -, rfl⟩ := toCompanion_eq_ok.mp ht
    exact ⟨_, rfl, rfl, requestOf_of_isAttach h, rfl⟩

/-! ### What asks for nothing -/

/-- The placeholder for the active file is no source file. -/
theorem isSource_activeFile :
  isSource activeFile = false
  := by
  decide +kernel

/-- A configuration without a request runs the active file, which cannot be checked before it is
written for its placeholder. -/
theorem exists_refused (h : c.request = none) (sdk : Sdk) :
  ∃ e, c.orActiveFile.Refused sdk e
  := by
  have hfile : c.orActiveFile.launchedFile? = some activeFile := by
    rw [orActiveFile, h]
    rfl
  cases hsdk : sdk.supportsFileLaunch with
  | false => exact ⟨_, .unsupported hfile hsdk⟩
  | true => exact ⟨_, .extension hfile hsdk isSource_activeFile⟩

/-- When the active file is written for its placeholder, it is launched. -/
theorem launchedFile?_substitute (h : c.request = none) (file : String) :
  (c.orActiveFile.substitute file).launchedFile? = some file
  := by
  have hself : Text.replaceAllString activeFile file activeFile = file := by
    have hne : activeFile.toList ≠ [] := by decide
    rw [Text.replaceAllString, Text.replaceAll_self hne, String.ofList_toList]
  rw [orActiveFile, h]
  exact congrArg some hself

/-- A configuration that names a process, without a request. -/
def processOnly : Configuration :=
  { unset with
    pid := some 42
    env := some ["A=1", "B=2=3"]
    stopOnEntry := some true }

end Debug.Configuration

namespace Session

open Debug (CompanionConfiguration Configuration)
open Debug.Configuration (HasNul checkLaunch processOnly)

variable {s : Session} {c : Configuration} {d : Descriptor}

/-! ### In a session -/

/-- What is made of a configuration when there is an SDK. -/
theorem provide_of_resolve (hd : s.resolve.1 = some d) (c : Configuration) :
  ∃ options visualizers, (s.provide c).1 = (checkLaunch d.sdk c).toOption.map
    fun _ => (c.launching d.sdk).fill options d.sdk visualizers
  := by
  unfold provide
  generalize s.resolve = resolved at hd
  obtain ⟨found, s'⟩ := resolved
  cases hd
  obtain ⟨visualizers, hcomplete⟩ :=
    Debug.Configuration.converse_complete s'.host s'.options d.sdk (s'.knownScripting d) c
  use s'.options, visualizers
  simp only [Debug.provide, Bind.bind, MemoryHost.converse_bind, hcomplete, pure,
    MemoryHost.converse_done]
  cases checkLaunch d.sdk c <;> rfl

/-- What is made of a configuration for the companion debugger when there is an SDK. -/
theorem provideCompanion_of_resolve (hd : s.resolve.1 = some d) (c : Configuration) :
  (s.provideCompanion c).1
    = s.checkCompanion.toOption.bind fun _ => (c.orActiveFile.toCompanion d.sdk).toOption
  := by
  unfold provideCompanion
  cases s.checkCompanion with
  | error e => rfl
  | ok =>
    generalize s.resolve = resolved at hd
    obtain ⟨found, s'⟩ := resolved
    cases hd
    simp only [Option.map_some, Debug.provideCompanion]
    cases c.orActiveFile.toCompanion d.sdk <;> rfl

/-- Nothing is made of a configuration without a request, whatever else it sets. -/
theorem provide_of_no_request (hd : s.resolve.1 = some d) (h : c.request = none) :
  (s.provide c.orActiveFile).1 = none ∧ (s.provideCompanion c).1 = none
  := by
  obtain ⟨e, hrefused⟩ := Debug.Configuration.exists_refused h d.sdk
  constructor
  · obtain ⟨options, visualizers, hprovide⟩ := provide_of_resolve hd c.orActiveFile
    rw [hprovide, Debug.Configuration.checkLaunch_eq_error_iff.mpr hrefused]
    rfl
  · rw [provideCompanion_of_resolve hd,
      Debug.Configuration.toCompanion_eq_error_iff.mpr (.inl hrefused)]
    cases s.checkCompanion <;> rfl

/-- When there is an SDK, a configuration that attaches and has a request becomes one that attaches
like it, and one for the companion debugger that attaches to the same process, if the companion is
installed and no argument has a null character.  Of one that has no request nothing is made: it is
taken for one that asks for nothing, and when the active file is written for its placeholder, that
is launched, and the process is forgotten. -/
theorem attach_kept (hd : s.resolve.1 = some d) (hattach : c.isAttach) :
  (c.request.isSome →
    (∃ n, (s.provide c.orActiveFile).1 = some n ∧ c.AttachesLike n)
      ∧ (s.checkCompanion = .ok () →
        (∀ args, c.args = some args → ∀ argument ∈ args, ¬ HasNul argument) →
        ∃ t, (s.provideCompanion c).1 = some t ∧ t.type = CompanionConfiguration.ownType
          ∧ t.request = .attach ∧ t.processId = c.pid))
    ∧ (c.request = none →
      (s.provide c.orActiveFile).1 = none ∧ (s.provideCompanion c).1 = none
        ∧ ∀ file, (c.orActiveFile.substitute file).launchedFile? = some file
          ∧ (c.orActiveFile.substitute file).pid = none)
  := by
  constructor
  · intro hrequest
    have hsame := Debug.Configuration.orActiveFile_of_isSome hrequest
    constructor
    · obtain ⟨options, visualizers, hprovide⟩ := provide_of_resolve hd c.orActiveFile
      rw [hprovide, hsame, Debug.Configuration.checkLaunch_of_isAttach hattach]
      exact ⟨_, rfl, Debug.Configuration.attachesLike_fill hattach options d.sdk visualizers⟩
    · intro hcompanion hargs
      obtain ⟨t, ht, hattaches⟩ :=
        Debug.Configuration.toCompanion_of_isAttach hattach d.sdk hargs
      refine ⟨t, ?_, hattaches⟩
      rw [provideCompanion_of_resolve hd, hcompanion, hsame, ht]
      rfl
  · intro hnone
    obtain ⟨hprovide, hcompanion⟩ := provide_of_no_request hd hnone
    refine ⟨hprovide, hcompanion, fun file => ?_⟩
    constructor
    · exact Debug.Configuration.launchedFile?_substitute hnone file
    · rw [Configuration.orActiveFile, hnone]
      rfl

/-- A session that has found an SDK, with the extension of the companion debugger. -/
def found : Session :=
  { start .empty [CompanionConfiguration.extension] ⟨true, 300, true⟩ ⟨true, []⟩ with
    resolver := ⟨⟨some ⟨0, Debug.environmentSdk⟩, some "/env", false, 0, none⟩,
      #[⟨0, .done (some Debug.environmentSdk)⟩], #[]⟩ }

theorem attach_kept_withRequest :
  ∃ c : Configuration, c = { processOnly with request := some .attach }
    ∧ (∃ n, (found.provide c.orActiveFile).1 = some n
      ∧ n.request = some .attach ∧ n.pid = some 42)
    ∧ ∃ t, (found.provideCompanion c).1 = some t ∧ t.request = .attach ∧ t.processId = some 42
  := by
  refine ⟨_, rfl, ?_⟩
  obtain ⟨hkept, -⟩ := attach_kept (s := found) (d := ⟨0, Debug.environmentSdk⟩)
    (c := { processOnly with request := some .attach }) rfl rfl
  obtain ⟨⟨n, hn, hattaches⟩, hcompanion⟩ := hkept rfl
  have hargs : ∀ args, processOnly.args = some args → ∀ argument ∈ args, ¬ HasNul argument := by
    rintro args ⟨⟩
  obtain ⟨t, ht, -, hrequest, hprocess⟩ := hcompanion (by decide +kernel) hargs
  exact ⟨⟨n, hn, hattaches.request, hattaches.pid⟩, t, ht, hrequest, hprocess⟩

/-- The process is forgotten, though both debuggers could attach to it. -/
theorem process_forgotten :
  processOnly.isAttach ∧ found.resolve.1.isSome ∧ found.checkCompanion = .ok ()
    ∧ processOnly.args = none ∧ (found.provide processOnly.orActiveFile).1 = none
    ∧ (found.provideCompanion processOnly).1 = none
  := by
  obtain ⟨hprovide, hcompanion⟩ :=
    provide_of_no_request (s := found) (d := ⟨0, Debug.environmentSdk⟩) (c := processOnly) rfl rfl
  exact ⟨rfl, rfl, by decide +kernel, rfl, hprovide, hcompanion⟩

end Session

end MojoToolchain
