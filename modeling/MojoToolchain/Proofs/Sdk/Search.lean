import MojoToolchain.Proofs.Sdk.Install

/-!
# The search on a host that does not change

What a search finds, and what it asks for.  An installation in the workspace decides alone, and
nothing but files are looked at for it.  In every other case the active environment decides, and
in it the descriptor file, when that exists, even if it is of no use.
-/

namespace MojoToolchain

open Host (Dialogue Question)

/-! ### The questions of a search -/

/-- The question is about the folders of the workspace, what stands at a path, or the bytes of a
file. -/
def Host.Question.IsOfFiles : Question → Prop
  | .workspaceRoots | .kindOf _ | .read _ => True
  | _ => False

variable (host : (q : Question) → q.Answer)

@[simp]
theorem Host.Dialogue.questions_bind {α β : Type} (d : Dialogue α) (f : α → Dialogue β) :
  (d.bind f).questions host = d.questions host ++ (f (d.answered host)).questions host
  := by
  induction d with
  | done a => rfl
  | ask q next ih => simp [Dialogue.bind, Dialogue.questions, Dialogue.answered, ih]

namespace Probe

/-- The questions asked of a fixed host, in order. -/
def questions : Probe → List Question
  | done _ => []
  | ask q next => q :: (next (host q)).questions
  | observe _ next => next.questions
  | report _ next => next.questions

@[simp]
theorem questions_after {α : Type} (d : Dialogue α) (f : α → Probe) :
  (after d f).questions host = d.questions host ++ (f (d.answered host)).questions host
  := by
  induction d with
  | done a => rfl
  | ask q next ih => simp [after, questions, Dialogue.questions, Dialogue.answered, ih]

end Probe

/-! ### Dialogues about files -/

/-- A dialogue that asks only about files. -/
def Host.Dialogue.OfFiles {α : Type} (d : Dialogue α) : Prop :=
  ∀ q ∈ d.questions host, q.IsOfFiles

namespace Host.Dialogue.OfFiles

variable {host} {α β : Type}

theorem done (a : α) :
  OfFiles host (.done a)
  := by
  intro q hq
  cases hq

theorem question {q : Question} (hq : q.IsOfFiles) :
  OfFiles host (.question q)
  := by
  intro q' hq'
  obtain rfl := List.mem_singleton.mp hq'
  apply hq

theorem bind {d : Dialogue α} {f : α → Dialogue β} (hd : OfFiles host d)
    (hf : ∀ a, OfFiles host (f a)) :
  OfFiles host (d.bind f)
  := by
  intro q hq
  rw [questions_bind] at hq
  rcases List.mem_append.mp hq with hq | hq
  · apply hd q hq
  · apply hf _ q hq

end Host.Dialogue.OfFiles

open Host.Dialogue (OfFiles)

namespace Sdk

theorem ofFiles_missingOf (paths : List Path) :
  OfFiles host (missingOf paths)
  := by
  induction paths with
  | nil => exact .done []
  | cons path rest ih =>
    apply OfFiles.bind
    · exact .bind (.question trivial) fun _ => .done _
    · intro found
      exact .bind ih fun _ => .done _

theorem ofFiles_verify (sdk : Sdk) :
  OfFiles host sdk.verify
  := by
  apply OfFiles.bind (ofFiles_missingOf host sdk.paths)
  intro missing
  split
  · exact .done _
  · exact .done _

theorem ofFiles_load (file : Path) :
  OfFiles host (Descriptor.load file)
  := by
  apply OfFiles.bind
  · apply OfFiles.question
    trivial
  · intro bytes
    split
    · exact .done _
    · split
      · exact .done _
      · split
        · exact .done _
        · exact .done _

theorem ofFiles_loadHome (kind : Kind) (home : Path) (root : Option Path) :
  OfFiles host (loadHome kind home root)
  := by
  apply OfFiles.bind (ofFiles_load host _)
  intro descriptor
  split
  · exact .done _
  · split
    · exact .done _
    · apply ofFiles_verify host _

theorem ofFiles_workspaceSource :
  OfFiles host workspaceSource
  := by
  apply OfFiles.bind
  · apply OfFiles.question
    trivial
  · intro roots
    split
    · apply OfFiles.bind
      · apply OfFiles.question
        trivial
      · intro kind
        split
        · exact .bind (ofFiles_loadHome host _ _ _) fun _ => .done _
        · exact .done _
    · exact .done _

theorem questions_missingOf (paths : List Path) :
  (missingOf paths).questions host = paths.map .kindOf
  := by
  induction paths with
  | nil => rfl
  | cons path rest ih =>
    simp [missingOf, Bind.bind, Pure.pure, Dialogue.exists?, Dialogue.question, Dialogue.bind,
      Dialogue.questions, ih]

theorem questions_load (file : Path) :
  (Descriptor.load file).questions host = [.read file]
  := by
  simp only [Descriptor.load, Dialogue.question, Bind.bind, Pure.pure, Dialogue.bind,
    Dialogue.questions]
  congr 1
  split
  · rfl
  · split
    · rfl
    · split <;> rfl

/-- Loading a home reads its descriptor file, and looks for the tools if the file names them. -/
theorem questions_loadHome (kind : Kind) (home : Path) (root : Option Path) :
  (∃ descriptor tools, Describes host (home / ("modular.cfg" : Path)) descriptor
      ∧ Names descriptor tools
      ∧ (loadHome kind home root).questions host
        = .read (home / ("modular.cfg" : Path)) :: tools.toList.map .kindOf)
    ∨ (∀ descriptor tools, Describes host (home / ("modular.cfg" : Path)) descriptor →
        ¬ Names descriptor tools)
      ∧ (loadHome kind home root).questions host = [.read (home / ("modular.cfg" : Path))]
  := by
  have hverify (descriptor : Descriptor.File) (tools : Tools) :
      (ofDescriptor kind home root descriptor tools).verify.questions host
        = tools.toList.map .kindOf := by
    rw [← paths_ofDescriptor kind home root descriptor tools, ← questions_missingOf]
    simp only [verify, missing, Bind.bind, Dialogue.questions_bind]
    split <;> exact List.append_nil _
  simp only [← answered_load_eq_ok, ← toolsOf_eq_ok (home / ("modular.cfg" : Path)), loadHome,
    descriptorName, Bind.bind, Dialogue.questions_bind, questions_load]
  cases (Descriptor.load (home / ("modular.cfg" : Path))).answered host with
  | error reason =>
    right
    simp [Pure.pure, Dialogue.questions]
  | ok descriptor =>
    cases htools : toolsOf (home / ("modular.cfg" : Path)) descriptor with
    | error reason =>
      refine .inr ⟨?_, by simp [htools, Pure.pure, Dialogue.questions]⟩
      rintro _ tools ⟨⟩ hnames
      cases htools.symm.trans hnames
    | ok tools => exact .inl ⟨descriptor, tools, rfl, htools, by simp [htools, hverify]⟩

/-! ### The workspace -/

/-- An installation in the workspace: exactly one folder is open, and the directory for the SDK
in it is a home installation. -/
structure WorkspaceInstall (root : Path) (descriptor : Descriptor.File) (tools : Tools) :
    Prop where
  only : host .workspaceRoots = [root]
  directory : host (.kindOf (root / (".derived" : Path))) = .ok .directory
  home : HomeInstall host (root / (".derived" : Path)) descriptor tools

/-- The directory for the SDK in the only open folder is loaded. -/
theorem answered_workspaceSource {root : Path} (honly : host .workspaceRoots = [root])
    (hdir : host (.kindOf (root / (workspaceDir : Path))) = .ok .directory) :
  workspaceSource.answered host
    = some ((loadHome .internal (root / (workspaceDir : Path)) none).answered host)
  := by
  simp only [workspaceSource, Dialogue.question, Bind.bind, Pure.pure, Dialogue.bind,
    Dialogue.answered, honly, hdir, Dialogue.answered_bind]

/-- What is found in the workspace is found in the directory of the only open folder. -/
theorem exists_root_of_answered_workspaceSource {result : Except SdkError Sdk}
    (h : workspaceSource.answered host = some result) :
  ∃ root, host .workspaceRoots = [root]
    ∧ host (.kindOf (root / (workspaceDir : Path))) = .ok .directory
  := by
  simp only [workspaceSource, Dialogue.question, Bind.bind, Pure.pure, Dialogue.bind,
    Dialogue.answered] at h
  split at h
  · next root honly =>
    simp only [Dialogue.answered] at h
    split at h
    · next hdir => exact ⟨root, honly, hdir⟩
    · cases h
  · cases h

theorem answered_workspaceSource_eq_ok (sdk : Sdk) :
  workspaceSource.answered host = some (.ok sdk)
    ↔ ∃ root descriptor tools, WorkspaceInstall host root descriptor tools
      ∧ sdk =
        { kind := .internal
          version := (descriptor.value? none "version").getD "0.0.0"
          tools := tools
          flavor := .home (root / (".derived" : Path)) none
          unwrappedRuntime := none }
  := by
  constructor
  · intro h
    obtain ⟨root, honly, hdir⟩ := exists_root_of_answered_workspaceSource host h
    rw [answered_workspaceSource host honly hdir, Option.some.injEq,
      answered_loadHome_eq_ok] at h
    obtain ⟨descriptor, tools, hhome, hsdk⟩ := h
    exact ⟨root, descriptor, tools, ⟨honly, hdir, hhome⟩, hsdk⟩
  · rintro ⟨root, descriptor, tools, hinstall, rfl⟩
    rw [answered_workspaceSource host hinstall.only hinstall.directory, Option.some.injEq,
      answered_loadHome_eq_ok]
    exact ⟨descriptor, tools, hinstall.home, rfl⟩

/-! ### The active environment -/

theorem answered_activeEnvironment :
  activeEnvironment.answered host
    = (host .activeEnvironment).bind fun name => host (.environment name)
  := by
  simp only [activeEnvironment, Dialogue.question, Bind.bind, Pure.pure, Dialogue.bind,
    Dialogue.answered]
  cases host .activeEnvironment with
  | none => rfl
  | some name => rfl

theorem questions_activeEnvironment {name : String} (h : host .activeEnvironment = some name) :
  activeEnvironment.questions host = [.activeEnvironment, .environment name]
  := by
  simp only [activeEnvironment, Dialogue.question, Bind.bind, Pure.pure, Dialogue.bind,
    Dialogue.questions, h]

theorem environmentHome_eq (environment : Host.Environment) :
  environmentHome environment = environment.sysPrefix / ("share/max" : Path)
  := Path.join_join environment.sysPrefix (q := "share") (by decide) "max"

/-- The descriptor file in the home of an environment. -/
theorem home_join_modularCfg (root : Path) :
  root / ("share/max" : Path) / ("modular.cfg" : Path) = root / ("share/max/modular.cfg" : Path)
  := Path.join_join root (q := "share/max") (by decide) "modular.cfg"

theorem descriptor_environmentHome (environment : Host.Environment) :
  environmentHome environment / (descriptorName : Path)
    = environment.sysPrefix / ("share/max/modular.cfg" : Path)
  := by
  rw [environmentHome_eq]
  exact home_join_modularCfg environment.sysPrefix

/-- The SDK of an environment is that of its descriptor file when this exists, as anything, and
otherwise that of its package. -/
theorem answered_environmentSource_eq_ok (environment : Host.Environment) (sdk : Sdk) :
  (environmentSource environment).answered host = .ok sdk
    ↔ Present host (environment.sysPrefix / ("share/max/modular.cfg" : Path))
        ∧ (∃ descriptor tools,
          HomeInstall host (environment.sysPrefix / ("share/max" : Path)) descriptor tools
          ∧ sdk =
            { kind := .environment
              version := (descriptor.value? none "version").getD "0.0.0"
              tools := tools
              flavor := .home (environment.sysPrefix / ("share/max" : Path))
                (some environment.sysPrefix)
              unwrappedRuntime := none })
      ∨ ¬ Present host (environment.sysPrefix / ("share/max/modular.cfg" : Path))
        ∧ PackagedInstall host environment.sysPrefix
        ∧ sdk = ofPackage host environment.sysPrefix
  := by
  rw [← answered_loadHome_eq_ok, ← answered_loadPackaged_eq_ok, ← answered_exists?,
    ← environmentHome_eq, ← descriptor_environmentHome]
  simp only [environmentSource, Bind.bind, Dialogue.answered_bind]
  cases (Dialogue.exists? (environmentHome environment / (descriptorName : Path))).answered host
    with
  | false => simp
  | true => simp

/-- When the descriptor file of an environment exists, nothing else is tried. -/
theorem questions_environmentSource {environment : Host.Environment}
    (h : Present host (environment.sysPrefix / ("share/max/modular.cfg" : Path))) :
  (environmentSource environment).questions host
    = .kindOf (environment.sysPrefix / ("share/max/modular.cfg" : Path))
      :: (loadHome .environment (environment.sysPrefix / ("share/max" : Path))
        (some environment.sysPrefix)).questions host
  := by
  have hexists := (answered_exists? host _).mpr h
  rw [← descriptor_environmentHome] at hexists ⊢
  rw [← environmentHome_eq]
  simp only [environmentSource, Bind.bind, Dialogue.questions_bind, hexists, if_true]
  rfl

end Sdk

namespace Probe

open Sdk

theorem answered_conclude (result : Except SdkError Sdk) (sdk : Sdk) :
  (conclude result).answered host = some sdk ↔ result = .ok sdk
  := by
  cases result with
  | error e => simp [conclude, answered]
  | ok sdk' => simp [conclude, answered]

/-- Without an environment nothing is found in it. -/
theorem answered_inEnvironment_of_none (h : activeEnvironment.answered host = none) :
  inEnvironment.answered host = none
  := by
  simp [inEnvironment, h, conclude, answered]

theorem answered_inEnvironment_of_some {environment : Host.Environment}
    (h : activeEnvironment.answered host = some environment) (sdk : Sdk) :
  inEnvironment.answered host = some sdk
    ↔ (environmentSource environment).answered host = .ok sdk
  := by
  simp [inEnvironment, h, answered, answered_conclude]

theorem questions_inEnvironment_of_some {environment : Host.Environment}
    (h : activeEnvironment.answered host = some environment) :
  inEnvironment.questions host
    = activeEnvironment.questions host ++ (environmentSource environment).questions host
  := by
  have hnone (result : Except SdkError Sdk) : (conclude result).questions host = [] := by
    cases result with
    | error e => rfl
    | ok sdk => rfl
  simp [inEnvironment, h, questions, hnone]

/-- An SDK of the workspace is found, and nothing is looked for in an environment. -/
theorem start_of_workspace {sdk : Sdk} (h : workspaceSource.answered host = some (.ok sdk)) :
  start.answered host = some sdk ∧ start.questions host = workspaceSource.questions host
  := by
  simp [start, h, answered, questions]

/-- Without an SDK of the workspace, the environment decides. -/
theorem start_of_no_workspace (h : ∀ sdk, workspaceSource.answered host ≠ some (.ok sdk)) :
  start.answered host = inEnvironment.answered host
    ∧ start.questions host = workspaceSource.questions host ++ inEnvironment.questions host
  := by
  rw [start, answered_after, questions_after]
  cases hw : workspaceSource.answered host with
  | none => exact ⟨rfl, rfl⟩
  | some result =>
    cases result with
    | error e => exact ⟨rfl, rfl⟩
    | ok sdk => exact absurd hw (h sdk)

/-- What is found in the workspace is an installation there. -/
theorem no_workspace_iff :
  (∀ sdk, workspaceSource.answered host ≠ some (.ok sdk))
    ↔ ∀ root descriptor tools, ¬ WorkspaceInstall host root descriptor tools
  := by
  simp only [ne_eq, answered_workspaceSource_eq_ok, not_exists, not_and]
  constructor
  · intro h root descriptor tools hinstall
    apply h _ root descriptor tools hinstall rfl
  · intro h sdk root descriptor tools hinstall
    exact absurd hinstall (h root descriptor tools)

/-- An SDK that is found in an environment is of this kind, and all its paths exist. -/
theorem exist_of_inEnvironment {sdk : Sdk} (h : inEnvironment.answered host = some sdk) :
  sdk.kind = .environment ∧ sdk.Exist host
  := by
  cases he : activeEnvironment.answered host with
  | none =>
    rw [answered_inEnvironment_of_none host he] at h
    cases h
  | some environment =>
    rw [answered_inEnvironment_of_some host he, answered_environmentSource_eq_ok] at h
    rcases h with ⟨-, descriptor, tools, hinstall, rfl⟩ | ⟨-, hinstall, rfl⟩
    · exact ⟨rfl, hinstall.exist, fun path hpath => by cases hpath⟩
    · exact ⟨rfl, hinstall.exist⟩

/-- An SDK that is found in the workspace is of this kind, and all its paths exist. -/
theorem exist_of_workspaceSource {sdk : Sdk}
    (h : workspaceSource.answered host = some (.ok sdk)) :
  sdk.kind = .internal ∧ sdk.Exist host
  := by
  obtain ⟨root, descriptor, tools, hinstall, rfl⟩ :=
    (answered_workspaceSource_eq_ok host sdk).mp h
  exact ⟨rfl, hinstall.home.exist, fun path hpath => by cases hpath⟩

/-- A search finds an SDK of the workspace, or else one of the environment. -/
theorem answered_start_cases {sdk : Sdk} (h : start.answered host = some sdk) :
  workspaceSource.answered host = some (.ok sdk)
    ∨ (∀ sdk', workspaceSource.answered host ≠ some (.ok sdk'))
      ∧ inEnvironment.answered host = some sdk
  := by
  by_cases hw : ∃ sdk', workspaceSource.answered host = some (.ok sdk')
  · obtain ⟨sdk', hw⟩ := hw
    obtain rfl := Option.some.inj (h.symm.trans (start_of_workspace host hw).1)
    exact .inl hw
  · rw [not_exists] at hw
    exact .inr ⟨hw, (start_of_no_workspace host hw).1.symm.trans h⟩

/-- A search finds an SDK of the workspace exactly when there is an installation. -/
theorem answered_start_internal_iff (sdk : Sdk) :
  start.answered host = some sdk ∧ sdk.kind = .internal
    ↔ workspaceSource.answered host = some (.ok sdk)
  := by
  constructor
  · rintro ⟨h, hkind⟩
    rcases answered_start_cases host h with hw | ⟨-, he⟩
    · apply hw
    · rw [(exist_of_inEnvironment host he).1] at hkind
      cases hkind
  · intro hw
    exact ⟨(start_of_workspace host hw).1, (exist_of_workspaceSource host hw).1⟩

/-- An SDK that is found is of one of the two kinds, and all its paths exist. -/
theorem exist_of_start {sdk : Sdk} (h : start.answered host = some sdk) :
  (sdk.kind = .internal ∨ sdk.kind = .environment) ∧ sdk.Exist host
  := by
  rcases answered_start_cases host h with hw | ⟨-, he⟩
  · obtain ⟨hkind, hexist⟩ := exist_of_workspaceSource host hw
    exact ⟨.inl hkind, hexist⟩
  · obtain ⟨hkind, hexist⟩ := exist_of_inEnvironment host he
    exact ⟨.inr hkind, hexist⟩

section Home

variable {host} {name : String} {environment : Host.Environment}
  (hw : ∀ sdk, workspaceSource.answered host ≠ some (.ok sdk))
  (hname : host .activeEnvironment = some name)
  (hactive : activeEnvironment.answered host = some environment)
  (hfile : Present host (environment.sysPrefix / ("share/max/modular.cfg" : Path)))

include hw hname hactive hfile

/-- A descriptor file in the environment, even if it is of no use, decides what a search asks. -/
theorem questions_start :
  start.questions host
    = workspaceSource.questions host ++ [.activeEnvironment, .environment name,
      .kindOf (environment.sysPrefix / ("share/max/modular.cfg" : Path))]
      ++ (loadHome .environment (environment.sysPrefix / ("share/max" : Path))
        (some environment.sysPrefix)).questions host
  := by
  rw [(start_of_no_workspace host hw).2, questions_inEnvironment_of_some host hactive,
    questions_activeEnvironment host hname, questions_environmentSource host hfile]
  simp

/-- Such a search reads the descriptor file, and looks for nothing but the tools that it names. -/
theorem questions_start_of_home :
  ∃ lookedFor : List Path, start.questions host
      = workspaceSource.questions host ++ [.activeEnvironment, .environment name,
        .kindOf (environment.sysPrefix / ("share/max/modular.cfg" : Path)),
        .read (environment.sysPrefix / ("share/max/modular.cfg" : Path))]
        ++ lookedFor.map .kindOf
    ∧ (lookedFor = [] ∨ ∃ descriptor tools,
      Describes host (environment.sysPrefix / ("share/max/modular.cfg" : Path)) descriptor
      ∧ Names descriptor tools ∧ lookedFor = tools.toList)
  := by
  rw [questions_start hw hname hactive hfile]
  rcases questions_loadHome host .environment (environment.sysPrefix / ("share/max" : Path))
      (some environment.sysPrefix) with
    ⟨descriptor, tools, hdescribes, hnames, hasked⟩ | ⟨-, hasked⟩
  · rw [home_join_modularCfg] at hdescribes hasked
    refine ⟨tools.toList, ?_, .inr ⟨descriptor, tools, hdescribes, hnames, rfl⟩⟩
    rw [hasked]
    simp
  · rw [home_join_modularCfg] at hasked
    refine ⟨[], ?_, .inl rfl⟩
    rw [hasked]
    simp

/-- A search that meets a descriptor file in the environment runs nothing. -/
theorem run_notMem_questions_start (call : Host.Invocation) :
  .run call ∉ start.questions host
  := by
  rw [questions_start hw hname hactive hfile, List.mem_append, List.mem_append]
  rintro ((hq | hq) | hq)
  · apply ofFiles_workspaceSource host _ hq
  · simp at hq
  · apply ofFiles_loadHome host _ _ _ _ hq

end Home

end Probe

end MojoToolchain
