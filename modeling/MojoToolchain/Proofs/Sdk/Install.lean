import MojoToolchain.Proofs.Outcome
import MojoToolchain.Proofs.Path.Resolution
import MojoToolchain.Sdk.Probe

/-!
# Installations

What stands on a host that does not change.  A home installation is a descriptor file that names
seven tools, all of which exist (`HomeInstall`); a packaged installation is eight conventional
paths, all of which exist (`PackagedInstall`).  Loading an installation gives an SDK exactly when
there is one, and then the SDK that it is.
-/

namespace MojoToolchain

open Host (Dialogue Question)

variable (host : (q : Question) → q.Answer)

/-- Something stands at a path. -/
def Present (path : Path) : Prop := ∃ kind, host (.kindOf path) = .ok kind

theorem answered_exists? (path : Path) :
  (Dialogue.exists? path).answered host = true ↔ Present host path
  := by
  simp only [Dialogue.exists?, Dialogue.question, Bind.bind, Pure.pure, Dialogue.bind,
    Dialogue.answered, Present]
  cases host (.kindOf path) with
  | error fault => simp
  | ok kind => simp

instance (path : Path) : Decidable (Present host path) :=
  decidable_of_iff _ (answered_exists? host path)

namespace Sdk

/-- Nothing is missing when all paths exist. -/
theorem answered_missing_eq_nil (sdk : Sdk) :
  sdk.missing.answered host = [] ↔ ∀ path ∈ sdk.paths, Present host path
  := by
  simp [missing, answered_missingOf, ← answered_exists?]

/-- Verifying an SDK gives the SDK itself, when all its paths exist, and nothing else. -/
theorem answered_verify_eq_ok (sdk sdk' : Sdk) :
  sdk.verify.answered host = .ok sdk'
    ↔ sdk' = sdk ∧ ∀ path ∈ sdk.paths, Present host path
  := by
  rw [← answered_missing_eq_nil]
  simp only [verify, Bind.bind, Pure.pure, Dialogue.answered_bind]
  cases sdk.missing.answered host with
  | nil => simp [Dialogue.answered, eq_comm]
  | cons path rest => simp [Dialogue.answered]

/-- All seven tools exist. -/
structure Tools.Exist (tools : Tools) : Prop where
  languageServer : Present host tools.languageServer
  formatter : Present host tools.formatter
  debugPlugin : Present host tools.debugPlugin
  debugAdapter : Present host tools.debugAdapter
  runtime : Present host tools.runtime
  visualizersDir : Present host tools.visualizersDir
  debugger : Present host tools.debugger

theorem Tools.exist_iff (tools : Tools) :
  tools.Exist host ↔ ∀ path ∈ tools.toList, Present host path
  := by
  simp only [toList, List.forall_mem_cons, List.not_mem_nil, false_implies, implies_true,
    and_true]
  constructor
  · rintro ⟨h₁, h₂, h₃, h₄, h₅, h₆, h₇⟩
    exact ⟨h₁, h₂, h₃, h₄, h₅, h₆, h₇⟩
  · rintro ⟨h₁, h₂, h₃, h₄, h₅, h₆, h₇⟩
    exact ⟨h₁, h₂, h₃, h₄, h₅, h₆, h₇⟩

/-- All that an SDK says exists. -/
structure Exist (sdk : Sdk) : Prop where
  tools : sdk.tools.Exist host
  unwrappedRuntime : ∀ path ∈ sdk.unwrappedRuntime, Present host path

/-- A descriptor file names the tools: it has a value for each of the seven keys. -/
structure Names (descriptor : Descriptor.File) (tools : Tools) : Prop where
  languageServer :
    descriptor.value? (some "mojo-max") "lsp_server_path" = some tools.languageServer.text
  formatter : descriptor.value? (some "mojo-max") "mblack_path" = some tools.formatter.text
  debugPlugin :
    descriptor.value? (some "mojo-max") "lldb_plugin_path" = some tools.debugPlugin.text
  debugAdapter :
    descriptor.value? (some "mojo-max") "lldb_vscode_path" = some tools.debugAdapter.text
  runtime : descriptor.value? (some "mojo-max") "driver_path" = some tools.runtime.text
  visualizersDir :
    descriptor.value? (some "mojo-max") "lldb_visualizers_path" = some tools.visualizersDir.text
  debugger : descriptor.value? (some "mojo-max") "lldb_path" = some tools.debugger.text

/-- The values of the keys are the tools, in their order. -/
theorem names_iff (descriptor : Descriptor.File) (tools : Tools) :
  Names descriptor tools
    ↔ toolKeys.map (descriptor.value? (some toolSection)) = tools.toList.map fun p => some p.text
  := by
  simp only [toolKeys, Tools.toList, List.map_cons, List.map_nil, List.cons.injEq, and_true]
  constructor
  · rintro ⟨h₁, h₂, h₃, h₄, h₅, h₆, h₇⟩
    exact ⟨h₁, h₂, h₃, h₄, h₅, h₆, h₇⟩
  · rintro ⟨h₁, h₂, h₃, h₄, h₅, h₆, h₇⟩
    exact ⟨h₁, h₂, h₃, h₄, h₅, h₆, h₇⟩

theorem toolPath_eq_ok (file : Path) (descriptor : Descriptor.File) (key : String) (path : Path) :
  toolPath file descriptor key = .ok path
    ↔ descriptor.value? (some toolSection) key = some path.text
  := by
  obtain ⟨text⟩ := path
  unfold toolPath
  cases descriptor.value? (some toolSection) key with
  | none => simp
  | some value => simp

theorem toolsOf_eq_ok (file : Path) (descriptor : Descriptor.File) (tools : Tools) :
  toolsOf file descriptor = .ok tools ↔ Names descriptor tools
  := by
  simp only [toolsOf, bind_eq_ok, toolPath_eq_ok]
  constructor
  · rintro ⟨languageServer, h₁, formatter, h₂, debugPlugin, h₃, debugAdapter, h₄, runtime, h₅,
      visualizersDir, h₆, debugger, h₇, ⟨⟩⟩
    exact ⟨h₁, h₂, h₃, h₄, h₅, h₆, h₇⟩
  · rintro ⟨h₁, h₂, h₃, h₄, h₅, h₆, h₇⟩
    exact ⟨_, h₁, _, h₂, _, h₃, _, h₄, _, h₅, _, h₆, _, h₇, rfl⟩

/-- The descriptor file at a path, when it can be read, decoded and parsed. -/
def Describes (file : Path) (descriptor : Descriptor.File) : Prop :=
  ∃ bytes text, host (.read file) = .ok bytes ∧ Text.decode bytes = .ok text
    ∧ Descriptor.File.parse text.toList = .ok descriptor

theorem answered_load_eq_ok (file : Path) (descriptor : Descriptor.File) :
  (Descriptor.load file).answered host = .ok descriptor ↔ Describes host file descriptor
  := by
  simp only [Descriptor.load, Dialogue.question, Bind.bind, Pure.pure, Dialogue.bind,
    Dialogue.answered, Describes]
  cases host (.read file) with
  | error fault => simp [Dialogue.answered]
  | ok bytes =>
    cases hdecode : Text.decode bytes with
    | error fault => simp [Dialogue.answered, hdecode]
    | ok text =>
      cases hparse : Descriptor.File.parse text.toList with
      | error fault => simp [Dialogue.answered, hdecode, hparse]
      | ok sections => simp [Dialogue.answered, hdecode, hparse]

/-- A home installation: a descriptor file that names seven tools, all of which exist. -/
structure HomeInstall (home : Path) (descriptor : Descriptor.File) (tools : Tools) : Prop where
  describes : Describes host (home / ("modular.cfg" : Path)) descriptor
  names : Names descriptor tools
  exist : tools.Exist host

@[simp]
theorem paths_ofDescriptor (kind : Kind) (home : Path) (root : Option Path)
    (descriptor : Descriptor.File) (tools : Tools) :
  (ofDescriptor kind home root descriptor tools).paths = tools.toList
  := List.append_nil _

/-- Loading a home gives an SDK exactly when the home is an installation: it has the tools that the
descriptor file names, and the version, if there is one. -/
theorem answered_loadHome_eq_ok (kind : Kind) (home : Path) (root : Option Path) (sdk : Sdk) :
  (loadHome kind home root).answered host = .ok sdk
    ↔ ∃ descriptor tools, HomeInstall host home descriptor tools
      ∧ sdk =
        { kind := kind
          version := (descriptor.value? none "version").getD "0.0.0"
          tools := tools
          flavor := .home home root
          unwrappedRuntime := none }
  := by
  have hparts : (loadHome kind home root).answered host = .ok sdk
      ↔ ∃ descriptor, (Descriptor.load (home / (descriptorName : Path))).answered host
          = .ok descriptor
        ∧ ∃ tools, toolsOf (home / (descriptorName : Path)) descriptor = .ok tools
          ∧ (ofDescriptor kind home root descriptor tools).verify.answered host = .ok sdk := by
    simp only [loadHome, Bind.bind, Pure.pure, Dialogue.answered_bind]
    cases (Descriptor.load (home / (descriptorName : Path))).answered host with
    | error reason => simp [Dialogue.answered]
    | ok descriptor =>
      cases htools : toolsOf (home / (descriptorName : Path)) descriptor with
      | error reason => simp [Dialogue.answered, htools]
      | ok tools => simp [htools]
  rw [hparts]
  constructor
  · rintro ⟨descriptor, hload, tools, htools, hverify⟩
    obtain ⟨rfl, hpresent⟩ := (answered_verify_eq_ok ..).mp hverify
    rw [answered_load_eq_ok] at hload
    rw [toolsOf_eq_ok] at htools
    rw [paths_ofDescriptor, ← Tools.exist_iff] at hpresent
    exact ⟨descriptor, tools, ⟨hload, htools, hpresent⟩, rfl⟩
  · rintro ⟨descriptor, tools, ⟨hload, htools, hexist⟩, rfl⟩
    refine ⟨descriptor, ?_, tools, ?_, ?_⟩
    · rwa [answered_load_eq_ok]
    · rwa [toolsOf_eq_ok]
    · rw [answered_verify_eq_ok, paths_ofDescriptor, ← Tools.exist_iff]
      exact ⟨rfl, hexist⟩

/-- A packaged installation: eight conventional paths, all of which exist. -/
structure PackagedInstall (root : Path) : Prop where
  languageServer : Present host (root / ("bin/mojo-lsp-server" : Path))
  formatter : Present host (root / ("bin/mblack" : Path))
  debugPlugin : Present host (root / ("lib/libMojoLLDB.so" : Path))
  debugAdapter : Present host (root / ("bin/mojo-lldb-dap" : Path))
  runtime : Present host (root / ("bin/mojo" : Path))
  visualizersDir : Present host (root / ("lib/lldb-visualizers" : Path))
  debugger : Present host (root / ("bin/mojo-lldb" : Path))
  unwrappedRuntime : Present host (root / ("lib/mojo/bin/mojo" : Path))

/-- The SDK of a packaged installation, with the version that its runtime says. -/
def ofPackage (root : Path) : Sdk where
  kind := .environment
  version :=
    match host (.run ⟨root / ("bin/mojo" : Path), ["--version"], []⟩) with
    | .ok output => if output.success then versionIn output.stdout else "0.0.0"
    | .error _ => "0.0.0"
  tools :=
    { languageServer := root / ("bin/mojo-lsp-server" : Path)
      formatter := root / ("bin/mblack" : Path)
      debugPlugin := root / ("lib/libMojoLLDB.so" : Path)
      debugAdapter := root / ("bin/mojo-lldb-dap" : Path)
      runtime := root / ("bin/mojo" : Path)
      visualizersDir := root / ("lib/lldb-visualizers" : Path)
      debugger := root / ("bin/mojo-lldb" : Path) }
  flavor := .packaged
  unwrappedRuntime := some (root / ("lib/mojo/bin/mojo" : Path))

/-- All paths of a package exist when it is an installation. -/
theorem PackagedInstall.exist {root : Path} (h : PackagedInstall host root) :
  (ofPackage host root).Exist host
  where
  tools := ⟨h.languageServer, h.formatter, h.debugPlugin, h.debugAdapter, h.runtime,
    h.visualizersDir, h.debugger⟩
  unwrappedRuntime := by
    rintro _ ⟨⟩
    exact h.unwrappedRuntime

theorem packagedInstall_iff (root : Path) :
  PackagedInstall host root ↔ ∀ path ∈ (ofPackage host root).paths, Present host path
  := by
  simp only [paths, Tools.toList, ofPackage, Option.toList_some, List.cons_append, List.nil_append,
    List.forall_mem_cons, List.not_mem_nil, false_implies, implies_true, and_true]
  constructor
  · rintro ⟨h₁, h₂, h₃, h₄, h₅, h₆, h₇, h₈⟩
    exact ⟨h₁, h₂, h₃, h₄, h₅, h₆, h₇, h₈⟩
  · rintro ⟨h₁, h₂, h₃, h₄, h₅, h₆, h₇, h₈⟩
    exact ⟨h₁, h₂, h₃, h₄, h₅, h₆, h₇, h₈⟩

/-- The conventional layout is that of a packaged installation. -/
theorem packaged_eq (root : Path) :
  packaged root "linux" = { ofPackage host root with version := "0.0.0" }
  := by
  have hjoin (dir name : Path) (hdir : dir.chars ≠ []) :
      root / dir / name = root / (dir / name) :=
    Path.join_join root hdir name
  have hinner : root / ("lib" : Path) / ("mojo" : Path) / ("bin" : Path) / ("mojo" : Path)
      = root / ("lib/mojo/bin/mojo" : Path) := by
    rw [hjoin "lib" _ (by decide), hjoin _ "bin" (by decide), hjoin _ "mojo" (by decide)]
    rfl
  rw [packaged, hinner]
  simp only [hjoin _ _ (show Path.chars "bin" ≠ [] by decide),
    hjoin _ _ (show Path.chars "lib" ≠ [] by decide)]
  rfl

theorem answered_askVersion (root : Path) :
  (askVersion (root / ("bin/mojo" : Path))).answered host = (ofPackage host root).version
  := by
  simp only [askVersion, ofPackage, Dialogue.question, Bind.bind, Pure.pure, Dialogue.bind,
    Dialogue.answered]
  cases host (.run ⟨root / ("bin/mojo" : Path), ["--version"], []⟩) with
  | error fault => rfl
  | ok output => rfl

/-- Loading a package gives an SDK exactly when it is an installation. -/
theorem answered_loadPackaged_eq_ok (environment : Host.Environment) (sdk : Sdk) :
  (loadPackaged environment).answered host = .ok sdk
    ↔ PackagedInstall host environment.sysPrefix ∧ sdk = ofPackage host environment.sysPrefix
  := by
  have hpresent := answered_missing_eq_nil host (packaged environment.sysPrefix "linux")
  have hpaths : (packaged environment.sysPrefix "linux").paths
      = (ofPackage host environment.sysPrefix).paths := by
    rw [packaged_eq host]
    rfl
  have hdraft : { packaged environment.sysPrefix "linux" with
        version := (askVersion (packaged environment.sysPrefix "linux").tools.runtime).answered
          host }
      = ofPackage host environment.sysPrefix := by
    rw [packaged_eq host]
    change { ofPackage host environment.sysPrefix with
      version := (askVersion (environment.sysPrefix / ("bin/mojo" : Path))).answered host } = _
    rw [answered_askVersion]
  rw [hpaths, ← packagedInstall_iff] at hpresent
  simp only [loadPackaged, Bind.bind, Pure.pure, Dialogue.answered_bind, ← hpresent]
  cases hmissing : (packaged environment.sysPrefix "linux").missing.answered host with
  | nil =>
    rw [hmissing] at hpresent
    simp only [Dialogue.answered_bind, true_and]
    rw [hdraft, answered_verify_eq_ok, ← packagedInstall_iff]
    exact and_iff_left (hpresent.mp rfl)
  | cons path rest => simp [Dialogue.answered]

end Sdk

end MojoToolchain
