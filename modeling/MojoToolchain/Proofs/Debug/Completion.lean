import MojoToolchain.Proofs.Debug.ConfigurationFields
import MojoToolchain.Proofs.Debug.FileLaunch
import MojoToolchain.Proofs.Path.Order

/-!
# Complete configurations

What completing a configuration leaves of it and what it adds, field by field.
-/

namespace MojoToolchain.Debug

open Host (Question)

/-- The commands import each entry of a listing, in ascending order of paths or in the order of the
listing.  There are none when the debugger cannot run scripts or nothing was listed. -/
def ImportsVisualizers (options : NormalizerOptions) (scripting : Bool)
    (listing : Except Host.Fault (List Path)) (commands : List String) : Prop :=
  match scripting, listing with
  | true, .ok entries => ∃ ordered : List Path, ordered.Perm entries
      ∧ (if options.sortVisualizers then ordered.Pairwise fun p q => p.sortKey ≤ q.sortKey
        else ordered = entries)
      ∧ commands = ordered.map fun entry => "command script import " ++ entry.text
  | _, _ => commands = []

/-- The commands for the visualizers when a host answers. -/
def visualizersWith (options : NormalizerOptions) (sdk : Sdk) (known : Option Bool)
    (host : (q : Question) → q.Answer) : List String :=
  if (supportsScripting sdk known).answered host then
    (visualizerCommands sdk options.sortVisualizers).answered host
  else []

theorem importsVisualizers_visualizersWith (options : NormalizerOptions) (sdk : Sdk)
    (known : Option Bool) (host : (q : Question) → q.Answer) :
  ImportsVisualizers options ((supportsScripting sdk known).answered host)
    (host (.list sdk.tools.visualizersDir)) (visualizersWith options sdk known host)
  := by
  unfold visualizersWith
  cases (supportsScripting sdk known).answered host with
  | false => cases host (.list sdk.tools.visualizersDir) <;> rfl
  | true =>
    rw [if_pos rfl, visualizerCommands]
    simp only [Bind.bind, Host.Dialogue.answered_bind, Host.Dialogue.question,
      Host.Dialogue.answered]
    cases host (.list sdk.tools.visualizersDir) with
    | error e => rfl
    | ok entries =>
      cases hsort : options.sortVisualizers with
      | false => exact ⟨entries, .refl _, by rw [hsort]; rfl, rfl⟩
      | true =>
        refine ⟨entries.mergeSort Path.le, List.mergeSort_perm _ _, ?_, rfl⟩
        rw [hsort]
        exact Path.pairwise_mergeSort_le entries

/-- The variables of an SDK stand in ascending order of names. -/
theorem pairwise_environment (sdk : Sdk) (telemetry : Bool) :
  (sdk.environment telemetry).Pairwise fun v w => v.1 < w.1
  := by
  unfold Sdk.environment
  cases sdk.flavor with
  | packaged => exact List.pairwise_singleton _ _
  | home home root =>
    simp only [List.pairwise_cons, List.forall_mem_cons, List.not_mem_nil, IsEmpty.forall_iff,
      implies_true, List.Pairwise.nil, and_true]
    decide +kernel

namespace Configuration

/-- What is set where a configuration sets nothing. -/
def defaults (options : NormalizerOptions) (sdk : Sdk) : Configuration :=
  { unset with
    type := some "mojo-lldb"
    customFrameFormat := some
      ("frame #$\x7bframe.index\x7d: $\x7bframe.pc\x7d\x7b $\x7bmodule.file.basename\x7d\x7b`"
        ++ "$\x7bfunction.name-with-args\x7d\x7d\x7d\x7b at $\x7bline.file.basename\x7d:"
        ++ "$\x7bline.number\x7d\x7d\n")
    enableSyntheticChildDebugging := some true
    enableAutoVariableSummaries := some true
    commandEscapePrefix := some ":"
    timeout := some options.initTimeoutSecs
    debuggerPath := some sdk.tools.debugger.text
    debugAdapterPath := some sdk.tools.debugAdapter.text }

/-- The keys of the fields that are made anew. -/
def remade : List String := ["request", "program", "args", "initCommands", "env"]

/-- A configuration completes another. -/
structure Completes (options : NormalizerOptions) (sdk : Sdk) (visualizers : List String)
    (c n : Configuration) : Prop where
  request : n.request = some (if c.isAttach then .attach else c.request.getD .launch)
  launch : ∀ file, c.launchedFile? = some file →
    n.program = some sdk.tools.runtime.text
      ∧ n.args = some (["run", "--no-optimization", "--debug-level", "full"]
        ++ c.buildArgs.getD [] ++ [file] ++ c.args.getD [])
  noLaunch : c.launchedFile? = none → n.program = c.program ∧ n.args = c.args
  initCommands : n.initCommands = some
    (["plugin load " ++ sdk.tools.debugPlugin.text,
      "settings set target.show-hex-variable-values-with-leading-zeroes false",
      "settings set target.process.optimization-warnings false",
      "mojo telemetry session-start"]
    ++ c.initCommands.getD [] ++ visualizers)
  env : n.env = some (["LLDB_VSCODE_RIT_TIMEOUT_IN_MS" ++ "="
      ++ toString (min (1000 * (c.timeout.getD options.initTimeoutSecs).toNat) (2 ^ 64 - 1))]
    ++ (sdk.environment options.telemetry).map (fun (name, value) => name ++ "=" ++ value)
    ++ c.env.getD [])
  others : ∀ f ∈ fields, f.key ∉ remade → f.key ≠ "debugAdapterPath" →
    f.value n = (f.value c <|> f.value (defaults options sdk))
  debugAdapterPath : n.debugAdapterPath = some sdk.tools.debugAdapter.text
  extra : n.extra = c.extra

/-- Completing a configuration succeeds when the file that it runs can be run. -/
theorem answered_complete (options : NormalizerOptions) (sdk : Sdk) (known : Option Bool)
    (c : Configuration) (host : (q : Question) → q.Answer) :
  ((c.complete options sdk known).answered host).1 = (checkLaunch sdk c).map fun _ =>
    (c.launching sdk).fill options sdk (visualizersWith options sdk known host)
  := by
  rw [complete, withRequest_eq]
  cases checkLaunch sdk c with
  | error e => rfl
  | ok =>
    simp only [Except.map, Bind.bind, Host.Dialogue.answered_bind, visualizersWith]
    cases (supportsScripting sdk known).answered host with
    | false => rfl
    | true =>
      rw [if_pos rfl, if_pos rfl, Host.Dialogue.answered_bind]
      rfl

theorem completes_fill (options : NormalizerOptions) (sdk : Sdk) (visualizers : List String)
    (c : Configuration) :
  Completes options sdk visualizers c ((c.launching sdk).fill options sdk visualizers)
  where
  request := rfl
  launch file hfile := by
    simp [fill, launching, launchedProgram, launchedArgs, hfile, runArguments, runFlags]
  noLaunch hfile := by
    simp [fill, launching, launchedProgram, launchedArgs, hfile]
  initCommands := rfl
  env := rfl
  others := by
    have hset {α : Type} (a : Option α) (d : α) (write : α → Json) :
        (some (a.getD d)).map write = (a.map write <|> (some d).map write) := by
      cases a <;> rfl
    have hkept {α : Type} (a : Option α) (write : α → Json) :
        a.map write = (a.map write <|> none) := by
      cases a <;> rfl
    simp only [fields, List.forall_mem_cons, List.not_mem_nil, IsEmpty.forall_iff, implies_true,
      and_true]
    and_intros
    all_goals
      intro hremade hadapter
      first
      | exact absurd (by decide) hremade
      | exact absurd rfl hadapter
      | exact hset _ _ _
      | exact hkept _ _
      | exact hset c.timeout _ fun n => .natural n.toNat
  debugAdapterPath := rfl
  extra := rfl

/-- The field for the debug adapter. -/
def adapterField : Json.Field Configuration :=
  .text "debugAdapterPath" (·.debugAdapterPath) fun v c => { c with debugAdapterPath := v }

theorem adapterField_mem :
  adapterField ∈ fields
  := List.getElem_mem (n := 18) (by decide)

theorem eq_adapterField {f : Json.Field Configuration} (hf : f ∈ fields)
    (hkey : f.key = "debugAdapterPath") :
  f = adapterField
  := List.inj_on_of_nodup_map lawful_record.nodup_known hf adapterField_mem hkey

/-- Only the debug adapter of a configuration may be lost. -/
theorem Completes.keeps_iff {options : NormalizerOptions} {sdk : Sdk} {visualizers : List String}
    {c n : Configuration} (h : Completes options sdk visualizers c n) :
  (∀ f ∈ fields, f.key ∉ remade → ∀ v, f.value c = some v → f.value n = some v)
    ↔ c.debugAdapterPath = none ∨ c.debugAdapterPath = some sdk.tools.debugAdapter.text
  := by
  have hn : adapterField.value n = some (.string sdk.tools.debugAdapter.text) :=
    congrArg (Option.map Json.string) h.debugAdapterPath
  constructor
  · intro hkeeps
    cases hc : c.debugAdapterPath with
    | none => exact .inl rfl
    | some adapter =>
      have hvalue : adapterField.value c = some (.string adapter) :=
        congrArg (Option.map Json.string) hc
      have hkept := hkeeps adapterField adapterField_mem (by decide) _ hvalue
      cases hn.symm.trans hkept
      exact .inr rfl
  · intro hadapter f hf hremade v hv
    by_cases hkey : f.key = "debugAdapterPath"
    · obtain rfl := eq_adapterField hf hkey
      obtain ⟨adapter, hc, rfl⟩ := Option.map_eq_some_iff.mp hv
      rcases hadapter with hnone | hsome
      · cases hnone.symm.trans hc
      · cases hsome.symm.trans hc
        exact hn
    · rw [h.others f hf hremade hkey, hv]
      rfl

/-- Completing a configuration fails exactly when the file that it runs cannot be run.  Otherwise
the commands and variables of the SDK come before those of the configuration, and all else that
the configuration sets is kept, with the exception of the debug adapter: it is always the one of
the SDK. -/
theorem complete_contract (options : NormalizerOptions) (sdk : Sdk) (known : Option Bool)
    (c : Configuration) (host : (q : Question) → q.Answer) :
  (∀ e, ((c.complete options sdk known).answered host).1 = .error e ↔ c.Refused sdk e)
    ∧ (sdk.environment options.telemetry).Pairwise (fun v w => v.1 < w.1)
    ∧ ∀ n, ((c.complete options sdk known).answered host).1 = .ok n →
      (∃ visualizers, ImportsVisualizers options ((supportsScripting sdk known).answered host)
          (host (.list sdk.tools.visualizersDir)) visualizers
        ∧ Completes options sdk visualizers c n)
      ∧ ((∀ f ∈ fields, f.key ∉ remade → ∀ v, f.value c = some v → f.value n = some v)
        ↔ c.debugAdapterPath = none ∨ c.debugAdapterPath = some sdk.tools.debugAdapter.text)
  := by
  rw [answered_complete]
  refine ⟨fun e => ?_, pairwise_environment sdk options.telemetry, ?_⟩
  · rw [← checkLaunch_eq_error_iff]
    cases checkLaunch sdk c <;> simp [Except.map]
  · intro n hn
    obtain ⟨-, -, rfl⟩ := (map_eq_ok _ _ _).mp hn
    have hcompletes := completes_fill options sdk (visualizersWith options sdk known host) c
    exact ⟨⟨_, importsVisualizers_visualizersWith options sdk known host, hcompletes⟩,
      hcompletes.keeps_iff⟩

/-- A host whose debugger runs scripts, with two visualizers. -/
def scriptingHost : (q : Question) → q.Answer
  | .workspaceRoots => []
  | .kindOf _ => .error .notFound
  | .read _ => .error .notFound
  | .list _ => .ok [⟨"/env/lib/lldb-visualizers/b.py"⟩, ⟨"/env/lib/lldb-visualizers/a.py"⟩]
  | .activeEnvironment => none
  | .environment _ => none
  | .run _ => .ok ⟨"101\n", "", 0, true⟩
  | .pipe _ _ => .error (.start .notFound)
  | .write _ _ => .error .notFound
  | .openLog _ => ()

/-- A configuration that runs a file, with a time that is too long for its variable. -/
def fileLaunch : Configuration :=
  { unset with
    mojoFile := some "/w/main.mojo"
    args := some ["--flag"]
    buildArgs := some ["-D", "X=1"]
    env := some ["A=1"]
    initCommands := some ["own"]
    timeout := some 18446744073709551615
    extra := [("trace", .null)] }

theorem complete_contract_fileLaunch :
  (∃ n, ((fileLaunch.complete ⟨true, 300, false⟩ environmentSdk none).answered scriptingHost).1
      = .ok n
    ∧ n.request = some .launch ∧ n.program = some "/env/bin/mojo"
    ∧ n.args = some ["run", "--no-optimization", "--debug-level", "full", "-D", "X=1",
        "/w/main.mojo", "--flag"]
    ∧ n.initCommands = some ["plugin load /env/lib/libMojoLLDB.so",
        "settings set target.show-hex-variable-values-with-leading-zeroes false",
        "settings set target.process.optimization-warnings false",
        "mojo telemetry session-start", "own",
        "command script import /env/lib/lldb-visualizers/b.py",
        "command script import /env/lib/lldb-visualizers/a.py"]
    ∧ n.env = some ["LLDB_VSCODE_RIT_TIMEOUT_IN_MS=18446744073709551615",
        "MODULAR_HOME=/env/share/max", "MODULAR_TELEMETRY_ENABLED=true", "MOJO_HOME=/env", "A=1"]
    ∧ n.extra = [("trace", .null)])
  ∧ ∃ n, ((fileLaunch.complete ⟨true, 300, true⟩ environmentSdk (some true)).answered
      scriptingHost).1 = .ok n
    ∧ n.initCommands = some ["plugin load /env/lib/libMojoLLDB.so",
        "settings set target.show-hex-variable-values-with-leading-zeroes false",
        "settings set target.process.optimization-warnings false",
        "mojo telemetry session-start", "own",
        "command script import /env/lib/lldb-visualizers/a.py",
        "command script import /env/lib/lldb-visualizers/b.py"]
  := by
  have hready (sorted : Bool) (known : Option Bool) :
      ∃ n, ((fileLaunch.complete ⟨true, 300, sorted⟩ environmentSdk known).answered
        scriptingHost).1 = .ok n := by
    have herror := (complete_contract ⟨true, 300, sorted⟩ environmentSdk known fileLaunch
      scriptingHost).1
    cases hn : ((fileLaunch.complete ⟨true, 300, sorted⟩ environmentSdk known).answered
        scriptingHost).1 with
    | ok n => exact ⟨n, rfl⟩
    | error e =>
      rcases (herror e).mp hn with ⟨-, hsdk⟩ | ⟨hfile, -, hsource⟩
      · cases hsdk
      · cases hfile
        exact absurd hsource (by decide +kernel)
  constructor
  · obtain ⟨n, hn⟩ := hready false none
    obtain ⟨⟨visualizers, hvisualizers, h⟩, -⟩ :=
      (complete_contract _ _ _ fileLaunch scriptingHost).2.2 n hn
    have hscripting : (supportsScripting environmentSdk none).answered scriptingHost = true := by
      decide +kernel
    rw [hscripting] at hvisualizers
    obtain ⟨ordered, -, hordered, rfl⟩ := hvisualizers
    obtain rfl : ordered = _ := hordered
    obtain ⟨hprogram, hargs⟩ := h.launch "/w/main.mojo" rfl
    exact ⟨n, hn, h.request, hprogram, hargs, h.initCommands, h.env.trans (by decide +kernel),
      h.extra⟩
  · obtain ⟨n, hn⟩ := hready true (some true)
    obtain ⟨⟨visualizers, ⟨ordered, hperm, hordered, rfl⟩, h⟩, -⟩ :=
      (complete_contract _ _ _ fileLaunch scriptingHost).2.2 n hn
    have hsorted : [⟨"/env/lib/lldb-visualizers/a.py"⟩,
        ⟨"/env/lib/lldb-visualizers/b.py"⟩].Pairwise fun p q : Path => p.sortKey ≤ q.sortKey := by
      decide +kernel
    have hinj : ∀ p ∈ ordered, ∀ q ∈ ordered, p.sortKey = q.sortKey → p = q := by
      simp only [hperm.mem_iff]
      decide +kernel
    -- Two lists of the same paths that both ascend are the same.
    have hswap := hperm.trans (.swap _ _ _)
    obtain rfl := hswap.eq_of_pairwise
      (fun p q hp hq hpq hqp => hinj p hp q (hswap.mem_iff.mpr hq) (hpq.antisymm hqp))
      hordered hsorted
    exact ⟨n, hn, h.initCommands⟩

/-- A debug adapter that the configuration sets is not kept. -/
theorem adapter_replaced :
  ∃ n, (({ unset with debugAdapterPath := some "/my/adapter" }.complete ⟨true, 300, true⟩
      environmentSdk none).answered scriptingHost).1 = .ok n
    ∧ n.debugAdapterPath = some "/env/bin/mojo-lldb-dap"
  := ⟨_, rfl, rfl⟩

end Configuration

end MojoToolchain.Debug
