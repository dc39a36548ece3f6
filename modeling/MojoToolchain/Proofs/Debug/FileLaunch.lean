import Mathlib.Tactic.SplitIfs
import MojoToolchain.Debug.Companion
import MojoToolchain.Debug.Completion
import MojoToolchain.Proofs.Outcome

/-!
# Running source files

Both backends check the same source file (`checkLaunch`) and run the same program with the same
arguments, but for those for building the file.
-/

namespace MojoToolchain.Debug

/-- An SDK in an environment. -/
def environmentSdk : Sdk where
  kind := .environment
  version := "24.6.0"
  tools :=
    { languageServer := ⟨"/env/bin/mojo-lsp-server"⟩
      formatter := ⟨"/env/bin/mblack"⟩
      debugPlugin := ⟨"/env/lib/libMojoLLDB.so"⟩
      debugAdapter := ⟨"/env/bin/mojo-lldb-dap"⟩
      runtime := ⟨"/env/bin/mojo"⟩
      visualizersDir := ⟨"/env/lib/lldb-visualizers"⟩
      debugger := ⟨"/env/bin/mojo-lldb"⟩ }
  flavor := .home ⟨"/env/share/max"⟩ (some ⟨"/env"⟩)
  unwrappedRuntime := none

namespace Configuration

variable {sdk : Sdk} {c : Configuration} {e : DebugError}

/-! ### The file of a configuration -/

/-- The source file that a configuration runs; one that attaches runs none. -/
def launchedFile? (c : Configuration) : Option String :=
  if c.isAttach then none else c.mojoFile

/-- The configuration runs a file that the SDK does not run, or one that is no source file. -/
inductive Refused (sdk : Sdk) (c : Configuration) : DebugError → Prop
  | unsupported {file : String} (hfile : c.launchedFile? = some file)
      (hsdk : sdk.supportsFileLaunch = false) : Refused sdk c (.fileLaunchUnsupported file)
  | extension {file : String} (hfile : c.launchedFile? = some file)
      (hsdk : sdk.supportsFileLaunch = true) (hsource : isSource file = false) :
      Refused sdk c (.unsupportedExtension file)

/-- Checks the file that a configuration runs. -/
def checkLaunch (sdk : Sdk) (c : Configuration) : Except DebugError Unit :=
  match c.launchedFile? with
  | none => .ok ()
  | some file => checkFileLaunch sdk file

theorem checkLaunch_eq_error_iff :
  checkLaunch sdk c = .error e ↔ c.Refused sdk e
  := by
  unfold checkLaunch
  split
  case h_1 hfile =>
    constructor
    · intro h
      cases h
    · rintro (⟨h, -⟩ | ⟨h, -, -⟩)
      · cases hfile.symm.trans h
      · cases hfile.symm.trans h
  case h_2 file hfile =>
    unfold checkFileLaunch
    constructor
    · intro h
      split_ifs at h with hsdk hsource
      · cases h
        exact .unsupported hfile (by simpa using hsdk)
      · cases h
        exact .extension hfile (by simpa using hsdk) (by simpa using hsource)
    · rintro (⟨hfile', hsdk⟩ | ⟨hfile', hsdk, hsource⟩)
      · obtain rfl := Option.some.inj (hfile.symm.trans hfile')
        simp [hsdk]
      · obtain rfl := Option.some.inj (hfile.symm.trans hfile')
        simp [hsdk, hsource]

/-- The program that a configuration runs: the runtime if it runs a file. -/
def launchedProgram (sdk : Sdk) (c : Configuration) : Option String :=
  match c.launchedFile? with
  | none => c.program
  | some _ => some sdk.tools.runtime.text

/-- The arguments of the program that a configuration runs, with arguments for building a file. -/
def launchedArgs (buildArgs : List String) (c : Configuration) : Option (List String) :=
  match c.launchedFile? with
  | none => c.args
  | some file => some (runArguments file buildArgs (c.args.getD []))

/-- A configuration with its request and what it runs. -/
def launching (sdk : Sdk) (c : Configuration) : Configuration :=
  { c with
    request := some c.requestOf
    program := c.launchedProgram sdk
    args := c.launchedArgs (c.buildArgs.getD []) }

/-! ### Requests -/

theorem requestOf_of_isAttach (h : c.isAttach) :
  c.requestOf = .attach
  := by
  simp [requestOf, h]

/-- A configuration that does not attach launches. -/
theorem getD_request (h : ¬ c.isAttach) :
  c.request.getD .launch = .launch
  := by
  cases hr : c.request with
  | none => rfl
  | some r =>
    cases r with
    | launch => rfl
    | attach => simp [isAttach, hr] at h

theorem requestOf_of_not_isAttach (h : ¬ c.isAttach) :
  c.requestOf = .launch
  := by
  rw [requestOf, if_neg h, getD_request h]

/-! ### The two backends -/

/-- What a configuration runs with the SDK's own debugger. -/
theorem withRequest_eq (sdk : Sdk) (c : Configuration) :
  c.withRequest sdk = (checkLaunch sdk c).map fun _ => c.launching sdk
  := by
  by_cases h : c.isAttach
  · rw [withRequest_of_isAttach h, launching, requestOf_of_isAttach h]
    simp [checkLaunch, launchedProgram, launchedArgs, launchedFile?, h, Except.map]
  · rw [withRequest, launching, requestOf_of_not_isAttach h]
    simp only [checkLaunch, launchedProgram, launchedArgs, launchedFile?, if_neg h, getD_request h,
      runFile]
    cases c.mojoFile with
    | none => rfl
    | some file => cases hcheck : checkFileLaunch sdk file <;> simp only [hcheck] <;> rfl

/-- The companion debugger runs the same, without arguments for building a file. -/
theorem programOf_eq (sdk : Sdk) (c : Configuration) :
  c.programOf sdk = (checkLaunch sdk c).map fun _ => (c.launchedProgram sdk, c.launchedArgs [])
  := by
  by_cases h : c.isAttach
  · rw [programOf, requestOf_of_isAttach h]
    simp [checkLaunch, launchedProgram, launchedArgs, launchedFile?, h, Except.map]
  · rw [programOf, requestOf_of_not_isAttach h]
    simp only [checkLaunch, launchedProgram, launchedArgs, launchedFile?, if_neg h]
    cases c.mojoFile with
    | none => rfl
    | some file => cases hcheck : checkFileLaunch sdk file <;> simp only [hcheck] <;> rfl

end Configuration

end MojoToolchain.Debug
