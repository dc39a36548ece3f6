import MojoToolchain.Proofs.Resolver.Steps
import MojoToolchain.Proofs.Sdk.Search

/-!
# A call of an empty resolver

A call that finds nothing cached and nothing in flight starts a probe.  On a host that does not
change, the probe is done after finitely many instructions (`History.stage_resolve`), and the
call returns what the search of the probe finds.
-/

namespace MojoToolchain

open Host (Question)

namespace Probe

variable (host : (q : Question) → q.Answer)

/-- What is left of a probe after one instruction. -/
def next : Probe → Probe
  | done result => done result
  | ask q next => next (host q)
  | observe _ next => next
  | report _ next => next

/-- The number of instructions of a probe. -/
def length : Probe → Nat
  | done _ => 0
  | ask q next => (next (host q)).length + 1
  | observe _ next => next.length + 1
  | report _ next => next.length + 1

@[simp]
theorem answered_next (p : Probe) :
  (p.next host).answered host = p.answered host
  := by
  cases p with
  | done result => rfl
  | ask q next => rfl
  | observe key next => rfl
  | report error next => rfl

@[simp]
theorem length_next (p : Probe) :
  (p.next host).length host = p.length host - 1
  := by
  cases p with
  | done result => rfl
  | ask q next => rfl
  | observe key next => rfl
  | report error next => rfl

/-- A probe is what is left of another one: it finds the same, and asks what that has not asked
yet. -/
structure LeftOf (p' p : Probe) : Prop where
  answered : p'.answered host = p.answered host
  questions : p'.questions host <:+ p.questions host

theorem LeftOf.refl (p : Probe) :
  p.LeftOf host p
  := ⟨rfl, List.suffix_rfl⟩

theorem LeftOf.trans {p p' p'' : Probe} (h : p''.LeftOf host p') (h' : p'.LeftOf host p) :
  p''.LeftOf host p
  := ⟨h.answered.trans h'.answered, h.questions.trans h'.questions⟩

theorem leftOf_next (p : Probe) :
  (p.next host).LeftOf host p
  := by
  constructor
  · apply p.answered_next host
  · cases p with
    | done result => apply List.suffix_rfl
    | ask q next => apply List.suffix_cons q _
    | observe key next => apply List.suffix_rfl
    | report error next => apply List.suffix_rfl

/-- A probe without instructions is done. -/
theorem eq_done_of_length {p : Probe} (h : p.length host = 0) :
  p = .done (p.answered host)
  := by
  cases p with
  | done result => rfl
  | ask q next => cases h
  | observe key next => cases h
  | report error next => cases h

end Probe

namespace Resolver

variable (host : (q : Question) → q.Answer)

/-- A probe that goes on has one instruction less. -/
theorem stage_advance {r : Resolver} {n epoch : Nat} {p : Probe}
    (hp : r.probes[n]? = some ⟨epoch, p⟩) :
  (r.advance n host).1.probes[n]? = some ⟨epoch, p.next host⟩
  := by
  have hset (slot : Slot) (stage : Probe) :
      ({ r with slot := slot }.setStage n stage).probes[n]? = some ⟨epoch, stage⟩ := by
    rw [probes_setStage, if_pos rfl, hp]
    rfl
  unfold advance
  rw [hp]
  cases p with
  | done result => apply hp
  | ask q next => apply hset r.slot _
  | observe key next => apply hset _ _
  | report error next => apply hset _ _

/-- The other probes stay where they are. -/
theorem stage_advance_of_ne {r : Resolver} {n m : Nat} (hne : m ≠ n)
    (answer : (q : Question) → q.Answer) :
  (r.advance m answer).1.probes[n]? = r.probes[n]?
  := by
  rcases r.advance_cases m answer with h | ⟨-, slot, stage, message, h, -⟩
  · rw [h]
  · rw [h, probes_setStage, if_neg hne]

namespace History

/-- What becomes of a probe depends only on the answers to its own questions. -/
theorem stage_step {h : History} {n epoch : Nat} {p : Probe} {s : Step}
    (hp : h.resolver.probes[n]? = some ⟨epoch, p⟩)
    (hs : ∀ answer, s = .advance n answer → answer = host) :
  ∃ p', (h.step s).resolver.probes[n]? = some ⟨epoch, p'⟩ ∧ p'.LeftOf host p
  := by
  cases s with
  | enter =>
    rcases h.enter_cases with ⟨d, -, he⟩ | ⟨m, -, -, he⟩ | ⟨-, -, he⟩
    · rw [he]
      exact ⟨p, hp, .refl host p⟩
    · rw [he]
      exact ⟨p, hp, .refl host p⟩
    · rw [he]
      refine ⟨p, ?_, .refl host p⟩
      have hlt := (Array.getElem?_eq_some_iff.mp hp).1
      rw [launch, Array.getElem?_push, if_neg (Nat.ne_of_lt hlt)]
      apply hp
  | advance m answer =>
    by_cases hm : m = n
    · subst hm
      obtain rfl := hs answer rfl
      exact ⟨p.next answer, stage_advance answer hp, p.leftOf_next answer⟩
    · exact ⟨p, (stage_advance_of_ne hm answer).trans hp, .refl host p⟩
  | leave call =>
    rcases h.leave_cases call with ⟨he, -⟩ | ⟨_, _, _, -, -, he⟩
    · rw [he]
      exact ⟨p, hp, .refl host p⟩
    · rw [he]
      exact ⟨p, hp, .refl host p⟩
  | look => exact ⟨p, hp, .refl host p⟩
  | invalidate key =>
    rcases h.invalidate_cases key with ⟨-, he⟩ | ⟨-, he⟩
    · rw [he]
      exact ⟨p, hp, .refl host p⟩
    · rw [he]
      exact ⟨p, hp, .refl host p⟩

/-- The same after any steps, of whatever calls and probes. -/
theorem stage_foldl {h : History} {n epoch : Nat} {p : Probe} {steps : List Step}
    (hp : h.resolver.probes[n]? = some ⟨epoch, p⟩)
    (hs : ∀ answer, .advance n answer ∈ steps → answer = host) :
  ∃ p', (steps.foldl step h).resolver.probes[n]? = some ⟨epoch, p'⟩ ∧ p'.LeftOf host p
  := by
  induction steps generalizing h p with
  | nil => exact ⟨p, hp, .refl host p⟩
  | cons s steps ih =>
    have hfirst : ∀ answer, s = .advance n answer → answer = host := by
      rintro answer rfl
      apply hs answer List.mem_cons_self
    obtain ⟨p', hp', hleft⟩ := stage_step host hp hfirst
    obtain ⟨p'', hp'', hleft'⟩ := ih hp' fun answer hmem => hs answer (List.mem_cons_of_mem s hmem)
    exact ⟨p'', hp'', hleft'.trans host hleft⟩

/-- A call enters a resolver, the probe that it starts goes on by a number of instructions, and
the call leaves. -/
def resolve (h : History) (instructions : Nat) : History :=
  ((List.replicate instructions (.advance h.resolver.probes.size host)).foldl step
    (h.step .enter)).step (.leave h.calls.size)

/-- Probes that go on change no call. -/
theorem calls_foldl_advance (h : History) (n count : Nat) :
  ((List.replicate count (.advance n host)).foldl step h).calls = h.calls
  := by
  induction count generalizing h with
  | zero => rfl
  | succ count ih =>
    rw [List.replicate_succ, List.foldl_cons, ih]
    rfl

/-- A probe that goes on often enough is done. -/
theorem stage_foldl_advance {h : History} {n epoch : Nat} {p : Probe}
    (hp : h.resolver.probes[n]? = some ⟨epoch, p⟩) {count : Nat} (hcount : p.length host ≤ count) :
  ((List.replicate count (.advance n host)).foldl step h).resolver.probes[n]?
    = some ⟨epoch, .done (p.answered host)⟩
  := by
  induction count generalizing h p with
  | zero =>
    rw [← p.eq_done_of_length host (Nat.le_zero.mp hcount)]
    apply hp
  | succ count ih =>
    rw [List.replicate_succ, List.foldl_cons, ← p.answered_next host]
    apply ih (stage_advance host hp)
    rw [Probe.length_next]
    omega

/-- A call that waits for a probe which is done returns its result when it leaves. -/
theorem calls_leave {h : History} {call epoch n : Nat} {result : Option Descriptor}
    (hv : h.calls[call]? = some ⟨epoch, .waiting n⟩) (hn : h.resolver.result? n = some result) :
  (h.step (.leave call)).calls[call]? = some ⟨epoch, .returned result⟩
  := by
  rcases h.leave_cases call with ⟨-, hwaits⟩ | ⟨_, _, _, hv', hn', hs⟩
  · cases (hwaits hv).symm.trans hn
  · cases hv.symm.trans hv'
    cases hn.symm.trans hn'
    rw [hs]
    apply Array.getElem?_setIfInBounds_self_of_lt (Array.getElem?_eq_some_iff.mp hv).1

/-- A call that finds nothing cached and nothing in flight starts a probe. -/
theorem enter_of_empty {h : History} (hc : h.resolver.slot.cached = none)
    (hflight : h.resolver.slot.inFlight = none) :
  h.step .enter
    = { h with
        resolver := h.resolver.launch
        calls := h.calls.push ⟨h.resolver.slot.epoch, .waiting h.resolver.probes.size⟩ }
  := by
  rcases h.enter_cases with ⟨d, hd, -⟩ | ⟨n, -, hn, -⟩ | ⟨-, -, hs⟩
  · cases hc.symm.trans hd
  · cases hflight.symm.trans hn
  · apply hs

theorem stage_enter {h : History} (hc : h.resolver.slot.cached = none)
    (hflight : h.resolver.slot.inFlight = none) :
  (h.step .enter).resolver.probes[h.resolver.probes.size]?
    = some ⟨h.resolver.slot.epoch, .start⟩
  := by
  rw [enter_of_empty hc hflight]
  apply Array.getElem?_push_size

/-- The call returns what the search finds. -/
theorem calls_resolve {h : History} (hc : h.resolver.slot.cached = none)
    (hflight : h.resolver.slot.inFlight = none) {count : Nat}
    (hcount : Probe.start.length host ≤ count) :
  (h.resolve host count).calls[h.calls.size]?
    = some ⟨h.resolver.slot.epoch,
      .returned ((Probe.start.answered host).map fun sdk => ⟨h.resolver.probes.size, sdk⟩)⟩
  := by
  apply calls_leave
  · rw [calls_foldl_advance, enter_of_empty hc hflight]
    apply Array.getElem?_push_size
  · apply result?_eq_some_iff.mpr
    exact ⟨_, _, stage_foldl_advance host (stage_enter hc hflight) hcount, rfl⟩

open Sdk

/-- A call of an empty resolver starts a probe; what the probe finds and asks is settled by the
answers to its own questions, whatever else happens.  The call returns an SDK of the workspace
exactly when there is an installation in the only open folder, for which only files are looked
at.  In every other case the active environment decides: without one there is nothing; if the
descriptor file exists, its home installation or nothing, and nothing is looked for but what the
file names; and otherwise the packaged installation.  Every SDK that is returned is of one of the
two kinds, and all its paths exist. -/
theorem resolve_sources (h : History) (hc : h.resolver.slot.cached = none)
    (hflight : h.resolver.slot.inFlight = none) (host : (q : Question) → q.Answer) :
  ∃ result : Option Sdk,
    (∃ enough, ∀ count ≥ enough, (h.resolve host count).calls[h.calls.size]?
      = some ⟨h.resolver.slot.epoch,
        .returned (result.map fun sdk => ⟨h.resolver.probes.size, sdk⟩)⟩)
    ∧ (∀ steps : List Step,
      (∀ answer, .advance h.resolver.probes.size answer ∈ steps → answer = host) →
      ∃ p, (steps.foldl step (h.step .enter)).resolver.probes[h.resolver.probes.size]?
          = some ⟨h.resolver.slot.epoch, p⟩
        ∧ (∀ found, p = .done found → found = result)
        ∧ ∀ q next, p = .ask q next → q ∈ Probe.start.questions host)
    ∧ (∀ sdk, result = some sdk ∧ sdk.kind = .internal
      ↔ ∃ root descriptor tools, WorkspaceInstall host root descriptor tools
        ∧ sdk =
          { kind := .internal
            version := (descriptor.value? none "version").getD "0.0.0"
            tools := tools
            flavor := .home (root / (".derived" : Path)) none
            unwrappedRuntime := none })
    ∧ (∀ root descriptor tools, WorkspaceInstall host root descriptor tools →
      ∀ q ∈ Probe.start.questions host, q.IsOfFiles)
    ∧ ((∀ root descriptor tools, ¬ WorkspaceInstall host root descriptor tools) →
      (host .activeEnvironment = none → result = none)
      ∧ ∀ name, host .activeEnvironment = some name →
        (host (.environment name) = none → result = none)
        ∧ ∀ environment, host (.environment name) = some environment →
          (Present host (environment.sysPrefix / ("share/max/modular.cfg" : Path)) →
            (∀ sdk, result = some sdk
              ↔ ∃ descriptor tools,
                HomeInstall host (environment.sysPrefix / ("share/max" : Path)) descriptor tools
                ∧ sdk =
                  { kind := .environment
                    version := (descriptor.value? none "version").getD "0.0.0"
                    tools := tools
                    flavor := .home (environment.sysPrefix / ("share/max" : Path))
                      (some environment.sysPrefix)
                    unwrappedRuntime := none })
            ∧ (∃ lookedFor : List Path, Probe.start.questions host
                = workspaceSource.questions host ++ [.activeEnvironment, .environment name,
                  .kindOf (environment.sysPrefix / ("share/max/modular.cfg" : Path)),
                  .read (environment.sysPrefix / ("share/max/modular.cfg" : Path))]
                  ++ lookedFor.map .kindOf
              ∧ (lookedFor = [] ∨ ∃ descriptor tools,
                Describes host (environment.sysPrefix / ("share/max/modular.cfg" : Path)) descriptor
                ∧ Names descriptor tools
                ∧ lookedFor = [tools.languageServer, tools.formatter, tools.debugPlugin,
                  tools.debugAdapter, tools.runtime, tools.visualizersDir, tools.debugger]))
            ∧ ∀ call, .run call ∉ Probe.start.questions host)
          ∧ (¬ Present host (environment.sysPrefix / ("share/max/modular.cfg" : Path)) →
            ∀ sdk, result = some sdk
              ↔ PackagedInstall host environment.sysPrefix
                ∧ sdk = ofPackage host environment.sysPrefix))
    ∧ ∀ sdk, result = some sdk →
      (sdk.kind = .internal ∨ sdk.kind = .environment) ∧ sdk.Exist host
  := by
  refine ⟨Probe.start.answered host, ?_, ?_, ?_, ?_, ?_, ?_⟩
  · exact ⟨_, fun count hcount => calls_resolve host hc hflight hcount⟩
  · intro steps hs
    obtain ⟨p, hp, hleft⟩ := stage_foldl host (stage_enter hc hflight) hs
    refine ⟨p, hp, ?_, ?_⟩
    · rintro found rfl
      apply hleft.answered
    · rintro q next rfl
      apply hleft.questions.subset List.mem_cons_self
  · intro sdk
    rw [Probe.answered_start_internal_iff, answered_workspaceSource_eq_ok]
  · intro root descriptor tools hinstall q hq
    have hw := (answered_workspaceSource_eq_ok host _).mpr ⟨root, descriptor, tools, hinstall, rfl⟩
    rw [(Probe.start_of_workspace host hw).2] at hq
    apply ofFiles_workspaceSource host q hq
  · intro hnot
    have hw := (Probe.no_workspace_iff host).mpr hnot
    rw [(Probe.start_of_no_workspace host hw).1]
    constructor
    · intro hname
      apply Probe.answered_inEnvironment_of_none
      rw [answered_activeEnvironment, hname]
      rfl
    · intro name hname
      constructor
      · intro hnone
        apply Probe.answered_inEnvironment_of_none
        rw [answered_activeEnvironment, hname]
        apply hnone
      · intro environment henvironment
        have hactive : activeEnvironment.answered host = some environment := by
          rw [answered_activeEnvironment, hname]
          apply henvironment
        simp only [Probe.answered_inEnvironment_of_some host hactive,
          answered_environmentSource_eq_ok]
        constructor
        · intro hfile
          refine ⟨?_, Probe.questions_start_of_home hw hname hactive hfile, ?_⟩
          · intro sdk
            simp [hfile]
          · apply Probe.run_notMem_questions_start hw hname hactive hfile
        · intro hfile sdk
          simp [hfile]
  · intro sdk
    apply Probe.exist_of_start host

/-- A host with no workspace and one environment, in which everything exists but the descriptor
file. -/
def packagedHost : (q : Question) → q.Answer
  | .kindOf path => if path = "/env/share/max/modular.cfg" then .error .notFound else .ok .file
  | .run _ => .ok ⟨"mojo 24.6.0 (4487cd6e)\n", "", 0, true⟩
  | q => plainHost (some "env") true q

/-- The SDK of its package. -/
def packagedSdk : Sdk where
  kind := .environment
  version := "24.6.0"
  tools :=
    { languageServer := "/env/bin/mojo-lsp-server"
      formatter := "/env/bin/mblack"
      debugPlugin := "/env/lib/libMojoLLDB.so"
      debugAdapter := "/env/bin/mojo-lldb-dap"
      runtime := "/env/bin/mojo"
      visualizersDir := "/env/lib/lldb-visualizers"
      debugger := "/env/bin/mojo-lldb" }
  flavor := .packaged
  unwrappedRuntime := some "/env/lib/mojo/bin/mojo"

/-- A descriptor file with a version. -/
def versionedTools : String :=
  "version=25.1\n[mojo-max]\nlsp_server_path=/t/a\nmblack_path=/t/b\nlldb_plugin_path=/t/c\n"
    ++ "lldb_vscode_path=/t/d\ndriver_path=/t/e\nlldb_visualizers_path=/t/f\nlldb_path=/t/g\n"

/-- A host with no workspace and one environment, in which everything exists and the descriptor file
can be read. -/
def homeHost : (q : Question) → q.Answer
  | .read path =>
    if path = "/env/share/max/modular.cfg" then .ok versionedTools.toUTF8 else .error .notFound
  | q => plainHost (some "env") true q

/-- The SDK that its descriptor file describes. -/
def homeSdk : Sdk where
  kind := .environment
  version := "25.1"
  tools := ⟨"/t/a", "/t/b", "/t/c", "/t/d", "/t/e", "/t/f", "/t/g"⟩
  flavor := .home "/env/share/max" (some "/env")
  unwrappedRuntime := none

/-- The descriptor file can be read, and says what the SDK is. -/
theorem describes_homeHost :
  ∃ descriptor, Describes homeHost "/env/share/max/modular.cfg" descriptor
    ∧ Names descriptor homeSdk.tools ∧ descriptor.value? none "version" = some homeSdk.version
  := by
  have hvalues : (Descriptor.File.parse versionedTools.toList).toOption.map (fun descriptor =>
        (descriptor.value? none "version", toolKeys.map (descriptor.value? (some toolSection))))
      = some (some homeSdk.version, homeSdk.tools.toList.map fun path => some path.text) := by
    decide +kernel
  cases hparse : Descriptor.File.parse versionedTools.toList with
  | error fault =>
    rw [hparse] at hvalues
    cases hvalues
  | ok descriptor =>
    rw [hparse] at hvalues
    obtain ⟨hversion, hnames⟩ := Prod.mk.inj (Option.some.inj hvalues)
    exact ⟨descriptor, ⟨_, _, rfl, Text.decode_toUTF8 versionedTools, hparse⟩,
      (names_iff ..).mpr hnames, hversion⟩

/-- The first call of a resolver returns the SDK of a package when there is no descriptor file, and
otherwise the one of the descriptor file. -/
theorem resolve_sources_packaged :
  (∃ count, (History.fresh.resolve packagedHost count).calls[0]?
      = some ⟨0, .returned (some ⟨0, packagedSdk⟩)⟩)
    ∧ ∃ count, (History.fresh.resolve homeHost count).calls[0]?
      = some ⟨0, .returned (some ⟨0, homeSdk⟩)⟩
  := by
  constructor
  case left =>
    obtain ⟨result, ⟨enough, hreturned⟩, -, -, -, henvironment, -⟩ :=
      resolve_sources .fresh rfl rfl packagedHost
    have hworkspace : ∀ root descriptor tools,
        ¬ WorkspaceInstall packagedHost root descriptor tools := by
      rintro root descriptor tools ⟨honly, -, -⟩
      cases honly
    have hinstall : PackagedInstall packagedHost "/env" := by
      constructor <;> decide +kernel
    have hsdk : packagedSdk = ofPackage packagedHost "/env" := by decide +kernel
    obtain ⟨-, hname⟩ := henvironment hworkspace
    obtain ⟨-, hfound⟩ := hname "env" rfl
    obtain ⟨-, hpackage⟩ := hfound ⟨"env", "/env"⟩ rfl
    have hresult := (hpackage (by decide +kernel) packagedSdk).mpr ⟨hinstall, hsdk⟩
    have hcall := hreturned enough (Nat.le_refl _)
    rw [hresult] at hcall
    exact ⟨enough, hcall⟩
  case right =>
    obtain ⟨result, ⟨enough, hreturned⟩, -, -, -, henvironment, -⟩ :=
      resolve_sources .fresh rfl rfl homeHost
    have hworkspace : ∀ root descriptor tools,
        ¬ WorkspaceInstall homeHost root descriptor tools := by
      rintro root descriptor tools ⟨honly, -, -⟩
      cases honly
    obtain ⟨descriptor, hdescribes, hnames, hversion⟩ := describes_homeHost
    have hfile : ("/env" : Path) / ("share/max" : Path) / ("modular.cfg" : Path)
        = "/env/share/max/modular.cfg" := by
      decide +kernel
    have hinstall : HomeInstall homeHost ("/env" / ("share/max" : Path)) descriptor
        homeSdk.tools := by
      refine ⟨hfile ▸ hdescribes, hnames, ?_⟩
      constructor <;> decide +kernel
    obtain ⟨-, hname⟩ := henvironment hworkspace
    obtain ⟨-, hfound⟩ := hname "env" rfl
    obtain ⟨hhome, -⟩ := hfound ⟨"env", "/env"⟩ rfl
    have hresult := ((hhome (by decide +kernel)).1 homeSdk).mpr
      ⟨descriptor, homeSdk.tools, hinstall, by rw [hversion]; decide +kernel⟩
    have hcall := hreturned enough (Nat.le_refl _)
    rw [hresult] at hcall
    exact ⟨enough, hcall⟩

end History

end Resolver

end MojoToolchain
