import MojoToolchain.CommandLine.Run
import MojoToolchain.Proofs.Debug.Completion

/-!
# The active file on the command line

A configuration names the active file in any of seven fields (`Configuration.NamesActiveFile`), and
a file that is given is written for its placeholder in all of them.  Without a file the command
looks for the placeholder in the source file only (`Configuration.runsActiveFile`): a configuration
that runs the active file is turned down, and every other one is shown as it is, with the
placeholder in it.
-/

namespace MojoToolchain

open Host (Dialogue Question)

/-! ### What names the active file -/

namespace Debug.Configuration

variable {c : Configuration}

/-- The texts of a configuration in which the active file may be named. -/
def texts (c : Configuration) : List String :=
  c.mojoFile.toList ++ c.program.toList ++ c.cwd.toList ++ c.args.getD [] ++ c.env.getD []
    ++ c.buildArgs.getD [] ++ c.initCommands.getD []

/-- The active file is named somewhere in a configuration. -/
def NamesActiveFile (c : Configuration) : Prop :=
  ∃ t ∈ c.texts, Text.containsString activeFile t

instance (c : Configuration) : Decidable c.NamesActiveFile :=
  inferInstanceAs (Decidable (∃ t ∈ c.texts, _))

theorem texts_mapTexts (f : String → String) (c : Configuration) :
  (c.mapTexts f).texts = c.texts.map f
  := by
  have htext (a : Option String) : (a.map f).toList = a.toList.map f := by cases a <;> rfl
  have hlist (a : Option (List String)) : (a.map (List.map f)).getD [] = (a.getD []).map f := by
    cases a <;> rfl
  simp only [texts, mapTexts, htext, hlist, List.map_append]

/-- A configuration whose texts do not change does not change. -/
theorem mapTexts_eq_self {f : String → String} (h : ∀ t ∈ c.texts, f t = t) :
  c.mapTexts f = c
  := by
  have htext {a : Option String} (ha : ∀ t ∈ a.toList, f t = t) : a.map f = a := by
    cases a with
    | none => rfl
    | some t => exact congrArg some (ha t List.mem_cons_self)
  have hlist {a : Option (List String)} (ha : ∀ t ∈ a.getD [], f t = t) :
      a.map (List.map f) = a := by
    cases a with
    | none => rfl
    | some l => exact congrArg some ((List.map_congr_left ha).trans (List.map_id l))
  simp only [texts, List.forall_mem_append] at h
  obtain ⟨⟨⟨⟨⟨⟨hmojo, hprogram⟩, hcwd⟩, hargs⟩, henv⟩, hbuild⟩, hinit⟩ := h
  simp only [mapTexts, htext hmojo, htext hprogram, htext hcwd, hlist hargs, hlist henv,
    hlist hbuild, hlist hinit]

/-- The active file is named exactly where writing some file for it makes a difference. -/
theorem namesActiveFile_iff :
  c.NamesActiveFile ↔ ∃ file, c.substitute file ≠ c
  := by
  constructor
  · rintro ⟨t, ht, hnamed⟩
    refine ⟨"", fun hsame => ?_⟩
    have hmap : c.texts.map (Text.replaceAllString activeFile "") = c.texts := by
      rw [← texts_mapTexts]
      exact congrArg texts hsame
    have hfixed : Text.replaceAllString activeFile "" t = t :=
      List.map_inj_left.mp (hmap.trans (List.map_id _).symm) t ht
    have hne : activeFile.toList ≠ [] := by decide
    have hshort := Text.length_replaceAll_lt hne hnamed
    have hlength := congrArg (fun t : String => t.toList.length) hfixed
    simp only [Text.replaceAllString, String.toList_ofList] at hlength
    exact absurd hlength (Nat.ne_of_lt hshort)
  · rintro ⟨file, hchanged⟩
    by_contra hnot
    apply hchanged
    apply mapTexts_eq_self
    intro t ht
    have hnone : Text.containsString activeFile t = false := by
      by_contra hnamed
      exact hnot ⟨t, ht, by simpa using hnamed⟩
    rw [Text.replaceAllString, Text.replaceAll_of_not_contains hnone, String.ofList_toList]

example : ({ unset with env := some ["A=1", "F=$\x7bfile\x7d"] }).NamesActiveFile := by
  decide

/-- A configuration that runs the active file names it. -/
theorem namesActiveFile_of_runs (h : c.runsActiveFile) :
  c.NamesActiveFile
  := by
  cases hm : c.mojoFile with
  | none => simp [runsActiveFile, hm] at h
  | some file =>
    rw [runsActiveFile, hm, Option.any_some] at h
    exact ⟨file, by simp [texts, hm], h⟩

end Debug.Configuration

/-! ### Commands -/

namespace CommandLine

open Debug (Configuration CompanionConfiguration Outcome)
open Debug.Configuration (Completes checkLaunch)

variable {s : Scene} {c : Configuration} {host : (q : Question) → q.Answer}

/-- Shows a prepared configuration for a debugger. -/
def showFor (s : Scene) (c : Configuration) : Backend → Dialogue Ending
  | .lldb => showConfiguration s c
  | .gdb => showCompanion s c

theorem answered_prepareConfiguration {launchFile : Option Path} {name : Option String}
    (hread : (readConfiguration s launchFile name).answered host = .ok c) (file : Option String) :
  (prepareConfiguration s launchFile name file).answered host
    = placeFile c.orActiveFile (file.map fun f => s.locate ⟨f⟩)
  := by
  simp only [prepareConfiguration, Bind.bind, Dialogue.answered_bind, hread]
  rfl

/-- The command shows what it has prepared. -/
theorem answered_debugConfig (s : Scene) (backend : Backend) (launchFile : Option Path)
    (name file : Option String) :
  (debugConfig s backend launchFile name file).answered host
    = match (prepareConfiguration s launchFile name file).answered host with
      | .error failure => .fail failure
      | .ok c => (showFor s c backend).answered host
  := by
  simp only [debugConfig, Bind.bind, Dialogue.answered_bind]
  cases (prepareConfiguration s launchFile name file).answered host with
  | error failure => rfl
  | ok c => cases backend <;> rfl

/-- A request for a configuration that gives none fails in one way only. -/
theorem eq_of_endingOf_error {α : Type} {failure f : Failure} {members : α → Json.Members}
    {outcome : Outcome α} (h : (endingOf failure members outcome).result = .error f) :
  f = failure
  := by
  cases outcome with
  | ready configuration => cases h
  | refused e =>
    cases h
    rfl
  | withoutSdk =>
    cases h
    rfl

/-- What is shown for a debugger never fails for want of the active file. -/
theorem showFor_ne_noActiveFile (s : Scene) (c : Configuration) (backend : Backend) :
  ((showFor s c backend).answered host).result ≠ .error .noActiveFile
  := by
  intro h
  cases backend with
  | lldb =>
    simp only [showFor, showConfiguration, Bind.bind, Dialogue.answered_bind] at h
    cases eq_of_endingOf_error h
  | gdb =>
    simp only [showFor, showCompanion] at h
    split at h
    · cases eq_of_endingOf_error h
    · simp only [Bind.bind, Dialogue.answered_bind] at h
      cases eq_of_endingOf_error h

/-- What the program leaves when the active file is wanted. -/
theorem report_noActiveFile :
  (Ending.fail .noActiveFile).report
    = ⟨1, "", "Error: the configuration debugs $\x7bfile\x7d; pass --file\n"⟩
  := by
  decide +kernel

/-- When there is an SDK, a configuration that runs no file, or one that can be run, is shown
complete. -/
theorem showConfiguration_of_sdk {sdk : Sdk} (hsdk : (s.lookUp.answered host).1 = some sdk)
    (hcheck : checkLaunch sdk c = .ok ()) :
  ∃ n visualizers, ((showConfiguration s c).answered host).result
      = .ok ⟨.object n.members, true⟩
    ∧ Completes s.settings.normalizerOptions sdk visualizers c n
  := by
  have hcomplete :=
    Debug.Configuration.answered_complete s.settings.normalizerOptions sdk none c host
  rw [hcheck] at hcomplete
  refine ⟨_, _, ?_, Debug.Configuration.completes_fill _ sdk
    (Debug.visualizersWith s.settings.normalizerOptions sdk none host) c⟩
  simp only [showConfiguration, Bind.bind, Dialogue.answered_bind, hsdk, Debug.provide, hcomplete]
  rfl

/-- Without a file the command fails for want of the active file exactly when the configuration runs
it, as the one does that is used when no launch file is given; nothing is shown then.  Every other
configuration is shown as it is, also one that names the active file elsewhere. -/
theorem active_file_required (s : Scene) (backend : Backend) (launchFile : Option Path)
    (name : Option String) (host : (q : Question) → q.Answer)
    (hread : (readConfiguration s launchFile name).answered host = .ok c) :
  (((debugConfig s backend launchFile name none).answered host).result = .error .noActiveFile
      ↔ c.orActiveFile.runsActiveFile)
    ∧ (c.orActiveFile.runsActiveFile → c.orActiveFile.NamesActiveFile
      ∧ ((debugConfig s backend launchFile name none).answered host).report
        = ⟨1, "", "Error: the configuration debugs $\x7bfile\x7d; pass --file\n"⟩)
    ∧ (launchFile = none → c.orActiveFile.runsActiveFile)
    ∧ (¬ c.orActiveFile.runsActiveFile →
      (debugConfig s backend launchFile name none).answered host
        = (showFor s c.orActiveFile backend).answered host)
    ∧ ∀ sdk, ¬ c.orActiveFile.runsActiveFile → backend = .lldb →
      (s.lookUp.answered host).1 = some sdk → checkLaunch sdk c.orActiveFile = .ok () →
      ∃ n visualizers, ((debugConfig s backend launchFile name none).answered host).result
          = .ok ⟨.object n.members, true⟩
        ∧ Completes s.settings.normalizerOptions sdk visualizers c.orActiveFile n
  := by
  rw [answered_debugConfig, answered_prepareConfiguration hread, Option.map_none, placeFile]
  refine ⟨?_, ?_, ?_, ?_, ?_⟩
  · by_cases hruns : c.orActiveFile.runsActiveFile
    · simp [hruns, Ending.fail]
    · simp [hruns, showFor_ne_noActiveFile]
  · intro hruns
    rw [if_pos hruns]
    constructor
    · exact Debug.Configuration.namesActiveFile_of_runs hruns
    · exact report_noActiveFile
  · rintro rfl
    cases hread
    decide
  · intro hruns
    rw [if_neg hruns]
  · rintro sdk hruns rfl hsdk hcheck
    rw [if_neg hruns]
    exact showConfiguration_of_sdk hsdk hcheck

/-- A directory in a terminal with an environment. -/
def workScene : Scene := ⟨⟨"/w"⟩, .unset, ⟨⟨"/w"⟩, some ⟨"/env"⟩⟩⟩

/-- A host with a package in its environment and a launch file. -/
def launchHost (text : String) : (q : Question) → q.Answer
  | .workspaceRoots => []
  | .kindOf path =>
    if path = ⟨"/env"⟩ then .ok .directory
    else if path ∈ (Sdk.packaged ⟨"/env"⟩ "linux").paths then .ok .file
    else .error .notFound
  | .read path => if path = ⟨"/w/launch.json"⟩ then .ok text.toUTF8 else .error .notFound
  | .list _ => .error .notFound
  | .activeEnvironment => none
  | .environment _ => none
  | .run _ => .error .notFound
  | .pipe _ _ => .error (.start .notFound)
  | .write _ _ => .error .permissionDenied
  | .openLog _ => ()

/-- A launch file whose configuration runs the active file. -/
def activeLaunch : String := "\x7b\"request\": \"launch\", \"mojoFile\": \"$\x7bfile\x7d\"\x7d"

theorem active_file_required_unset :
  ((debugConfig workScene .gdb none none none).answered (launchHost "")).report
      = ⟨1, "", "Error: the configuration debugs $\x7bfile\x7d; pass --file\n"⟩
    ∧ ((debugConfig workScene .lldb (some ⟨"launch.json"⟩) none none).answered
        (launchHost activeLaunch)).report
      = ⟨1, "", "Error: the configuration debugs $\x7bfile\x7d; pass --file\n"⟩
  := by
  constructor
  · obtain ⟨-, hruns, hunset, -⟩ := active_file_required (c := .unset) workScene .gdb none none
      (launchHost "") rfl
    exact (hruns (hunset rfl)).2
  · have hruns : ((readConfiguration workScene (some ⟨"launch.json"⟩) none).answered
        (launchHost activeLaunch)).toOption.map (·.orActiveFile.runsActiveFile)
        = some true := by
      decide +kernel
    cases hread : (readConfiguration workScene (some ⟨"launch.json"⟩) none).answered
        (launchHost activeLaunch) with
    | error failure =>
      rw [hread] at hruns
      cases hruns
    | ok c =>
      rw [hread] at hruns
      have hrequired := (active_file_required workScene .lldb (some ⟨"launch.json"⟩) none _ hread).2
      exact (hrequired.1 (Option.some.inj hruns)).2

/-- A launch file whose configuration starts the active file as a program. -/
def programLaunch : String := "\x7b\"request\": \"launch\", \"program\": \"$\x7bfile\x7d\"\x7d"

/-- The configuration names the active file, and is shown with the placeholder as its program. -/
theorem placeholder_shown :
  ∃ c n : Configuration, (readConfiguration workScene (some ⟨"launch.json"⟩) none).answered
      (launchHost programLaunch) = .ok c
    ∧ c.orActiveFile.NamesActiveFile
    ∧ ((debugConfig workScene .lldb (some ⟨"launch.json"⟩) none none).answered
      (launchHost programLaunch)).result = .ok ⟨.object n.members, true⟩
    ∧ n.program = some Debug.Configuration.activeFile
  := by
  have hfields : ((readConfiguration workScene (some ⟨"launch.json"⟩) none).answered
      (launchHost programLaunch)).toOption.map
        (fun c => (c.request, c.mojoFile, c.program))
      = some (some .launch, none, some Debug.Configuration.activeFile) := by
    decide +kernel
  have hsdk : (workScene.lookUp.answered (launchHost programLaunch)).1.isSome := by
    decide +kernel
  obtain ⟨sdk, hsdk⟩ := Option.isSome_iff_exists.mp hsdk
  cases hread : (readConfiguration workScene (some ⟨"launch.json"⟩) none).answered
      (launchHost programLaunch) with
  | error failure =>
    rw [hread] at hfields
    cases hfields
  | ok c =>
    rw [hread] at hfields
    simp only [Except.toOption, Option.map_some, Option.some.injEq, Prod.mk.injEq] at hfields
    obtain ⟨hrequest, hfile, hprogram⟩ := hfields
    have hsame : c.orActiveFile = c :=
      Debug.Configuration.orActiveFile_of_isSome (by simp [hrequest])
    have hnone : c.launchedFile? = none := by simp [Debug.Configuration.launchedFile?, hfile]
    have hcheck : checkLaunch sdk c = .ok () := by rw [checkLaunch, hnone]
    obtain ⟨n, visualizers, hshown, hcompletes⟩ := showConfiguration_of_sdk hsdk hcheck
    refine ⟨c, n, rfl, ?_, ?_, ?_⟩
    · rw [hsame]
      exact ⟨Debug.Configuration.activeFile, by simp [Debug.Configuration.texts, hprogram],
        by decide⟩
    · rw [answered_debugConfig, answered_prepareConfiguration hread, hsame, Option.map_none,
        placeFile, if_neg (by simp [Debug.Configuration.runsActiveFile, hfile])]
      exact hshown
    · rw [(hcompletes.noLaunch hnone).1, hprogram]

end CommandLine

end MojoToolchain
