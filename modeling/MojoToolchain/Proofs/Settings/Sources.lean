import Mathlib.Data.List.Induction
import MojoToolchain.Settings.Text

/-!
# Settings of several sources

A setting of merged settings has the value that the last source gives which sets it
(`Settings.last?`).  So it is for the general settings and for each setting of the debugger.  The
settings of the formatter, of the language server and about extensions are replaced as groups: a
source that has such a group but leaves its setting unset withdraws what an earlier source has
set (`Settings.Withdrawn`), and only then the two differ.
-/

namespace MojoToolchain.Settings

variable {σ α γ : Type}

/-! ### The last source -/

/-- The value that the last source gives which gives one. -/
def last? (value : σ → Option α) (sources : List σ) : Option α :=
  sources.reverse.findSome? value

@[simp]
theorem last?_nil (value : σ → Option α) :
  last? value [] = none
  := rfl

@[simp]
theorem last?_concat (value : σ → Option α) (sources : List σ) (s : σ) :
  last? value (sources ++ [s]) = (value s <|> last? value sources)
  := by
  rw [last?, List.reverse_concat, List.findSome?_cons]
  cases value s with
  | none => rfl
  | some a => rfl

theorem last?_eq_none_iff {value : σ → Option α} {sources : List σ} :
  last? value sources = none ↔ ∀ s ∈ sources, value s = none
  := by
  simp [last?]

/-- A value that is given last is given by a source after which no other gives one. -/
theorem last?_eq_some_iff {value : σ → Option α} {sources : List σ} {a : α} :
  last? value sources = some a
    ↔ ∃ before s after, sources = before ++ s :: after ∧ value s = some a
      ∧ ∀ t ∈ after, value t = none
  := by
  rw [last?, List.findSome?_eq_some_iff]
  constructor
  · rintro ⟨after, s, before, hsources, hs, hafter⟩
    refine ⟨before.reverse, s, after.reverse, ?_, hs, ?_⟩
    · rw [← List.reverse_reverse sources, hsources]
      simp
    · simpa using hafter
  · rintro ⟨before, s, after, rfl, hs, hafter⟩
    refine ⟨after.reverse, s, before.reverse, by simp, hs, ?_⟩
    simpa using hafter

/-! ### Settings in groups -/

/-- A setting in a group that may be missing. -/
def within (group : σ → Option γ) (setting : γ → Option α) (s : σ) : Option α :=
  (group s).bind setting

/-- The last source that has a group leaves a setting of it unset, though a source sets it. -/
def Withdrawn (group : σ → Option γ) (setting : γ → Option α) (sources : List σ) : Prop :=
  (∃ g, last? group sources = some g ∧ setting g = none)
    ∧ ∃ s ∈ sources, within group setting s ≠ none

/-- What the last group sets is set last. -/
theorem last?_within_of_some {group : σ → Option γ} {setting : γ → Option α} {sources : List σ}
    {g : γ} (hg : last? group sources = some g) {a : α} (ha : setting g = some a) :
  last? (within group setting) sources = some a
  := by
  obtain ⟨before, s, after, rfl, hs, hafter⟩ := last?_eq_some_iff.mp hg
  apply last?_eq_some_iff.mpr
  refine ⟨before, s, after, rfl, ?_, ?_⟩
  · rw [within, hs]
    apply ha
  · intro t ht
    rw [within, hafter t ht]
    rfl

/-- The last group holds the value that is set last exactly when that is not withdrawn. -/
theorem bind_last?_eq_iff (group : σ → Option γ) (setting : γ → Option α) (sources : List σ) :
  (last? group sources).bind setting = last? (within group setting) sources
    ↔ ¬ Withdrawn group setting sources
  := by
  cases hg : last? group sources with
  | none =>
    have hnone : ∀ s ∈ sources, within group setting s = none := by
      intro s hs
      rw [within, last?_eq_none_iff.mp hg s hs]
      rfl
    simp [Withdrawn, hg, last?_eq_none_iff.mpr hnone]
  | some g =>
    cases ha : setting g with
    | none =>
      have hset : last? (within group setting) sources = none
          ↔ ¬ ∃ s ∈ sources, within group setting s ≠ none := by
        simp [last?_eq_none_iff]
      simp only [Withdrawn, hg, ha, Option.bind_some, Option.some.injEq, exists_eq_left', true_and]
      rw [eq_comm, hset]
    | some a => simp [Withdrawn, hg, ha, last?_within_of_some hg ha]

/-! ### Merged settings -/

@[simp]
theorem mergeAll_nil :
  mergeAll [] = unset
  := rfl

@[simp]
theorem mergeAll_concat (sources : List Settings) (s : Settings) :
  mergeAll (sources ++ [s]) = (mergeAll sources).merge s
  := by
  simp [mergeAll]

/-- What each source overrides that gives it has the value that is given last. -/
theorem eq_last? {value : Settings → Option α} (hunset : value unset = none)
    (hmerge : ∀ base later, value (base.merge later) = (value later <|> value base))
    (sources : List Settings) :
  value (mergeAll sources) = last? value sources
  := by
  induction sources using List.reverseRecOn with
  | nil => apply hunset
  | append_singleton sources s ih => rw [mergeAll_concat, hmerge, ih, last?_concat]

/-- The seconds that the debugger may take to start. -/
def initTimeoutSecs? : Settings → Option UInt64 := within debug DebugSettings.initTimeoutSecs

/-- Whether visualizers are sorted. -/
def sortVisualizers? : Settings → Option Bool := within debug DebugSettings.sortVisualizers

/-- The greatest line length of formatted code. -/
def lineLength? : Settings → Option UInt32 := within formatter FormatterSettings.lineLength

/-- The further arguments of the language server. -/
def extraArgs? : Settings → Option (List String) := within server ServerSettings.extraArgs

/-- The extensions that are known to be installed. -/
def installed? : Settings → Option (List String) := within extensions ExtensionSettings.installed

/-- The settings of the debugger override one another one by one. -/
theorem within_debug_merge {setting : DebugSettings → Option α}
    (hmerge : ∀ base later : DebugSettings,
      setting (base.merge later) = (setting later <|> setting base))
    (base later : Settings) :
  within debug setting (base.merge later)
    = (within debug setting later <|> within debug setting base)
  := by
  unfold within merge
  cases base.debug with
  | none =>
    cases later.debug with
    | none => rfl
    | some d => simp [mergeDebug]
  | some d =>
    cases later.debug with
    | none => rfl
    | some d' => apply hmerge

/-- The settings of sources that can all be read are merged. -/
theorem parseAll_of_forall₂ {texts : List (String × String)} {sources : List Settings}
    (h : List.Forall₂ (fun text s => parse text.1 text.2 = .ok s) texts sources) :
  parseAll texts = .ok (mergeAll sources)
  := by
  have hread : (texts.mapM fun text => parse text.1 text.2) = .ok sources := by
    induction h with
    | nil => rfl
    | cons hs _ ih =>
      rw [List.mapM_cons, hs, ih]
      rfl
  rw [parseAll]
  simp only [hread]
  rfl

/-- When each of a list of texts holds settings, they are merged.  Each general setting and each
setting of the debugger has the value that the last source gives which sets it, and is unset when
none does.  The settings of the other three groups are those of the last source that has the
group, and these are the ones that are set last unless they are withdrawn.  What the rest of the
library asks for is computed from these values. -/
theorem merged_settings {texts : List (String × String)} {sources : List Settings}
    (hread : List.Forall₂ (fun text s => parse text.1 text.2 = .ok s) texts sources) :
  ∃ merged, parseAll texts = .ok merged
    ∧ merged.logLevel = last? logLevel sources
    ∧ merged.telemetry = last? telemetry sources
    ∧ merged.environmentPrefix = last? environmentPrefix sources
    ∧ merged.initTimeoutSecs? = last? initTimeoutSecs? sources
    ∧ merged.sortVisualizers? = last? sortVisualizers? sources
    ∧ (merged.lineLength? = last? lineLength? sources
      ↔ ¬ Withdrawn formatter FormatterSettings.lineLength sources)
    ∧ (merged.extraArgs? = last? extraArgs? sources
      ↔ ¬ Withdrawn server ServerSettings.extraArgs sources)
    ∧ (merged.installed? = last? installed? sources
      ↔ ¬ Withdrawn extensions ExtensionSettings.installed sources)
    ∧ merged.formatter = last? formatter sources
    ∧ merged.server = last? server sources
    ∧ merged.extensions = last? extensions sources
    ∧ merged.normalizerOptions
      = ⟨(last? telemetry sources).getD true,
        (last? initTimeoutSecs? sources).getD defaultInitTimeoutSecs,
        (last? sortVisualizers? sources).getD true⟩
    ∧ merged.supervisorOptions
      = ⟨(last? telemetry sources).getD true, merged.extraArgs?.getD []⟩
    ∧ merged.lineLength = merged.lineLength?.getD defaultLineLength
    ∧ merged.installedExtensions = merged.installed?.getD []
  := by
  have htelemetry : (mergeAll sources).telemetry = last? telemetry sources :=
    eq_last? rfl (fun _ _ => rfl) sources
  have htimeout : (mergeAll sources).initTimeoutSecs? = last? initTimeoutSecs? sources :=
    eq_last? rfl (within_debug_merge fun _ _ => rfl) sources
  have hsort : (mergeAll sources).sortVisualizers? = last? sortVisualizers? sources :=
    eq_last? rfl (within_debug_merge fun _ _ => rfl) sources
  have hformatter : (mergeAll sources).formatter = last? formatter sources :=
    eq_last? rfl (fun _ _ => rfl) sources
  have hserver : (mergeAll sources).server = last? server sources :=
    eq_last? rfl (fun _ _ => rfl) sources
  have hextensions : (mergeAll sources).extensions = last? extensions sources :=
    eq_last? rfl (fun _ _ => rfl) sources
  refine ⟨mergeAll sources, parseAll_of_forall₂ hread, ?_, htelemetry, ?_, htimeout, hsort,
    ?_, ?_, ?_, hformatter, hserver, hextensions, ?_, ?_, rfl, rfl⟩
  · exact eq_last? rfl (fun _ _ => rfl) sources
  · exact eq_last? rfl (fun _ _ => rfl) sources
  · rw [lineLength?, within, hformatter]
    apply bind_last?_eq_iff
  · rw [extraArgs?, within, hserver]
    apply bind_last?_eq_iff
  · rw [installed?, within, hextensions]
    apply bind_last?_eq_iff
  · rw [← htelemetry, ← htimeout, ← hsort]
    rfl
  · rw [← htelemetry]
    rfl

/-- Whether a text holds given settings can be computed. -/
theorem parse_eq_ok {source text : String} {s : Settings}
    (h : (parse source text).toOption = some s) :
  parse source text = .ok s
  := by
  cases hparse : parse source text with
  | error failure =>
    rw [hparse] at h
    cases h
  | ok s' =>
    rw [hparse] at h
    rw [Option.some.inj h]

/-- A file of the user, with a setting in each group. -/
def userText : String :=
  "\x7b\"telemetry\": false, \"debug\": \x7b\"initTimeoutSecs\": 60, \"sortVisualizers\": false\x7d, "
    ++ "\"formatter\": \x7b\"lineLength\": 100\x7d, \"lsp\": \x7b\"extraArgs\": [\"-I\"]\x7d, "
    ++ "\"extensions\": \x7b\"installed\": [\"ms-vscode.cpptools\"]\x7d\x7d"

/-- What the file of the user holds. -/
def userSettings : Settings :=
  ⟨none, some false, none, some ⟨some 60, some false⟩, some ⟨some 100⟩, some ⟨some ["-I"]⟩,
    some ⟨some ["ms-vscode.cpptools"]⟩⟩

theorem parse_userText :
  parse "user" userText = .ok userSettings
  := parse_eq_ok (by decide +kernel)

/-- A project that names one setting of the debugger overrides this one. -/
theorem merged_settings_project :
  ∃ merged, parseAll [("user", userText),
      ("project", "\x7b\"debug\": \x7b\"initTimeoutSecs\": 10\x7d\x7d")] = .ok merged
    ∧ merged.normalizerOptions = ⟨false, 10, false⟩ ∧ merged.lineLength = 100
  := by
  have hproject : parse "project" "\x7b\"debug\": \x7b\"initTimeoutSecs\": 10\x7d\x7d"
      = .ok ⟨none, none, none, some ⟨some 10, none⟩, none, none, none⟩ :=
    parse_eq_ok (by decide +kernel)
  obtain ⟨merged, hmerged, -, -, -, -, -, -, -, -, hformatter, -, -, hoptions, -, hlength, -⟩ :=
    merged_settings (.cons (a := ("user", userText)) parse_userText
      (.cons (a := ("project", _)) hproject .nil))
  refine ⟨merged, hmerged, ?_, ?_⟩
  · rw [hoptions]
    decide
  · rw [hlength, lineLength?, within, hformatter]
    decide

/-- A project in which each group is there and empty. -/
def emptyGroups : String :=
  "\x7b\"debug\": \x7b\x7d, \"formatter\": \x7b\x7d, \"lsp\": \x7b\x7d, \"extensions\": \x7b\x7d\x7d"

/-- A project that sets nothing withdraws what the user has set in three groups, and nothing in
the group of the debugger. -/
theorem settings_withdrawn :
  ∃ first second merged,
    parse "user" userText = .ok first ∧ parse "project" emptyGroups = .ok second
    ∧ parseAll [("user", userText), ("project", emptyGroups)] = .ok merged
    ∧ last? lineLength? [first, second] = some 100 ∧ merged.lineLength? = none
    ∧ last? extraArgs? [first, second] = some ["-I"] ∧ merged.extraArgs? = none
    ∧ last? installed? [first, second] = some ["ms-vscode.cpptools"] ∧ merged.installed? = none
    ∧ merged.initTimeoutSecs? = some 60 ∧ merged.lineLength = defaultLineLength
  := by
  have hproject : parse "project" emptyGroups
      = .ok ⟨none, none, none, some .unset, some ⟨none⟩, some ⟨none⟩, some ⟨none⟩⟩ :=
    parse_eq_ok (by decide +kernel)
  have hmerged := parseAll_of_forall₂ (.cons (a := ("user", userText)) parse_userText
    (.cons (a := ("project", emptyGroups)) hproject .nil))
  refine ⟨_, _, _, parse_userText, hproject, hmerged, ?_⟩
  decide

end MojoToolchain.Settings
