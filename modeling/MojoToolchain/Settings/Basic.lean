import MojoToolchain.Log
import MojoToolchain.Path.Basic

/-!
# Settings

Every setting may be unset.  `Settings.merge` lets the settings of a later source override
those of an earlier one.  What the rest of the library asks for (`telemetryOn`, `lineLength`,
...) has a default when the setting is unset.
-/

namespace MojoToolchain

/-- Settings of the debugger. -/
structure DebugSettings where
  initTimeoutSecs : Option UInt64
  sortVisualizers : Option Bool
  deriving DecidableEq, Repr

/-- Settings of the formatter. -/
structure FormatterSettings where
  lineLength : Option UInt32
  deriving DecidableEq, Repr

/-- Settings of the language server. -/
structure ServerSettings where
  extraArgs : Option (List String)
  deriving DecidableEq, Repr

/-- Settings about editor extensions. -/
structure ExtensionSettings where
  installed : Option (List String)
  deriving DecidableEq, Repr

/-- All settings. -/
structure Settings where
  logLevel : Option String
  telemetry : Option Bool
  environmentPrefix : Option Path
  debug : Option DebugSettings
  formatter : Option FormatterSettings
  server : Option ServerSettings
  extensions : Option ExtensionSettings
  deriving DecidableEq, Repr

/-- Options for preparing debug configurations. -/
structure NormalizerOptions where
  telemetry : Bool
  initTimeoutSecs : UInt64
  sortVisualizers : Bool
  deriving DecidableEq, Repr

/-- Options for running the language server. -/
structure SupervisorOptions where
  telemetry : Bool
  extraArgs : List String
  deriving DecidableEq, Repr

/-- The seconds that the debugger may take to start, unless the settings say otherwise. -/
def defaultInitTimeoutSecs : UInt64 := 300

/-- The greatest line length of formatted code, unless the settings say otherwise. -/
def defaultLineLength : UInt32 := 80

/-- No setting of the debugger is set. -/
def DebugSettings.unset : DebugSettings := ⟨none, none⟩

/-- Debugger settings overridden one by one. -/
def DebugSettings.merge (base later : DebugSettings) : DebugSettings where
  initTimeoutSecs := later.initTimeoutSecs <|> base.initTimeoutSecs
  sortVisualizers := later.sortVisualizers <|> base.sortVisualizers

namespace Settings

/-- No setting is set. -/
def unset : Settings := ⟨none, none, none, none, none, none, none⟩

/-- The debugger settings of two sources. -/
def mergeDebug : Option DebugSettings → Option DebugSettings → Option DebugSettings
  | some base, some later => some (base.merge later)
  | base, none => base
  | none, later => later

/-- Settings overridden by those of a later source. -/
def merge (base later : Settings) : Settings where
  logLevel := later.logLevel <|> base.logLevel
  telemetry := later.telemetry <|> base.telemetry
  environmentPrefix := later.environmentPrefix <|> base.environmentPrefix
  debug := mergeDebug base.debug later.debug
  formatter := later.formatter <|> base.formatter
  server := later.server <|> base.server
  extensions := later.extensions <|> base.extensions

/-- The settings of sources in order, each overriding those before. -/
def mergeAll (sources : List Settings) : Settings := sources.foldl merge unset

/-- The log level, when the setting names one. -/
def level? (s : Settings) : Option LogLevel := s.logLevel.bind LogLevel.parse?

/-- Tools may send telemetry, unless that is turned off. -/
def telemetryOn (s : Settings) : Bool := s.telemetry.getD true

/-- The options for preparing debug configurations. -/
def normalizerOptions (s : Settings) : NormalizerOptions where
  telemetry := s.telemetryOn
  initTimeoutSecs := (s.debug.bind (·.initTimeoutSecs)).getD defaultInitTimeoutSecs
  sortVisualizers := (s.debug.bind (·.sortVisualizers)).getD true

/-- The options for running the language server. -/
def supervisorOptions (s : Settings) : SupervisorOptions where
  telemetry := s.telemetryOn
  extraArgs := (s.server.bind (·.extraArgs)).getD []

/-- The greatest line length of formatted code. -/
def lineLength (s : Settings) : UInt32 :=
  (s.formatter.bind (·.lineLength)).getD defaultLineLength

/-- The editor extensions that are known to be installed. -/
def installedExtensions (s : Settings) : List String :=
  (s.extensions.bind (·.installed)).getD []

theorem merge_unset (s : Settings) :
  unset.merge s = s
  := by
  obtain ⟨a, b, c, d, e, f, g⟩ := s
  cases d <;> simp [merge, unset, mergeDebug]

end Settings

end MojoToolchain
