import MojoToolchain.Host.Fault
import MojoToolchain.Json.Commented
import MojoToolchain.Json.Printer
import MojoToolchain.Json.Typed
import MojoToolchain.Settings.Basic

/-!
# Settings as text

`Settings.parse` reads settings from JSON with comments: an object whose unknown members are
passed over, or a list of the settings in order; `null` leaves a setting unset.
`Settings.json` writes the settings that are set.
-/

namespace MojoToolchain

open Json (Typed Shape memberOf)

namespace Settings

/-- Why settings are not loaded from a source. -/
inductive Failure where
  /-- The file cannot be read. -/
  | unreadable (file : Path) (fault : Host.Fault)
  /-- The text of the source does not hold settings. -/
  | invalid (source : String) (stop : Json.Stop) (text : List Char)
  deriving DecidableEq, Repr

/-- The wording of what lies under a failure. -/
def Failure.cause : Failure → String
  | unreadable _ fault => fault.message
  | invalid _ stop text => stop.message text

/-- The wording of a failure. -/
def Failure.message : Failure → String
  | f@(unreadable file _) => "failed to read " ++ file.text ++ ": " ++ f.cause
  | f@(invalid source _ _) => "invalid settings in " ++ source ++ ": " ++ f.cause

/-! ### Reading -/

/-- A field that may be left unset. -/
def field (key : String) (item : Typed α) (store : Option α → σ → σ) : Typed.Field σ :=
  .of key item.optional store

/-- A number of 64 bits. -/
def word64 : Typed UInt64 := fun s => do
  let (n, r) ← Typed.unsigned 64 s
  .ok (UInt64.ofNat n, r)

/-- A number of 32 bits. -/
def word32 : Typed UInt32 := fun s => do
  let (n, r) ← Typed.unsigned 32 s
  .ok (UInt32.ofNat n, r)

/-- A path. -/
def path : Typed Path := fun s => do
  let (text, r) ← Typed.text .path s
  .ok (⟨text⟩, r)

/-- A list of texts. -/
def texts : Typed (List String) := Typed.list (Typed.text .text)

/-- Reads the settings of the debugger. -/
def debugSettings : Typed DebugSettings :=
  .record "DebugSettings"
    [field "initTimeoutSecs" word64 fun v s => { s with initTimeoutSecs := v },
     field "sortVisualizers" .boolean fun v s => { s with sortVisualizers := v }]
    .unset

/-- Reads the settings of the formatter. -/
def formatterSettings : Typed FormatterSettings :=
  .record "FormatterSettings"
    [field "lineLength" word32 fun v s => { s with lineLength := v }] ⟨none⟩

/-- Reads the settings of the language server. -/
def serverSettings : Typed ServerSettings :=
  .record "LspSettings" [field "extraArgs" texts fun v s => { s with extraArgs := v }] ⟨none⟩

/-- Reads the settings about editor extensions. -/
def extensionSettings : Typed ExtensionSettings :=
  .record "ExtensionSettings"
    [field "installed" texts fun v s => { s with installed := v }] ⟨none⟩

/-- Reads settings. -/
def typed : Typed Settings :=
  .record "Settings"
    [field "logLevel" (.text .text) fun v s => { s with logLevel := v },
     field "telemetry" .boolean fun v s => { s with telemetry := v },
     field "environmentPrefix" path fun v s => { s with environmentPrefix := v },
     field "debug" debugSettings fun v s => { s with debug := v },
     field "formatter" formatterSettings fun v s => { s with formatter := v },
     field "lsp" serverSettings fun v s => { s with server := v },
     field "extensions" extensionSettings fun v s => { s with extensions := v }]
    unset

/-- The settings that the text of a source holds. -/
def parse (source text : String) : Except Failure Settings :=
  let plain := Json.plain text.toList
  match Json.readWhole typed plain with
  | .ok settings => .ok settings
  | .error stop => .error (.invalid source stop plain)

/-- The settings of named texts in order, each overriding those before. -/
def parseAll (sources : List (String × String)) : Except Failure Settings := do
  let read ← sources.mapM fun (name, text) => parse name text
  return mergeAll read

/-! ### Writing -/

/-- The debugger settings that are set. -/
def debugJson (s : DebugSettings) : Json :=
  .object
    (memberOf "initTimeoutSecs" s.initTimeoutSecs (fun n => .natural n.toNat)
      ++ memberOf "sortVisualizers" s.sortVisualizers .bool)

/-- The settings that are set. -/
def json (s : Settings) : Json :=
  .object
    (memberOf "logLevel" s.logLevel .string
      ++ memberOf "telemetry" s.telemetry .bool
      ++ memberOf "environmentPrefix" s.environmentPrefix (fun p => .string p.text)
      ++ memberOf "debug" s.debug debugJson
      ++ memberOf "formatter" s.formatter (fun f =>
        .object (memberOf "lineLength" f.lineLength (fun n => .natural n.toNat)))
      ++ memberOf "lsp" s.server (fun l => .object (memberOf "extraArgs" l.extraArgs .strings))
      ++ memberOf "extensions" s.extensions (fun e =>
        .object (memberOf "installed" e.installed .strings)))

end Settings

end MojoToolchain
