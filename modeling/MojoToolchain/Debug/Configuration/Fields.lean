import MojoToolchain.Debug.Configuration.Basic
import MojoToolchain.Json.Record

/-!
# Fields of launch configurations

`Configuration.fields` lists the members that are known, with the way each is read and written.
`Configuration.ofJson` reads a configuration from a JSON object, `Configuration.json` writes it
back; `null` stands for a field that is unset.
-/

namespace MojoToolchain.Debug

open Json (Mismatch Record)

/-- A request from a value: its name, or an object with the name as its only key. -/
def Request.ofJson : Json → Except Mismatch Request
  | .string word => named word
  | .object [(word, value)] => do
    let request ← named word
    match value with
    | .null => .ok request
    | v => .error (.type v.found .unit)
  | .object _ => .error (.value .mapping .singleMember)
  | v => .error (.type v.found .textOrMapping)
where
  named (word : String) : Except Mismatch Request :=
    if word == "launch" then .ok .launch
    else if word == "attach" then .ok .attach
    else .error (.unknownVariant word ["launch", "attach"])

namespace Configuration

/-- The members that are known, in the order in which they are written. -/
def fields : List (Json.Field Configuration) :=
  [.text "type" (·.type) fun v c => { c with type := v },
   .optional "request" Request.ofJson (fun r => .string r.name) (·.request)
    fun v c => { c with request := v },
   .text "name" (·.name) fun v c => { c with name := v },
   .word32 "pid" (·.pid) fun v c => { c with pid := v },
   .text "mojoFile" (·.mojoFile) fun v c => { c with mojoFile := v },
   .text "program" (·.program) fun v c => { c with program := v },
   .texts "args" (·.args) fun v c => { c with args := v },
   .texts "buildArgs" (·.buildArgs) fun v c => { c with buildArgs := v },
   .texts "env" (·.env) fun v c => { c with env := v },
   .text "cwd" (·.cwd) fun v c => { c with cwd := v },
   .boolean "stopOnEntry" (·.stopOnEntry) fun v c => { c with stopOnEntry := v },
   .texts "initCommands" (·.initCommands) fun v c => { c with initCommands := v },
   .text "customFrameFormat" (·.customFrameFormat)
    fun v c => { c with customFrameFormat := v },
   .boolean "enableSyntheticChildDebugging" (·.enableSyntheticChildDebugging)
    fun v c => { c with enableSyntheticChildDebugging := v },
   .boolean "enableAutoVariableSummaries" (·.enableAutoVariableSummaries)
    fun v c => { c with enableAutoVariableSummaries := v },
   .text "commandEscapePrefix" (·.commandEscapePrefix)
    fun v c => { c with commandEscapePrefix := v },
   .word64 "timeout" (·.timeout) fun v c => { c with timeout := v },
   .text "debuggerPath" (·.debuggerPath) fun v c => { c with debuggerPath := v },
   .text "debugAdapterPath" (·.debugAdapterPath) fun v c => { c with debugAdapterPath := v }]

/-- How configurations are read and written. -/
def record : Record Configuration where
  fields := fields
  start := unset
  extra := (·.extra)
  setExtra members c := { c with extra := members }

/-- The configuration that a value holds. -/
def ofJson : Json → Except Mismatch Configuration
  | .object members => record.ofMembers members
  | v => .error (.type v.found (.record "DebugLaunchConfig"))

/-- The members of a configuration: the known ones that are set, and then the others. -/
def members (c : Configuration) : Json.Members := record.members c

/-- A configuration as a value. -/
def json (c : Configuration) : Json := .object c.members

end Configuration

end MojoToolchain.Debug
