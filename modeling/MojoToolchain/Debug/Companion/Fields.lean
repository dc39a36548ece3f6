import MojoToolchain.Debug.Companion
import MojoToolchain.Debug.Configuration.Fields

/-!
# Fields of companion configurations

`CompanionConfiguration.ofJson` reads a configuration for the companion debugger from a JSON
object.  The type, the request and the mode have to be there; a variable is an object with a
name and a value, or a list of the two.
-/

namespace MojoToolchain.Debug.CompanionConfiguration

open Json (Mismatch Record)

/-! ### Variables -/

/-- The name and the value of a variable, as far as they have been read; other members are passed
over. -/
def variableRecord : Record (Option String × Option String) where
  fields :=
    [.required "name" (Json.toText .text) .string (·.1) fun v s => (v, s.2),
     .required "value" (Json.toText .text) .string (·.2) fun v s => (s.1, v)]
  start := (none, none)
  extra _ := []
  setExtra _ s := s

/-- The variable of a name and a value that have been read. -/
def finishVariable : Option String × Option String → Except Mismatch (String × String)
  | (none, _) => .error (.missingField "name")
  | (_, none) => .error (.missingField "value")
  | (some name, some value) => .ok (name, value)

/-- The variable that a list of its name and its value holds. -/
def variableOfItems : List Json → Except Mismatch (String × String)
  | [] => .error (.shortSequence 0 "EnvironmentEntry" 2)
  | [name] => do
    let _ ← Json.toText .text name
    .error (.shortSequence 1 "EnvironmentEntry" 2)
  | name :: value :: rest => do
    let name ← Json.toText .text name
    let value ← Json.toText .text value
    if rest.isEmpty then .ok (name, value) else .error (.longSequence (2 + rest.length))

/-- A variable from a value. -/
def readVariable : Json → Except Mismatch (String × String)
  | .object members => do finishVariable (← variableRecord.ofMembers members)
  | .array items => variableOfItems items
  | v => .error (.type v.found (.record "EnvironmentEntry"))

/-! ### Configurations -/

/-- The members of a configuration, as far as they have been read. -/
structure Draft where
  type : Option String
  request : Option Request
  name : Option String
  program : Option String
  args : Option String
  cwd : Option String
  stopAtEntry : Option Bool
  processId : Option UInt32
  environment : Option (List (String × String))
  miMode : Option String
  extra : Json.Members

namespace Draft

/-- Nothing has been read. -/
def empty : Draft := ⟨none, none, none, none, none, none, none, none, none, none, []⟩

/-- The members that are known, in the order in which they are written. -/
def fields : List (Json.Field Draft) :=
  [.required "type" (Json.toText .text) .string (·.type) fun v d => { d with type := v },
   .required "request" Request.ofJson (fun r => .string r.name) (·.request)
    fun v d => { d with request := v },
   .text "name" (·.name) fun v d => { d with name := v },
   .text "program" (·.program) fun v d => { d with program := v },
   .text "args" (·.args) fun v d => { d with args := v },
   .text "cwd" (·.cwd) fun v d => { d with cwd := v },
   .boolean "stopAtEntry" (·.stopAtEntry) fun v d => { d with stopAtEntry := v },
   .word32 "processId" (·.processId) fun v d => { d with processId := v },
   .required "environment" (Json.toList readVariable) (fun vs => .array (vs.map variableJson))
    (·.environment) fun v d => { d with environment := v },
   .required "MIMode" (Json.toText .text) .string (·.miMode) fun v d => { d with miMode := v }]

/-- How configurations are read, as far as single members go. -/
def record : Record Draft where
  fields := fields
  start := empty
  extra := (·.extra)
  setExtra members d := { d with extra := members }

/-- The configuration of a draft that has all the members that may not be missing. -/
def finish (d : Draft) : Except Mismatch CompanionConfiguration :=
  match d.type, d.request, d.miMode with
  | none, _, _ => .error (.missingField "type")
  | _, none, _ => .error (.missingField "request")
  | _, _, none => .error (.missingField "MIMode")
  | some type, some request, some miMode =>
    .ok {
      type := type
      request := request
      name := d.name
      program := d.program
      args := d.args
      cwd := d.cwd
      stopAtEntry := d.stopAtEntry
      processId := d.processId
      environment := d.environment.getD []
      miMode := miMode
      extra := d.extra }

end Draft

/-- The draft of a configuration, in which every member that may not be missing is there. -/
def draft (c : CompanionConfiguration) : Draft where
  type := some c.type
  request := some c.request
  name := c.name
  program := c.program
  args := c.args
  cwd := c.cwd
  stopAtEntry := c.stopAtEntry
  processId := c.processId
  environment := some c.environment
  miMode := some c.miMode
  extra := c.extra

@[simp]
theorem finish_draft (c : CompanionConfiguration) :
  c.draft.finish = .ok c
  := rfl

/-- The configuration that a value holds. -/
def ofJson : Json → Except Mismatch CompanionConfiguration
  | .object members => do (← Draft.record.ofMembers members).finish
  | v => .error (.type v.found (.record "SecondaryDebugConfig"))

end MojoToolchain.Debug.CompanionConfiguration
