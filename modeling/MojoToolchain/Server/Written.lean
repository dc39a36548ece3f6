import MojoToolchain.Json.Mismatch
import MojoToolchain.Server.Launch

/-!
# Written launches

A `ServerLaunch` is read from an object, whose unknown members are passed over, or from a list
of its fields in order.  The arguments, the variables and the names of roots may be missing.
-/

namespace MojoToolchain.ServerLaunch

open Host (Variables)
open Json (Mismatch)

/-- The fields of a launch that have been read. -/
structure Draft where
  language : Option String
  command : Option Path
  args : Option (List String)
  env : Option Variables
  extensions : Option (List String)
  rootPatterns : Option (List String)

/-- No field has been read. -/
def Draft.empty : Draft := ⟨none, none, none, none, none, none⟩

/-- Stores the value of one field. -/
abbrev Store := Json → Draft → Except Mismatch Draft

/-- A text from a value. -/
def readText : Json → Except Mismatch String := Json.toText .text

/-- A list of texts from a value. -/
def readTexts : Json → Except Mismatch (List String) := Json.toList readText

/-- Variables from a value. -/
def readVariables : Json → Except Mismatch Variables
  | .object members => members.mapM fun (name, value) => do return (name, ← readText value)
  | v => .error (.type v.found .mapping)

/-- The fields of a launch in order. -/
def fields : List (String × Store) :=
  [("language", fun v d => do return { d with language := some (← readText v) }),
   ("command", fun v d => do return { d with command := some ⟨← Json.toText .path v⟩ }),
   ("args", fun v d => do return { d with args := some (← readTexts v) }),
   ("env", fun v d => do return { d with env := some (← readVariables v) }),
   ("extensions", fun v d => do return { d with extensions := some (← readTexts v) }),
   ("rootPatterns", fun v d => do return { d with rootPatterns := some (← readTexts v) })]

/-- The launch of a draft that has all the fields that may not be missing. -/
def Draft.finish (d : Draft) (missing : String → Mismatch) : Except Mismatch ServerLaunch :=
  match d.language, d.command, d.extensions with
  | none, _, _ => .error (missing "language")
  | _, none, _ => .error (missing "command")
  | _, _, none => .error (missing "extensions")
  | some language, some command, some extensions =>
    .ok ⟨language, command, d.args.getD [], d.env.getD [], extensions, d.rootPatterns.getD []⟩

/-- Reads one member of an object. -/
def readMember (d : Draft) (m : String × Json) : Except Mismatch Draft :=
  match fields.find? (·.1 == m.1) with
  | some (_, store) => store m.2 d
  | none => .ok d

/-- The position of a field among the fields. -/
def position (key : String) : Nat := fields.findIdx (·.1 == key)

/-- The launch that a list of fields holds. -/
def ofItems (items : List Json) : Except Mismatch ServerLaunch := do
  let draft ← (fields.zip items).foldlM (fun d ((_, store), v) => store v d) Draft.empty
  let launch ← draft.finish fun key =>
    .shortSequence (position key) "ServerLaunch" fields.length
  if fields.length < items.length then .error (.longSequence items.length) else .ok launch

/-- The launch that a value holds. -/
def ofJson : Json → Except Mismatch ServerLaunch
  | .object members => do (← members.foldlM readMember Draft.empty).finish .missingField
  | .array items => ofItems items
  | v => .error (.type v.found (.record "ServerLaunch"))

/-- The members of a launch. -/
def members (l : ServerLaunch) : Json.Members :=
  [("language", .string l.language), ("command", .string l.command.text),
   ("args", .strings l.args), ("env", .object (l.env.map fun (k, v) => (k, .string v))),
   ("extensions", .strings l.extensions), ("rootPatterns", .strings l.rootPatterns)]

/-- A launch as a value. -/
def json (l : ServerLaunch) : Json := .object l.members

theorem ofJson_null :
  ofJson .null = .error (.type .null (.record "ServerLaunch"))
  := rfl

end MojoToolchain.ServerLaunch
