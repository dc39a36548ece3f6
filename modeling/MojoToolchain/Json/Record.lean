import MojoToolchain.Json.Mismatch

/-!
# Records and their members

A `Record` says how a type is read from the members of an object and written as members.  Its
fields are the members that are known; the others are kept beside them, in ascending order of
keys.
-/

namespace MojoToolchain.Json

/-! ### Fields -/

/-- A member that a record knows. -/
structure Field (σ : Type) where
  key : String
  /-- Stores the value of the member. -/
  store : Json → σ → Except Mismatch σ
  /-- The value of the member, when it is set. -/
  value : σ → Option Json

namespace Field

/-- A field that is read as a value or as none. -/
def stored (key : String) (read : Json → Except Mismatch (Option α)) (write : α → Json)
    (get : σ → Option α) (set : Option α → σ → σ) : Field σ where
  key := key
  store v s := do return set (← read v) s
  value s := (get s).map write

/-- A field whose value is never null. -/
def required (key : String) (read : Json → Except Mismatch α) (write : α → Json)
    (get : σ → Option α) (set : Option α → σ → σ) : Field σ :=
  stored key (fun v => (read v).map some) write get set

/-- A field that null leaves unset. -/
def optional (key : String) (read : Json → Except Mismatch α) (write : α → Json)
    (get : σ → Option α) (set : Option α → σ → σ) : Field σ :=
  stored key (toOption read) write get set

/-- A field that may hold a text. -/
def text (key : String) : (σ → Option String) → (Option String → σ → σ) → Field σ :=
  optional key (toText .text) .string

/-- A field that may hold a list of texts. -/
def texts (key : String) :
    (σ → Option (List String)) → (Option (List String) → σ → σ) → Field σ :=
  optional key (toList (toText .text)) .strings

/-- A field that may hold a truth value. -/
def boolean (key : String) : (σ → Option Bool) → (Option Bool → σ → σ) → Field σ :=
  optional key toBool .bool

/-- A number of 32 bits from a value. -/
def readWord32 (v : Json) : Except Mismatch UInt32 := do
  return UInt32.ofNat (← toUnsigned 32 v)

/-- A number of 64 bits from a value. -/
def readWord64 (v : Json) : Except Mismatch UInt64 := do
  return UInt64.ofNat (← toUnsigned 64 v)

/-- A field that may hold a number of 32 bits. -/
def word32 (key : String) : (σ → Option UInt32) → (Option UInt32 → σ → σ) → Field σ :=
  optional key readWord32 fun n => .natural n.toNat

/-- A field that may hold a number of 64 bits. -/
def word64 (key : String) : (σ → Option UInt64) → (Option UInt64 → σ → σ) → Field σ :=
  optional key readWord64 fun n => .natural n.toNat

end Field

/-! ### Records -/

/-- How the values of a type are read and written. -/
structure Record (σ : Type) where
  /-- The members that are known, in the order in which they are written. -/
  fields : List (Field σ)
  /-- Nothing is set. -/
  start : σ
  /-- The members that are not known. -/
  extra : σ → Members
  setExtra : Members → σ → σ

namespace Record

/-- Reads one member. -/
def readMember (r : Record σ) (s : σ) (m : String × Json) : Except Mismatch σ :=
  match r.fields.find? (·.key == m.1) with
  | some field => field.store m.2 s
  | none => .ok (r.setExtra (insertMember m.1 m.2 (r.extra s)) s)

/-- Reads the members of an object in order; the first that does not fit decides. -/
def ofMembers (r : Record σ) (members : Members) : Except Mismatch σ :=
  members.foldlM r.readMember r.start

/-- The members of a record: the known ones that are set, and then the others. -/
def members (r : Record σ) (s : σ) : Members :=
  (r.fields.filterMap fun field => (field.value s).map fun v => (field.key, v)) ++ r.extra s

end Record

end MojoToolchain.Json
