import MojoToolchain.Decimal.Shortest
import MojoToolchain.Json.Value
import MojoToolchain.Text.Quoted

/-!
# Values of the wrong form

A `Mismatch` says what was found where something else was expected, and `Mismatch.message` is
its wording.  `toBool`, `toText` and `toUnsigned` take a value of the expected form apart.
-/

namespace MojoToolchain.Json

/-- A form that a value may be expected to have. -/
inductive Shape where
  | text
  | path
  | boolean
  | sequence
  | mapping
  | unit
  | textOrMapping
  | singleMember
  /-- A natural number of so many bits. -/
  | unsigned (bits : Nat)
  /-- The record of a name. -/
  | record (name : String)
  deriving DecidableEq, Repr

/-- The wording of an expected form. -/
def Shape.message : Shape → String
  | text => "a string"
  | path => "path string"
  | boolean => "a boolean"
  | sequence => "a sequence"
  | mapping => "a map"
  | unit => "unit"
  | textOrMapping => "string or map"
  | singleMember => "map with a single key"
  | unsigned bits => s!"u{bits}"
  | record name => "struct " ++ name

/-- What a value that does not fit is said to be. -/
inductive Found where
  | null
  | bool (value : Bool)
  | integer (value : Int)
  | double (value : Double)
  | string (value : String)
  | sequence
  | mapping
  deriving DecidableEq, Repr

/-- What a value is said to be. -/
def found : Json → Found
  | null => .null
  | bool b => .bool b
  | integer n => .integer n
  | double x => .double x
  | string s => .string s
  | array _ => .sequence
  | object _ => .mapping

/-- The wording of a value that does not fit. -/
def Found.message : Found → String
  | null => "null"
  | bool b => "boolean `" ++ (if b then "true" else "false") ++ "`"
  | integer n => "integer `" ++ toString n ++ "`"
  | double x => "floating point `" ++ String.ofList x.text ++ "`"
  | string s => "string " ++ Text.quote s
  | sequence => "sequence"
  | mapping => "map"

/-- A way in which a value does not fit. -/
inductive Mismatch where
  /-- A value of another type. -/
  | type (found : Found) (expected : Shape)
  /-- A value of the right type that is out of range. -/
  | value (found : Found) (expected : Shape)
  /-- A word that is none of those allowed. -/
  | unknownVariant (word : String) (allowed : List String)
  /-- A member that a record has already. -/
  | duplicateField (field : String)
  /-- A member that a record lacks. -/
  | missingField (field : String)
  /-- A sequence that is too short for the record of a name with so many fields. -/
  | shortSequence (length : Nat) (record : String) (fields : Nat)
  /-- A sequence that is too long for a record. -/
  | longSequence (length : Nat)
  deriving DecidableEq, Repr

/-- Allowed words in a message: all but the last one before an `or`. -/
def alternatives : List String → String
  | [] => ""
  | [word] => "`" ++ word ++ "`"
  | [first, second] => "`" ++ first ++ "` or `" ++ second ++ "`"
  | words => "one of " ++ String.intercalate ", " (words.map fun w => "`" ++ w ++ "`")

/-- The wording of a mismatch. -/
def Mismatch.message : Mismatch → String
  | type found expected => "invalid type: " ++ found.message ++ ", expected " ++ expected.message
  | value found expected => "invalid value: " ++ found.message ++ ", expected " ++ expected.message
  | unknownVariant word allowed =>
    "unknown variant `" ++ word ++ "`, expected " ++ alternatives allowed
  | duplicateField field => "duplicate field `" ++ field ++ "`"
  | missingField field => "missing field `" ++ field ++ "`"
  | shortSequence length record fields =>
    "invalid length " ++ toString length ++ ", expected struct " ++ record ++ " with "
      ++ toString fields ++ " elements"
  | longSequence length =>
    "invalid length " ++ toString length ++ ", expected fewer elements in array"

/-! ### Values of an expected form -/

/-- The truth value that a value holds. -/
def toBool : Json → Except Mismatch Bool
  | bool b => .ok b
  | v => .error (.type v.found .boolean)

/-- The text that a value holds; `shape` says how the text is called. -/
def toText (shape : Shape) : Json → Except Mismatch String
  | string s => .ok s
  | v => .error (.type v.found shape)

/-- The natural number below `2 ^ bits` that a value holds. -/
def toUnsigned (bits : Nat) : Json → Except Mismatch Nat
  | integer n =>
    if 0 ≤ n ∧ n.toNat < 1 <<< bits then .ok n.toNat
    else .error (.value (.integer n) (.unsigned bits))
  | v => .error (.type v.found (.unsigned bits))

/-- The items of a sequence, each read with `item`. -/
def toList (item : Json → Except Mismatch α) : Json → Except Mismatch (List α)
  | array items => items.mapM item
  | v => .error (.type v.found .sequence)

/-- A value that may be null. -/
def toOption (item : Json → Except Mismatch α) : Json → Except Mismatch (Option α)
  | null => .ok none
  | v => (item v).map some

theorem toUnsigned_natural {bits n : Nat} (h : n < 1 <<< bits) :
  toUnsigned bits (natural n) = .ok n
  := if_pos ⟨Int.natCast_nonneg n, h⟩

end MojoToolchain.Json
