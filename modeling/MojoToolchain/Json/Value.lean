import MojoToolchain.Decimal.Double

/-!
# JSON values

A number is an integer or a double, and the two are never confused.  The members of an object
that was read stand in ascending order of their keys, one for each key; `Json.insertMember`
keeps that order.  An object that is only written keeps the order of its members.
-/

namespace MojoToolchain

/-- A JSON value. -/
inductive Json where
  | null
  | bool (value : Bool)
  | integer (value : Int)
  | double (value : Double)
  | string (value : String)
  | array (items : List Json)
  | object (members : List (String × Json))
  deriving Inhabited, Repr

namespace Json

/-- Members of an object. -/
abbrev Members := List (String × Json)

/-- Sets the value of a key among members in ascending order. -/
def insertMember (key : String) (value : Json) : Members → Members
  | [] => [(key, value)]
  | (k, v) :: rest =>
    if key < k then (key, value) :: (k, v) :: rest
    else if key == k then (key, value) :: rest
    else (k, v) :: insertMember key value rest

/-- Members in ascending order of keys; of equal keys the last one stays. -/
def sortMembers (members : Members) : Members :=
  members.foldl (fun sorted (k, v) => insertMember k v sorted) []

/-- The value of the first member with a key. -/
def lookup? (key : String) : Members → Option Json
  | [] => none
  | (k, v) :: rest => if k == key then some v else lookup? key rest

/-- The value of a key, when the value is an object that has it. -/
def member? (key : String) : Json → Option Json
  | object members => lookup? key members
  | _ => none

/-- The text of a string value. -/
def string? : Json → Option String
  | string s => some s
  | _ => none

/-- A list of strings as a value. -/
def strings (items : List String) : Json := array (items.map string)

/-- A natural number as a value. -/
def natural (n : Nat) : Json := integer n

/-- The member for a value that is set; there is none for one that is not. -/
def memberOf (key : String) (value : Option α) (json : α → Json) : Members :=
  match value with
  | some a => [(key, json a)]
  | none => []

theorem lookup?_insertMember_self (key : String) (value : Json) (members : Members) :
  lookup? key (insertMember key value members) = some value
  := by
  induction members with
  | nil => simp [insertMember, lookup?]
  | cons m rest ih =>
    obtain ⟨k, v⟩ := m
    by_cases h₁ : key < k
    · simp [insertMember, lookup?, h₁]
    · by_cases h₂ : key = k
      · simp_all [insertMember, lookup?]
      · have h₃ : ¬ k = key := fun h => h₂ h.symm
        simp [insertMember, lookup?, h₁, h₂, h₃, ih]

end Json

end MojoToolchain
