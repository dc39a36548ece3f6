import MojoToolchain.Decimal.Shortest
import MojoToolchain.Json.Value

/-!
# Written JSON

`compact` writes a value without white space, `pretty` with one member or item to a line and
two spaces for each level.  Both keep the order of members and write every character that needs
no escape as it is.
-/

namespace MojoToolchain.Json

/-- The hexadecimal digit of a number below sixteen. -/
def hexDigit (n : Nat) : Char := Nat.digitChar (n % 16)

/-- A character inside a string literal. -/
def escape (c : Char) : List Char :=
  if c == '"' then ['\\', '"']
  else if c == '\\' then ['\\', '\\']
  else if c == '\x08' then ['\\', 'b']
  else if c == '\t' then ['\\', 't']
  else if c == '\n' then ['\\', 'n']
  else if c == '\x0c' then ['\\', 'f']
  else if c == '\r' then ['\\', 'r']
  else if c.toNat < 32 then ['\\', 'u', '0', '0', hexDigit (c.toNat / 16), hexDigit c.toNat]
  else [c]

/-- A string literal. -/
def quoted (s : String) : List Char := '"' :: s.toList.flatMap escape ++ ['"']

/-- An integer in decimal digits. -/
def integerText (n : Int) : List Char :=
  (if n < 0 then ['-'] else []) ++ Nat.toDigits 10 n.natAbs

/-- A value that is no container. -/
def scalarText : Json → List Char
  | bool true => ['t', 'r', 'u', 'e']
  | bool false => ['f', 'a', 'l', 's', 'e']
  | integer n => integerText n
  | double x => x.text
  | string s => quoted s
  | _ => ['n', 'u', 'l', 'l']

mutual

/-- A value without white space. -/
def compact : Json → List Char
  | array items => '[' :: compactItems items ++ [']']
  | object members => '{' :: compactMembers members ++ ['}']
  | scalar => scalarText scalar

/-- Items with a comma between each two. -/
def compactItems : List Json → List Char
  | [] => []
  | [item] => compact item
  | item :: rest => compact item ++ ',' :: compactItems rest

/-- Members with a comma between each two. -/
def compactMembers : List (String × Json) → List Char
  | [] => []
  | [(key, value)] => quoted key ++ ':' :: compact value
  | (key, value) :: rest => quoted key ++ ':' :: compact value ++ ',' :: compactMembers rest

end

/-- The start of a line at a level. -/
def newLine (level : Nat) : List Char := '\n' :: List.replicate (2 * level) ' '

mutual

/-- A value at a level, one item or member to a line; empty containers stay on one line. -/
def prettyAt (level : Nat) : Json → List Char
  | array [] => ['[', ']']
  | object [] => ['{', '}']
  | array items => '[' :: prettyItems (level + 1) items ++ newLine level ++ [']']
  | object members => '{' :: prettyMembers (level + 1) members ++ newLine level ++ ['}']
  | scalar => scalarText scalar

/-- Items on lines of their own. -/
def prettyItems (level : Nat) : List Json → List Char
  | [] => []
  | [item] => newLine level ++ prettyAt level item
  | item :: rest => newLine level ++ prettyAt level item ++ ',' :: prettyItems level rest

/-- Members on lines of their own. -/
def prettyMembers (level : Nat) : List (String × Json) → List Char
  | [] => []
  | [(key, value)] => newLine level ++ quoted key ++ ':' :: ' ' :: prettyAt level value
  | (key, value) :: rest =>
    newLine level ++ quoted key ++ ':' :: ' ' :: prettyAt level value
      ++ ',' :: prettyMembers level rest

end

/-- A value without white space, as a string. -/
def compactString (value : Json) : String := String.ofList (compact value)

/-- A value on indented lines, as a string. -/
def prettyString (value : Json) : String := String.ofList (prettyAt 0 value)

end MojoToolchain.Json
