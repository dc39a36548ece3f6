import MojoToolchain.Shell.Syntax

/-!
# Permissions

A mode is a number whose bits say who may read, write and execute a file.  Clauses such as `g+rw-x`
change a mode.
-/

namespace MojoToolchain.Shell.Permissions

/-- The bits of the letters of permissions, which may also name those that others have in a mode. -/
def bitsOf (mode : Nat) (letters : Bytes) : Nat :=
  letters.foldl (fun bits c =>
    bits ||| match c with
      | 'r' => 0o444
      | 'w' => 0o222
      | 'x' => 0o111
      | 'X' => if mode &&& 0o111 != 0 then 0o111 else 0
      | 'u' => 0o111 * (mode / 64 % 8)
      | 'g' => 0o111 * (mode / 8 % 8)
      | 'o' => 0o111 * (mode % 8)
      | _ => 0) 0

/-- The bits of those to whom permissions are given; `others` are theirs when no letter says. -/
def ownerBits (others : Nat) (letters : Bytes) : Nat :=
  letters.foldl (fun bits c =>
    bits ||| match c with
      | 'u' => 0o700
      | 'g' => 0o070
      | 'o' => 0o007
      | _ => 0o777) (if letters.isEmpty then others else 0)

/-- A mode that a clause such as `g+rw-x` changes, behind its owners. -/
def change (owners : Nat) (mode : Nat) : Nat → Bytes → Option Nat
  | 0, _ => none
  | _ + 1, [] => some mode
  | bound + 1, op :: r =>
    let letters := r.takeWhile fun c => "rwxXstugo".toList.contains c
    let bits := bitsOf mode letters &&& owners
    let rest := r.drop letters.length
    match op with
    | '+' => change owners (mode ||| bits) bound rest
    | '-' => change owners (mode - (mode &&& bits)) bound rest
    | '=' => change owners (mode - (mode &&& owners) ||| bits) bound rest
    | _ => none

/-- A mode that clauses change; what is in a mask is not changed for those who are not named. -/
def changeAll (mask mode : Nat) (clauses : List Bytes) : Option Nat :=
  clauses.foldlM (fun mode clause =>
    let owners := clause.takeWhile fun c => "ugoa".toList.contains c
    let rest := clause.drop owners.length
    if rest.isEmpty then none
    else change (ownerBits (0o777 - mask % 512) owners) mode (clause.length + 1) rest) mode

/-- The number that octal digits write. -/
def octal? (text : Bytes) : Option Nat :=
  if text.isEmpty || !text.all (fun c => '0' ≤ c && c ≤ '7') then none
  else some (text.foldl (fun n c => 8 * n + (c.toNat - 48)) 0)

/-- A mode that a text changes, or that it writes as octal digits. -/
def ofText? (mask mode : Nat) (text : Bytes) : Option Nat :=
  match octal? text with
  | some n => if n ≤ 0o7777 then some n else none
  | none => changeAll mask mode (text.splitOn ',')

/-- The letters of three bits. -/
def letters (hidden : Option Char) (bits : Nat) : Bytes :=
  let shown (bit : Nat) (c : Char) : Bytes :=
    if bits &&& bit != 0 then [c] else hidden.toList
  shown 4 'r' ++ shown 2 'w' ++ shown 1 'x'

/-- A mode as clauses. -/
def clauses (mode : Nat) : Bytes :=
  let part (owner : Char) (bits : Nat) : Bytes := owner :: '=' :: letters none bits
  [','].intercalate [part 'u' (mode / 64 % 8), part 'g' (mode / 8 % 8), part 'o' (mode % 8)]

/-- A mode in a row, as lists of files show it. -/
def row (mode : Nat) : Bytes :=
  [mode / 64 % 8, mode / 8 % 8, mode % 8].flatMap (letters (some '-'))

/-- A mode as four octal digits. -/
def digits (mode : Nat) : Bytes :=
  let text := Nat.toDigits 8 mode
  List.replicate (4 - text.length) '0' ++ text

/-- The mode of what may be executed, and of what may not. -/
def usual (executable : Bool) : Nat := if executable then 0o755 else 0o644

end MojoToolchain.Shell.Permissions
