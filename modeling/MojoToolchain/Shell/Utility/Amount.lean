import MojoToolchain.Shell.Utility.Basic

/-!
# Amounts

Numbers in arguments, behind which a letter may stand for a multiple: `2k` is 2048 and `2kB` is
2000.
-/

namespace MojoToolchain.Shell.Amount

/-- The power of a thousand, or of 1024, that a letter stands for. -/
def powerOf : Char → Option Nat
  | 'k' => some 1
  | 'K' => some 1
  | 'M' => some 2
  | 'm' => some 2
  | 'G' => some 3
  | 'T' => some 4
  | 'P' => some 5
  | 'E' => some 6
  | 'Z' => some 7
  | 'Y' => some 8
  | 'R' => some 9
  | 'Q' => some 10
  | _ => none

/-- The multiple that the letters behind a number stand for, the first of which is one of some. -/
def multipleOf (letters : String) (text : Bytes) : Option Nat :=
  match text with
  | [] => some 1
  | c :: r =>
    if !letters.toList.contains c then none
    else
      match c, powerOf c, r with
      | 'b', _, [] => some 512
      | 'c', _, [] => some 1
      | 'w', _, [] => some 2
      | 'B', _, [] => some 1
      | _, some power, [] => some (1 <<< (10 * power))
      | _, some power, ['B'] => some (Nat.pow 1000 power)
      | _, some power, ['D'] => some (Nat.pow 1000 power)
      | _, some power, ['i', 'B'] => some (1 <<< (10 * power))
      | _, _, _ => none

/-- The number that a text writes; a letter alone stands for one of its multiples. -/
def natural? (letters : String) (text : Bytes) : Option Nat :=
  let text := text.dropWhile fun c => c == ' ' || ('\t' ≤ c && c ≤ '\r')
  let text := if text.head? == some '+' then text.drop 1 else text
  let digits := text.takeWhile Char.isDigit
  match naturalOf digits, multipleOf letters (text.drop digits.length) with
  | some n, some multiple => some (n * multiple)
  | none, some multiple => if text.isEmpty then none else some multiple
  | _, none => none

/-- The number that a text writes, which may have a sign. -/
def integer? (letters : String) (text : Bytes) : Option Int :=
  match text with
  | '-' :: r => if r.head?.any Char.isDigit then (natural? letters r).map fun n => -n else none
  | text => (natural? letters text).map fun n => n

/-- Why a number is none of those that are wanted. -/
def outside (n : Int) : String :=
  if 1 <<< 30 ≤ n || n < -(1 <<< 30) then ": Value too large for defined data type"
  else ": Numerical result out of range"

/-- The number that a text writes, between two others; or what is wrong with it. -/
def integerIn (letters : String) (least most : Int) (what : String) (text : Bytes) :
    Except String Int :=
  let shown := what ++ ": " ++ Quoting.plain text
  match integer? letters text with
  | none => .error shown
  | some n => if n < least || most < n then .error (shown ++ outside n) else .ok n

/-- The natural number that a text writes, from a least one on; or what is wrong with it. -/
def naturalIn (letters : String) (least : Nat) (what : String) (text : Bytes) :
    Except String Nat :=
  let shown := what ++ ": " ++ Quoting.plain text
  match natural? letters text with
  | none => .error shown
  | some n =>
    if n < least || 1 <<< 64 ≤ n then .error (shown ++ outside n) else .ok n

/-- The letters of all multiples that sizes have. -/
def sizeLetters : String := "bkKmMGTPEZYRQ"

end MojoToolchain.Shell.Amount
