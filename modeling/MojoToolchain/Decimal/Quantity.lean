import MojoToolchain.Decimal.Double

/-!
# Numbers as texts write them

A `Quantity` is what a text stands for that writes a number: a quotient of natural numbers with a
sign, an infinite number, or none at all.  `Quantity.read?` reads one at the front of a text;
`fixed`, `exponential` and `general` write one with so many digits, a tie rounded to the even
digit.
-/

namespace MojoToolchain

/-- A number that a text writes. -/
inductive Quantity where
  | ratio (negative : Bool) (num den : Nat)
  | infinite (negative : Bool)
  | undefined (negative : Bool)
  deriving DecidableEq, Inhabited, Repr

namespace Quantity

/-- The number zero. -/
def zero : Quantity := .ratio false 0 1

/-- The quantity of an integer. -/
def ofInt (n : Int) : Quantity := .ratio (n < 0) n.natAbs 1

/-- The sign. -/
def isNegative : Quantity → Bool
  | ratio negative _ _ => negative
  | infinite negative => negative
  | undefined negative => negative

/-- The quantity with the other sign, if asked for. -/
def negateIf (flip : Bool) : Quantity → Quantity
  | ratio negative num den => ratio (negative != flip) num den
  | infinite negative => infinite (negative != flip)
  | undefined negative => undefined (negative != flip)

/-! ### Reading -/

/-- The value of a digit of bases up to sixteen; 16 for what is no digit. -/
def digitValue (c : Char) : Nat :=
  if c.isDigit then c.toNat - 48
  else if 'a' ≤ c && c ≤ 'f' then c.toNat - 87
  else if 'A' ≤ c && c ≤ 'F' then c.toNat - 55
  else 16

/-- The number that digits write. -/
def numberIn (base : Nat) (digits : List Char) : Nat :=
  digits.foldl (fun n c => base * n + digitValue c) 0

/-- The digits of a base at the front of a text. -/
def digitsAt (base : Nat) (s : List Char) : List Char :=
  s.takeWhile fun c => digitValue c < base

/-- Reads an exponent behind one of its letters, at most a large one; the text is left when none
stands there. -/
def readExponent (letters : List Char) (s : List Char) : Int × List Char :=
  match s with
  | c :: r =>
    if !letters.contains c then (0, s)
    else
      let (negative, r) : Bool × List Char :=
        match r with
        | '-' :: r => (true, r)
        | '+' :: r => (false, r)
        | r => (false, r)
      let digits := digitsAt 10 r
      if digits.isEmpty then (0, s)
      else
        let size := min (numberIn 10 digits) 20000
        (if negative then -(size : Int) else size, r.drop digits.length)
  | [] => (0, [])

/-- A word at the front of a text, whatever its case, dropped. -/
def dropWord (word : String) (s : List Char) : Option (List Char) :=
  if (s.take word.length).map Char.toLower == word.toList then some (s.drop word.length) else none

/-- Reads a number in a base without its sign, and an exponent of a power of another base behind
one of the letters. -/
def readDigits? (base power : Nat) (letters : List Char) (s : List Char) :
    Option (Quantity × List Char) :=
  let whole := digitsAt base s
  let rest := s.drop whole.length
  let (fraction, rest) : List Char × List Char :=
    match rest with
    | '.' :: r => (digitsAt base r, r.dropWhile fun c => digitValue c < base)
    | r => ([], r)
  if whole.isEmpty && fraction.isEmpty then none
  else
    let (e, rest) := readExponent letters rest
    let num := numberIn base (whole ++ fraction) * Nat.pow power e.toNat
    let den := Nat.pow base fraction.length * Nat.pow power (-e).toNat
    some (.ratio false num den, rest)

/-- Reads a number at the front of a text: decimal, hexadecimal, infinite or none. -/
def read? (s : List Char) : Option (Quantity × List Char) :=
  let (negative, r) : Bool × List Char :=
    match s with
    | '-' :: r => (true, r)
    | '+' :: r => (false, r)
    | r => (false, r)
  let hexadecimal : Option (Quantity × List Char) :=
    match r with
    | '0' :: x :: more => if x == 'x' || x == 'X' then readDigits? 16 2 ['p', 'P'] more else none
    | _ => none
  let word : Option (Quantity × List Char) :=
    match dropWord "infinity" r <|> dropWord "inf" r, dropWord "nan" r with
    | some rest, _ => some (.infinite false, rest)
    | none, some rest => some (.undefined false, rest)
    | none, none => none
  (hexadecimal <|> readDigits? 10 10 ['e', 'E'] r <|> word).map fun (q, rest) =>
    (q.negateIf negative, rest)

/-! ### Rounding -/

/-- The double nearest to a quantity; a number that is none has a magnitude above infinity. -/
def toDouble : Quantity → Double
  | ratio negative num den => ⟨negative, Double.nearest num den⟩
  | infinite negative => ⟨negative, Double.infinity⟩
  | undefined negative => ⟨negative, Double.infinity + 1⟩

/-- The quantity that a double is. -/
def ofDouble (x : Double) : Quantity :=
  if x.magnitude < Double.infinity then
    let (num, den) := Double.ratio x.magnitude
    .ratio x.negative num den
  else if x.magnitude == Double.infinity then .infinite x.negative
  else .undefined x.negative

/-- A quantity rounded to so many bits, a tie to the even one. -/
def toBits (bits : Nat) : Quantity → Quantity
  | ratio negative num den =>
    if num == 0 then ratio negative 0 1
    else
      let high := Nat.log2 num
      let low := Nat.log2 den
      -- the quotient lies between `2 ^ (high - low - 1)` and `2 ^ (high - low + 1)`
      let place (up : Nat) (e : Nat) : Quantity :=
        let n := Double.roundDiv (num <<< up) (den <<< e)
        .ratio negative (n <<< e) (1 <<< up)
      let shift : Int := (high : Int) - low - bits
      let up := (-shift).toNat
      let down := shift.toNat
      if num <<< up < den <<< (down + bits) then place up down
      else if 0 < up then place (up - 1) down
      else place up (down + 1)
  | q => q

/-! ### Writing -/

/-- A quotient as digits with so many decimals, and a point in front of them if there are any or
if it is asked for. -/
def fixed (places : Nat) (pointed : Bool) (num den : Nat) : List Char :=
  let digits := Nat.toDigits 10 (Double.roundDiv (num * Nat.pow 10 places) den)
  let digits := List.replicate (places + 1 - digits.length) '0' ++ digits
  let whole := digits.length - places
  digits.take whole ++ (if 0 < places || pointed then ['.'] else []) ++ digits.drop whole

/-- The exponent of the first digit of a quotient, when it is rounded to so many decimals behind
that digit, and its digits. -/
def rounded (places : Nat) (num den : Nat) : Int × List Char :=
  if num == 0 then (0, List.replicate (places + 1) '0')
  else
    let size (e : Int) : Nat :=
      let up := ((places : Int) - e).toNat
      let down := (e - places).toNat
      Double.roundDiv (num * Nat.pow 10 up) (den * Nat.pow 10 down)
    let guess : Int := (Nat.toDigits 10 num).length - (Nat.toDigits 10 den).length - 1
    -- the exponent is the guess or one of the two numbers above it
    let first := [guess, guess + 1, guess + 2].find? fun e => size e < Nat.pow 10 (places + 1)
    let e := first.getD guess
    (e, Nat.toDigits 10 (size e))

/-- An exponent with its letter, its sign and at least two digits. -/
def exponentText (letter : Char) (e : Int) : List Char :=
  let digits := Nat.toDigits 10 e.natAbs
  letter :: (if e < 0 then '-' else '+') :: List.replicate (2 - digits.length) '0' ++ digits

/-- Digits with a point behind the first one. -/
def pointed (always : Bool) (digits : List Char) : List Char :=
  digits.take 1 ++ (if always || 1 < digits.length then ['.'] else []) ++ digits.drop 1

/-- A quotient as one digit, so many decimals and an exponent. -/
def exponential (letter : Char) (places : Nat) (always : Bool) (num den : Nat) : List Char :=
  let (e, digits) := rounded places num den
  pointed always digits ++ exponentText letter e

/-- Decimals without the zeros at their end, and without a point when none is left. -/
def trimmed (s : List Char) : List Char :=
  if s.contains '.' then
    let kept := s.reverse.dropWhile (· == '0')
    (if kept.head? == some '.' then kept.drop 1 else kept).reverse
  else s

/-- A quotient with so many significant digits, with an exponent only if it is far from one; zeros
at the end are left out unless all are asked for. -/
def general (letter : Char) (precision : Nat) (all : Bool) (num den : Nat) : List Char :=
  let digits := max precision 1
  let (e, figures) := rounded (digits - 1) num den
  let cut (s : List Char) : List Char := if all then s else trimmed s
  if -4 ≤ e && e < digits then
    cut (fixed ((digits : Int) - 1 - e).toNat all num den)
  else cut (pointed all figures) ++ exponentText letter e

end Quantity

end MojoToolchain
