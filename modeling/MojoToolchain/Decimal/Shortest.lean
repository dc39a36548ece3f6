import MojoToolchain.Decimal.Double

/-!
# Shortest decimals

The shortest decimal of a double has the fewest digits that read back as that double, and of
those the digits nearest to it, an even last digit if two are as near.  `Double.text` writes it:
positionally for exponents from -5 to 15, always with a point, and otherwise with a signed
exponent.
-/

namespace MojoToolchain.Double

/-- A positive decimal: `digits * 10 ^ exponent`. -/
structure Decimal where
  digits : Nat
  exponent : Int
  deriving DecidableEq, Repr

/-- The reals that round to a magnitude, over the denominator `2 ^ 1076`: both ends, and whether
they belong to them. -/
def interval (magnitude : Nat) : Nat × Nat × Bool :=
  let (m, e) := parts magnitude
  let low := if m == hidden && e != 0 then 4 * m - 1 else 4 * m - 2
  (low <<< e, (4 * m + 2) <<< e, m % 2 == 0)

/-- The exponent of the first digit of `num / den`. -/
def leadingExponent (num den : Nat) : Int :=
  ((Nat.toDigits 10 (num * Nat.pow 10 400 / den)).length : Int) - 401

/-- The point of the grid `10 ^ exponent` that reads back as `magnitude`, the nearer one if there
are two, and the even one if both are as near. -/
def onGrid (magnitude : Nat) (exponent : Int) : Option Decimal :=
  let (low, high, closed) := interval magnitude
  let (m, e) := parts magnitude
  -- everything below is over the denominator `2 ^ 1076 * 10 ^ down`
  let up := Nat.pow 10 exponent.toNat
  let down := Nat.pow 10 (-exponent).toNat
  let unit := up <<< 1076
  let value := (4 * m) <<< e * down
  let holds (d : Nat) : Bool :=
    let x := d * unit
    if closed then low * down ≤ x && x ≤ high * down else low * down < x && x < high * down
  let floor := value / unit
  match holds floor, holds (floor + 1) with
  | true, true =>
    match compare (2 * (value % unit)) unit with
    | .lt => some ⟨floor, exponent⟩
    | .eq => some ⟨floor + floor % 2, exponent⟩
    | .gt => some ⟨floor + 1, exponent⟩
  | true, false => some ⟨floor, exponent⟩
  | false, true => some ⟨floor + 1, exponent⟩
  | false, false => none

/-- The shortest decimal of a magnitude that is not zero. -/
def shortest (magnitude : Nat) : Decimal :=
  let (num, den) := ratio magnitude
  let first := leadingExponent num den
  let grids := (List.range 17).map fun (n : Nat) => first - (n : Int)
  (grids.findSome? (onGrid magnitude)).getD ⟨0, 0⟩

/-- The digits of a decimal without the zeros at their end, and the exponent of the first one. -/
def Decimal.significant (d : Decimal) : List Char × Int :=
  let all := Nat.toDigits 10 d.digits
  let kept := (all.reverse.dropWhile (· == '0')).reverse
  (kept, d.exponent + (all.length : Int) - 1)

/-- Digits whose first one has the given exponent, written down. -/
def layout (digits : List Char) (exponent : Int) : List Char :=
  if 0 ≤ exponent && exponent ≤ 15 then
    let whole := exponent.toNat + 1
    let padded := digits ++ List.replicate (whole - digits.length) '0'
    let fraction := padded.drop whole
    padded.take whole ++ '.' :: (if fraction.isEmpty then ['0'] else fraction)
  else if -5 ≤ exponent && exponent < 0 then
    ['0', '.'] ++ List.replicate ((-exponent).toNat - 1) '0' ++ digits
  else
    let fraction := digits.drop 1
    digits.take 1 ++ (if fraction.isEmpty then [] else '.' :: fraction)
      ++ ['e', if exponent < 0 then '-' else '+'] ++ Nat.toDigits 10 exponent.natAbs

/-- A double written with the fewest digits that read back. -/
def text (x : Double) : List Char :=
  let sign := if x.negative then ['-'] else []
  if x.magnitude == 0 then sign ++ ['0', '.', '0']
  else
    let (digits, exponent) := (shortest x.magnitude).significant
    sign ++ layout digits exponent

end MojoToolchain.Double
