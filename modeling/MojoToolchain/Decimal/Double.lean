/-!
# Binary floating point numbers

A `Double` is a sign and the 63 other bits of the IEEE 754 format, so the order of magnitudes
is the order of numbers.  `ofRatio` rounds a quotient of natural numbers to the nearest double,
a tie to the even one.  `scale` is the product or quotient of a double by a power of ten, the
power itself rounded first.
-/

namespace MojoToolchain

/-- A double: its sign, and its eleven exponent bits above its 52 fraction bits. -/
structure Double where
  negative : Bool
  magnitude : Nat
  deriving DecidableEq, Inhabited, Repr

namespace Double

/-- The weight of the first bit of a significand. -/
def hidden : Nat := 1 <<< 52

/-- The magnitude of infinity; no finite double reaches it. -/
def infinity : Nat := 2047 * hidden

/-- The significand `m` and the power `e` of a magnitude: its value is `m * 2 ^ (e - 1074)`. -/
def parts (magnitude : Nat) : Nat × Nat :=
  if magnitude < hidden then (magnitude, 0)
  else (hidden + magnitude % hidden, magnitude / hidden - 1)

/-- The value of a magnitude as a quotient of natural numbers. -/
def ratio (magnitude : Nat) : Nat × Nat :=
  let (m, e) := parts magnitude
  (m <<< e, 1 <<< 1074)

/-- A quotient rounded to the nearest natural number, a tie to the even one. -/
def roundDiv (num den : Nat) : Nat :=
  let q := num / den
  let twice := 2 * (num % den)
  if twice < den then q
  else if den < twice then q + 1
  else q + q % 2

/-- The magnitude nearest to `num / den`, a tie to the even one, and at most `infinity`. -/
def nearest (num den : Nat) : Nat :=
  if num == 0 then 0
  else
    -- `e` is the least power whose significands hold the quotient
    let guess := Nat.log2 ((num <<< 1074) / den) - 52
    let e := if num <<< 1074 < den <<< (guess + 53) then guess else guess + 1
    min infinity (e * hidden + roundDiv (num <<< 1074) (den <<< e))

/-- The double nearest to a natural number. -/
def ofNat (n : Nat) : Double := ⟨false, nearest n 1⟩

/-- The double zero. -/
def zero : Double := ⟨false, 0⟩

/-- The same number with the other sign. -/
def neg (x : Double) : Double := { x with negative := !x.negative }

/-- The magnitude of the power `10 ^ e`, rounded. -/
def powerOfTen (e : Nat) : Nat := nearest (Nat.pow 10 e) 1

/-- The product of two magnitudes, rounded. -/
def product (a b : Nat) : Nat :=
  let (m, d) := ratio a
  let (n, e) := ratio b
  nearest (m * n) (d * e)

/-- The quotient of two magnitudes, rounded. -/
def quotient (a b : Nat) : Nat :=
  let (m, d) := ratio a
  let (n, e) := ratio b
  nearest (m * e) (d * n)

/-- `a * 10 ^ exponent` for a magnitude `a`, rounded at each step; a power below `10 ^ -308` is
taken in steps.  There is no result when it is infinite. -/
def scale (a : Nat) (exponent : Int) : Option Nat :=
  if a == 0 then some 0
  else if 308 < exponent then none
  else if 0 ≤ exponent then
    let b := product a (powerOfTen exponent.toNat)
    if b == infinity then none else some b
  else some (divide (-exponent).toNat a)
where
  /-- `a / 10 ^ e`, by steps of at most `10 ^ 308`; a third step leaves nothing. -/
  divide (e : Nat) (a : Nat) : Nat :=
    if e ≤ 308 then quotient a (powerOfTen e)
    else
      let b := quotient a (powerOfTen 308)
      if e ≤ 616 then quotient b (powerOfTen (e - 308))
      else
        let c := quotient b (powerOfTen 308)
        if e ≤ 924 then quotient c (powerOfTen (e - 616)) else 0

end Double

end MojoToolchain
