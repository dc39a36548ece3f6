import MojoToolchain.Decimal.Quantity

/-!
# Arithmetic of doubles

Sums, products, quotients and remainders of doubles are those of the numbers that they are, rounded
once.  Roots, powers, logarithms and the like are worked out with many more bits than a double has,
and then rounded.
-/

namespace MojoToolchain.Double

/-! ### Kinds -/

/-- What is no number. -/
def undefined : Double := ⟨true, infinity + 1⟩

/-- An infinite number. -/
def infinite (negative : Bool) : Double := ⟨negative, infinity⟩

/-- A double is no number. -/
def isUndefined (x : Double) : Bool := infinity < x.magnitude

/-- A double is a number that is not infinite. -/
def isFinite (x : Double) : Bool := x.magnitude < infinity

/-- How many units of `2 ^ -1074` a finite double is. -/
def units (x : Double) : Int :=
  let (m, e) := parts x.magnitude
  if x.negative then -((m <<< e : Nat) : Int) else ((m <<< e : Nat) : Int)

/-- The double nearest to a quotient, of which the sign is that of the first number. -/
def ofQuotient (num : Int) (den : Nat) : Double := ⟨num < 0, nearest num.natAbs den⟩

/-- The double nearest to an integer. -/
def ofInt (n : Int) : Double := ofQuotient n 1

/-- The whole part of a finite double. -/
def whole (x : Double) : Int := x.units.tdiv ((1 <<< 1074 : Nat) : Int)

/-- A double is a whole number. -/
def isWhole (x : Double) : Bool := x.isFinite && x.units.tmod ((1 <<< 1074 : Nat) : Int) == 0

/-- A double without its decimals. -/
def truncate (x : Double) : Double :=
  if !x.isFinite then x else { ofInt x.whole with negative := x.negative }

/-! ### Order -/

/-- How two doubles compare, if both are numbers. -/
def compare? (x y : Double) : Option Ordering :=
  if x.isUndefined || y.isUndefined then none
  else
    let place (x : Double) : Int := if x.negative then -(x.magnitude : Int) else x.magnitude
    some (compare (place x) (place y))

/-! ### Operations -/

/-- The sum. -/
def add (x y : Double) : Double :=
  if x.isUndefined then x
  else if y.isUndefined then y
  else if !x.isFinite then if !y.isFinite && x.negative != y.negative then undefined else x
  else if !y.isFinite then y
  else
    let sum := x.units + y.units
    if sum == 0 then ⟨x.negative && y.negative, 0⟩ else ofQuotient sum (1 <<< 1074)

/-- The difference. -/
def sub (x y : Double) : Double := x.add y.neg

/-- The product. -/
def mul (x y : Double) : Double :=
  let negative := x.negative != y.negative
  if x.isUndefined then x
  else if y.isUndefined then y
  else if !x.isFinite || !y.isFinite then
    if x.magnitude == 0 || y.magnitude == 0 then undefined else infinite negative
  else ⟨negative, product x.magnitude y.magnitude⟩

/-- The quotient. -/
def div (x y : Double) : Double :=
  let negative := x.negative != y.negative
  if x.isUndefined then x
  else if y.isUndefined then y
  else if !x.isFinite then if !y.isFinite then undefined else infinite negative
  else if !y.isFinite then ⟨negative, 0⟩
  else if y.magnitude == 0 then if x.magnitude == 0 then undefined else infinite negative
  else ⟨negative, quotient x.magnitude y.magnitude⟩

/-- What is left of a division whose quotient is a whole number, with the sign of what is
divided. -/
def rem (x y : Double) : Double :=
  if x.isUndefined then x
  else if y.isUndefined then y
  else if !x.isFinite || y.magnitude == 0 then undefined
  else if !y.isFinite then x
  else
    { ofQuotient (x.units.tmod y.units) (1 <<< 1074) with negative := x.negative }

/-! ### Many bits -/

/-- The number of bits behind the point of what is worked out with many bits. -/
def manyBits : Nat := 320

/-- The number one with many bits. -/
def one : Int := ((1 <<< manyBits : Nat) : Int)

/-- A finite double with many bits. -/
def toMany (x : Double) : Int := (x.units * one).tdiv ((1 <<< 1074 : Nat) : Int)

/-- A product with many bits. -/
def times (a b : Int) : Int := (a * b).tdiv one

/-- The sum of a series: each term is made of the one before it and its number. -/
def series (next : Nat → Int → Int) : Nat → Nat → Int → Int → Int
  | 0, _, _, sum => sum
  | bound + 1, n, term, sum => series next bound (n + 1) (next n term) (sum + term)

/-- The inverse hyperbolic tangent of a number between -1/2 and 1/2. -/
def manyArtanh (t : Int) : Int :=
  let square := times t t
  -- a term is a power of `t`; each is divided when it is added
  let rec sum : Nat → Nat → Int → Int → Int
    | 0, _, _, total => total
    | bound + 1, n, power, total =>
      sum bound (n + 2) (times power square) (total + power.tdiv (n : Int))
  sum 170 1 t 0

/-- The logarithm of two. -/
def manyLogTwo : Int := 2 * manyArtanh (one.tdiv 3)

/-- The logarithm of a positive finite double. -/
def manyLog (x : Double) : Int :=
  let (m, e) := parts x.magnitude
  let high := Nat.log2 m
  let y := ((m <<< manyBits : Nat) : Int) / ((1 <<< high : Nat) : Int)
  let power : Int := (e : Int) + (high : Int) - 1074
  2 * manyArtanh ((y - one) * one / (y + one)) + power * manyLogTwo

/-- The double nearest to the exponential function of a number with many bits. -/
def ofManyExp (a : Int) : Double :=
  let power := a / manyLogTwo
  let rest := a - power * manyLogTwo
  let sum := series (fun n term => (times term rest).tdiv ((n + 1 : Nat) : Int)) 90 0 one 0
  if 1100 < power then infinite false
  else if power < -1200 then zero
  else ofQuotient (sum * ((1 <<< power.toNat : Nat) : Int)) (1 <<< (manyBits + (-power).toNat))

/-- A number with many bits, rounded. -/
def ofMany (a : Int) : Double := ofQuotient a (1 <<< manyBits)

/-- The exponential function. -/
def exp (x : Double) : Double :=
  if x.isUndefined then x
  else if !x.isFinite then if x.negative then zero else x
  else if (ofInt 1100).magnitude < x.magnitude then if x.negative then zero else infinite false
  else ofManyExp x.toMany

/-- The natural logarithm. -/
def log (x : Double) : Double :=
  if x.isUndefined then x
  else if x.magnitude == 0 then infinite true
  else if x.negative then undefined
  else if !x.isFinite then x
  else ofMany (manyLog x)

/-- The square root. -/
def sqrt (x : Double) : Double :=
  if x.isUndefined || x.magnitude == 0 then x
  else if x.negative then undefined
  else if !x.isFinite then x
  else
    let square := x.units.toNat <<< (1074 + 400)
    let root := Nat.sqrt square
    -- one more bit says that the root is not exact
    let odd := if root * root == square then 0 else 1
    ofQuotient ((2 * root + odd : Nat) : Int) (1 <<< (1 + 1074 + 200))

/-- A power of a double with a natural number as its exponent. -/
def natPow (x : Double) (n : Nat) (inverse : Bool) : Double :=
  let (m, e) := parts x.magnitude
  let num := Nat.pow m n
  let scale : Int := ((e : Int) - 1074) * n
  let up := scale.toNat
  let down := (-scale).toNat
  let negative := x.negative && n % 2 == 1
  if m == 0 then ⟨negative, 0⟩
  else if inverse then ⟨negative, nearest (1 <<< down) (num <<< up)⟩
  else ⟨negative, nearest (num <<< up) (1 <<< down)⟩

/-- A power. -/
def pow (x y : Double) : Double :=
  if y.magnitude == 0 || (x == ofInt 1) then ofInt 1
  else if x.isUndefined then x
  else if y.isUndefined then y
  else if x.magnitude == 0 || !x.isFinite || !y.isFinite then
    let large := (ofInt 1).magnitude < x.magnitude
    let odd := y.isWhole && y.whole % 2 == 1
    let negative := x.negative && odd
    if x.magnitude == (ofInt 1).magnitude then ofInt 1
    else if large != y.negative then infinite negative
    else ⟨negative, 0⟩
  else if y.isWhole && y.whole.natAbs ≤ 1100 then natPow x y.whole.natAbs y.negative
  else if x.negative && !y.isWhole then undefined
  else
    let size := ofManyExp (times (manyLog { x with negative := false }) y.toMany)
    if x.negative && y.whole % 2 == 1 then size.neg else size

/-! ### Angles -/

/-- The angle whose tangent is a number with many bits that is not negative. -/
def manyArctan (t : Int) : Int :=
  let half (t : Int) : Int :=
    let root : Int := (Nat.sqrt ((one * one + t * t).toNat) : Nat)
    t * one / (one + root)
  let t := half (half (half (half t)))
  let square := times t t
  let rec sum : Nat → Nat → Int → Int → Int
    | 0, _, _, total => total
    | bound + 1, n, power, total =>
      let term := power.tdiv (n : Int)
      sum bound (n + 2) (times power square) (if n % 4 == 1 then total + term else total - term)
  16 * sum 60 1 t 0

/-- Half the length of a circle whose radius is one. -/
def manyPi : Int := 4 * manyArctan one

/-- The sine and the cosine of a number with many bits. -/
def manySinCos (a : Int) : Int × Int :=
  let turn := 2 * manyPi
  let a := a - turn * (a / turn)
  let a := if manyPi < a then a - turn else a
  let rec sum : Nat → Nat → Int → Int × Int → Int × Int
    | 0, _, _, total => total
    | bound + 1, n, term, (s, c) =>
      let total :=
        match n % 4 with
        | 0 => (s, c + term)
        | 1 => (s + term, c)
        | 2 => (s, c - term)
        | _ => (s - term, c)
      sum bound (n + 1) ((times term a).tdiv ((n + 1 : Nat) : Int)) total
  sum 130 0 one (0, 0)

/-- The sine. -/
def sin (x : Double) : Double :=
  if !x.isFinite then undefined else if x.magnitude == 0 then x else ofMany (manySinCos x.toMany).1

/-- The cosine. -/
def cos (x : Double) : Double := if !x.isFinite then undefined else ofMany (manySinCos x.toMany).2

/-- The angle of a point, by its height and its distance to the side. -/
def atan2 (y x : Double) : Double :=
  if y.isUndefined || x.isUndefined then undefined
  else
    let size (x : Double) : Int :=
      if x.isFinite then ((x.units.natAbs : Nat) : Int) else ((1 <<< 4000 : Nat) : Int)
    let a := size y
    let b := size x
    let angle : Int :=
      if a == 0 then 0
      else if b == 0 then manyPi / 2
      else if a ≤ b then manyArctan (a * one / b)
      else manyPi / 2 - manyArctan (b * one / a)
    let angle := if x.negative then manyPi - angle else angle
    { ofMany angle with negative := y.negative }

end MojoToolchain.Double
