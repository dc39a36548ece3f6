import MojoToolchain.Decimal.Quantity
import MojoToolchain.Shell.Utility.Basic

/-!
# Collation

A `Collation` says how two texts are compared: byte by byte, or by what they stand for, which may
be a number, a size, a month or a version.
-/

namespace MojoToolchain.Shell

/-- A character that stands between fields. -/
def isFieldGap (c : Char) : Bool := c == ' ' || c == '\t' || c == '\n'

/-- A text without the blanks in front. -/
def withoutGap (text : Bytes) : Bytes := text.dropWhile isFieldGap

namespace Collation

/-! ### Numbers -/

/-- The decimal at the front of a text without a sign: a numerator, how many decimals it has, and
what follows. -/
def unsigned (text : Bytes) : Nat × Nat × Bytes :=
  let whole := text.takeWhile Char.isDigit
  let rest := text.drop whole.length
  let fraction :=
    match rest with
    | '.' :: r => r.takeWhile Char.isDigit
    | _ => []
  let rest := if rest.head? == some '.' then rest.drop (fraction.length + 1) else rest
  ((naturalOf (whole ++ fraction)).getD 0, fraction.length, rest)

/-- The decimal at the front of a text: a numerator, and how many decimals it has. -/
def decimal (text : Bytes) : Int × Nat :=
  match withoutGap text with
  | '-' :: r =>
    let (n, places, _) := unsigned r
    (-(n : Int), places)
  | r =>
    let (n, places, _) := unsigned r
    (n, places)

/-- Compares the decimals at the front of texts. -/
def byDecimal (a b : Bytes) : Ordering :=
  let (x, p) := decimal a
  let (y, q) := decimal b
  compare (x * (Nat.pow 10 q : Nat)) (y * (Nat.pow 10 p : Nat))

/-- The power of a thousand that a letter behind a number stands for. -/
def powerOf (c : Char) : Nat :=
  if c == 'k' then 1 else ("KMGTPEZYRQ".toList.idxOf c + 1) % 11

/-- How large the unit of a size is; it counts below nothing when the size does. -/
def unitOf (text : Bytes) : Int :=
  let size (text : Bytes) : Int :=
    match unsigned text with
    | (n, _, c :: _) => if n == 0 then 0 else powerOf c
    | _ => 0
  match withoutGap text with
  | '-' :: r => -size r
  | r => size r

/-- Compares sizes: by their units, and then by their numbers. -/
def bySize (a b : Bytes) : Ordering := (compare (unitOf a) (unitOf b)).then (byDecimal a b)

/-- How many bits of a number are compared. -/
def bitsCompared : Nat := 64

/-- From this power of two on a number is infinite. -/
def endOfNumbers : Nat := 16384

/-- The number at the front of a text, in any way to write numbers. -/
def quantity? (text : Bytes) : Option Quantity :=
  let text := text.dropWhile fun c => c == ' ' || ('\t' ≤ c && c ≤ '\r')
  (Quantity.read? text).map fun (q, _) =>
    match q.toBits bitsCompared with
    | .ratio negative num den =>
      if den <<< endOfNumbers ≤ num then .infinite negative else .ratio negative num den
    | q => q

/-- Compares quantities: those that are no numbers come first. -/
def ofQuantities : Quantity → Quantity → Ordering
  | .undefined a, .undefined b => compare b.toNat a.toNat
  | .undefined _, _ => .lt
  | _, .undefined _ => .gt
  | .infinite a, .infinite b => compare b.toNat a.toNat
  | .infinite negative, _ => if negative then .lt else .gt
  | _, .infinite negative => if negative then .gt else .lt
  | .ratio a num den, .ratio b num' den' =>
    let signed (negative : Bool) (n : Nat) : Int := if negative then -(n : Int) else n
    compare (signed a (num * den')) (signed b (num' * den))

/-- Compares the numbers at the front of texts; a text without one comes first. -/
def byQuantity (a b : Bytes) : Ordering :=
  match quantity? a, quantity? b with
  | none, none => .eq
  | none, some _ => .lt
  | some _, none => .gt
  | some x, some y => ofQuantities x y

/-! ### Months -/

/-- The names of months, as far as they are compared. -/
def monthNames : List String :=
  ["JAN", "FEB", "MAR", "APR", "MAY", "JUN", "JUL", "AUG", "SEP", "OCT", "NOV", "DEC"]

/-- The month at the front of a text, counted from one; zero when there is none. -/
def monthOf (text : Bytes) : Nat :=
  let name := String.ofList (((withoutGap text).take 3).map Char.toUpper)
  (monthNames.idxOf name + 1) % 13

/-! ### Versions -/

/-- Where a character stands in the order of versions, or the end of the text. -/
def rankOf : Option Char → Int
  | none => -1
  | some c =>
    if c.isDigit then 0
    else if c.isAlpha then c.toNat
    else if c == '~' then -2
    else c.toNat + 256

/-- The next character of a text is there and is no digit. -/
def isAtText (text : Bytes) : Bool := text.head?.any fun c => !c.isDigit

/-- Compares texts in which numbers stand: those between the other characters count as numbers. -/
def byNumbers : Nat → Bytes → Bytes → Ordering
  | 0, _, _ => .eq
  | _ + 1, [], [] => .eq
  | bound + 1, a, b =>
    if isAtText a || isAtText b then
      (compare (rankOf a.head?) (rankOf b.head?)).then (byNumbers bound (a.drop 1) (b.drop 1))
    else
      let number (text : Bytes) : Nat := (naturalOf (text.takeWhile Char.isDigit)).getD 0
      let rest (text : Bytes) : Bytes := text.dropWhile Char.isDigit
      (compare (number a) (number b)).then (byNumbers bound (rest a) (rest b))

/-- A text is a sequence of endings such as `.tar` and `.gz`. -/
def isEndings (text : Bytes) : Bool :=
  match text.splitOn '.' with
  | front :: endings =>
    front.isEmpty && endings.all fun ending =>
      ending.head?.any (fun c => c.isAlpha || c == '~')
        && ending.all fun c => c.isAlphanum || c == '~'
  | [] => true

/-- A name without the endings that it has. -/
def stemOf (name : Bytes) : Bytes :=
  let lengths := (List.range name.length).map (· + 1)
  name.take ((lengths.find? fun n => isEndings (name.drop n)).getD name.length)

/-- How early names come that are empty or begin with a point. -/
def pointRank : Bytes → Nat
  | [] => 0
  | ['.'] => 1
  | ['.', '.'] => 2
  | '.' :: _ => 3
  | _ => 4

/-- Compares names with versions: without their endings, and then as they are. -/
def byVersion (a b : Bytes) : Ordering :=
  let bound := a.length + b.length + 1
  ((compare (pointRank a) (pointRank b)).then (byNumbers bound (stemOf a) (stemOf b))).then
    (byNumbers bound a b)

/-! ### Ways to compare -/

/-- What of texts is compared. -/
inductive Kind where
  | bytes
  | decimal
  | quantity
  | size
  | month
  | version

/-- Compares texts. -/
def Kind.order : Kind → Bytes → Bytes → Ordering
  | .bytes, a, b => compare a b
  | .decimal, a, b => byDecimal a b
  | .quantity, a, b => byQuantity a b
  | .size, a, b => bySize a b
  | .month, a, b => compare (monthOf a) (monthOf b)
  | .version, a, b => byVersion a b

end Collation

/-- How texts are compared. -/
structure Collation where
  kind : Collation.Kind
  /-- Only blanks, letters and digits count. -/
  dictionary : Bool
  /-- Only what is seen counts. -/
  seenOnly : Bool
  /-- Small letters count as large ones. -/
  folds : Bool
  reverses : Bool

namespace Collation

/-- The collation that letters ask for. -/
def ofLetters (letters : Bytes) : Collation :=
  let has (c : Char) : Bool := letters.contains c
  let kind : Kind :=
    if has 'n' then .decimal
    else if has 'g' then .quantity
    else if has 'h' then .size
    else if has 'M' then .month
    else if has 'V' then .version
    else .bytes
  ⟨kind, has 'd', has 'i', has 'f', has 'r'⟩

/-- The letters of a collation that do not go together. -/
def conflict? (letters : Bytes) : Option Bytes :=
  let has (c : Char) : Bool := letters.contains c
  let numbers := ['n', 'g', 'h', 'M'].filter has
  let others := ['V', 'R', 'd', 'i'].filter has
  if numbers.length + min others.length 1 ≤ 1 then none
  else
    some (['d', 'f', 'g', 'h', 'i', 'M', 'n', 'R', 'V'].filter fun c =>
      has c && !(c == 'i' && has 'd'))

/-- What of a text is compared. -/
def prepared (x : Collation) (text : Bytes) : Bytes :=
  let text :=
    if x.dictionary then text.filter fun c => c == ' ' || c == '\t' || c.isAlphanum
    else if x.seenOnly then text.filter Quoting.isSeen
    else text
  if x.folds then text.map Char.toUpper else text

/-- Compares texts. -/
def order (x : Collation) (a b : Bytes) : Ordering :=
  let order := x.kind.order (x.prepared a) (x.prepared b)
  if x.reverses then order.swap else order

end Collation

end MojoToolchain.Shell
