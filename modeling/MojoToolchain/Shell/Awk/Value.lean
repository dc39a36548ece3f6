import MojoToolchain.Decimal.Arithmetic
import MojoToolchain.Shell.Awk.Syntax
import MojoToolchain.Shell.Expression
import MojoToolchain.Shell.Utility.Format

/-!
# Values of awk programs

A value is a number, a text or both: a text of the input that writes a number is one.  A table has
values under keys, and lists its keys in the order of a hash of them.
-/

namespace MojoToolchain.Shell.Awk

/-- A value. -/
inductive Value where
  | unset
  | number (x : Double)
  | text (s : Bytes)
  /-- A text of the input that writes a number. -/
  | both (s : Bytes) (x : Double)
  deriving DecidableEq, Inhabited, Repr

/-! ### Numbers -/

/-- The number at the front of a text. -/
def numberAt (s : Bytes) : Double :=
  match Quantity.read? (dropSpace s) with
  | some (q, _) => q.toDouble
  | none => .zero

/-- A text without the white space around it. -/
def trimSpace (s : Bytes) : Bytes := (dropSpace (dropSpace s).reverse).reverse

/-- A text of the input as a value. -/
def Value.ofInput (s : Bytes) : Value :=
  let core := trimSpace s
  let digits := core.dropWhile fun c => c == '-' || c == '+'
  let opens := digits.head?.any fun c => c.isDigit || c == '.'
  match Quantity.read? core with
  | some (q, []) => if opens && core.length ≤ digits.length + 1 then .both s q.toDouble else .text s
  | _ => .text s

/-- The number of a value. -/
def Value.toNumber : Value → Double
  | unset => .zero
  | number x => x
  | text s => numberAt s
  | both _ x => x

/-- A truth as a number. -/
def Value.ofBool (b : Bool) : Value := .number (.ofNat (if b then 1 else 0))

/-- A natural number as a value. -/
def Value.ofNat (n : Nat) : Value := .number (.ofNat n)

/-- A value counts as true. -/
def Value.isTrue : Value → Bool
  | unset => false
  | number x => x.magnitude != 0
  | text s => !s.isEmpty
  | both _ x => x.magnitude != 0

/-- The whole number of a value that fits in 64 bits, or the nearest one that does. -/
def Value.toInt (v : Value) : Int :=
  let x := v.toNumber
  let most : Int := ((1 <<< 64) - 1 : Nat)
  let least : Int := -((1 <<< 63 : Nat) : Int)
  if x.isUndefined then least
  else if !x.isFinite then if x.negative then least else most
  else max least (min most x.whole)

/-! ### Formats -/

/-- Why a format cannot be followed. -/
inductive FormatLack where
  | arguments
  | conversion (number : Nat)
  deriving DecidableEq, Repr

/-- What a directive makes of a value, whose text is given too. -/
def directiveOf (l : Layout) (letter : Char) (v : Value) (text : Bytes) : Option Bytes :=
  let natural : Nat := (v.toInt % ((1 <<< 64 : Nat) : Int)).toNat
  match letter with
  | 's' => some (l.text text)
  | 'c' =>
    match v with
    | .number _ => some (l.pad false [] [Char.ofNat (natural % 256)])
    | _ => some (l.pad false [] [text.headD '\x00'])
  | 'd' => some (l.integer v.toInt)
  | 'i' => some (l.integer v.toInt)
  | letter =>
    if "ouxX".toList.contains letter then some (l.natural letter natural)
    else if "eEfFgG".toList.contains letter then
      some (l.decimal letter (.ofDouble v.toNumber))
    else none

/-- Writes values, each with its text, as a format says. -/
def follow : Nat → Nat → Bytes → List (Value × Bytes) → Bytes × Option FormatLack
  | 0, _, _, _ => ([], none)
  | _ + 1, _, [], _ => ([], none)
  | bound + 1, n, '%' :: '%' :: r, args =>
    let (text, lack) := follow bound n r args
    ('%' :: text, lack)
  | bound + 1, n, '%' :: r, args =>
    let (d, rest) := readDirective true r
    let amount (e : Extent) (args : List (Value × Bytes)) :
        Option Int × List (Value × Bytes) :=
      match e with
      | .nothing => (none, args)
      | .digits n => (some n, args)
      | .argument => ((args.head?.map fun (v, _) => v.toInt), args.tail)
    let (width, args) := amount d.width args
    let (precision, args) := amount d.precision args
    let width := width.getD 0
    let l : Layout :=
      ⟨if width < 0 then '-' :: d.flags else d.flags, width.natAbs,
        precision.bind fun p => if p < 0 then none else some p.toNat⟩
    match args with
    | [] => ([], some .arguments)
    | (v, text) :: args =>
      match directiveOf l (d.letter.getD '%') v text with
      | none => ([], some (.conversion n))
      | some made =>
        let (more, lack) := follow bound (n + 1) rest args
        (made ++ more, lack)
  | bound + 1, n, c :: r, args =>
    let (text, lack) := follow bound n r args
    (c :: text, lack)

/-- The greatest number that is kept as a whole one. -/
def greatestWhole : Nat := (1 <<< 31) - 1

/-- A number is a whole one that is kept as such. -/
def isSmallWhole (x : Double) : Bool := x.isWhole && x.whole.natAbs ≤ greatestWhole

/-- A number as a text: a whole number with all its digits, unless it is too large, and any other
as a format says. -/
def numberText (format : Bytes) (x : Double) : Bytes :=
  if isSmallWhole x then (toString x.whole).toList
  else (follow (format.length + 1) 1 format [(.number x, [])]).1

/-- The text of a value, with a format for its number. -/
def Value.toText (format : Bytes) : Value → Bytes
  | unset => []
  | number x => numberText format x
  | text s => s
  | both s _ => s

/-- A value is no text but a number. -/
def Value.isNumeric : Value → Bool
  | text _ => false
  | _ => true

/-- How two values compare: as numbers if both are, and as texts otherwise. -/
def Value.compare? (format : Bytes) (a b : Value) : Option Ordering :=
  if a.isNumeric && b.isNumeric then a.toNumber.compare? b.toNumber
  else
    let x := a.toText format
    let y := b.toText format
    some (if x == y then .eq else if x < y then .lt else .gt)

/-- Two values are as a relation says. -/
def Relation.holds (r : Relation) (o : Option Ordering) : Bool :=
  match r, o with
  | .different, none => true
  | _, none => false
  | .less, some o => o == .lt
  | .atMost, some o => o != .gt
  | .equal, some o => o == .eq
  | .different, some o => o != .eq
  | .greater, some o => o == .gt
  | .atLeast, some o => o != .lt

/-- The result of an operation. -/
def Operation.apply (op : Operation) (a b : Double) : Double :=
  match op with
  | .add => a.add b
  | .sub => a.sub b
  | .mul => a.mul b
  | .div => a.div b
  | .rem => a.rem b
  | .pow => a.pow b

/-! ### Regular expressions -/

/-- The text of an expression with its escapes replaced; what means something special stays behind
its backslash, and braces, which mean nothing special, get one. -/
def plainRegex (escape : Bytes → Option (Char × Bytes)) : Nat → Bytes → Bytes
  | 0, _ => []
  | _ + 1, [] => []
  | _ + 1, ['\\'] => ['\\', '\\']
  | bound + 1, '\\' :: c :: r =>
    let special (d : Char) : Bytes :=
      if "\\^$.[]|()*+?\x7b\x7d-".toList.contains d then ['\\', d] else [d]
    match escape (c :: r) with
    | some (d, rest) => special d ++ plainRegex escape bound rest
    | none => special c ++ plainRegex escape bound r
  | bound + 1, c :: r =>
    (if c == '\x7b' || c == '\x7d' then ['\\', c] else [c]) ++ plainRegex escape bound r

/-! ### Parts of texts -/

/-- The words of a text. -/
def splitWords (s : Bytes) : List Bytes :=
  (s.splitOnP fun c => c == ' ' || c == '\t' || c == '\n').filter fun w => !w.isEmpty

/-- The pieces of a text between the parts that an expression finds, but those that are empty. -/
def splitBy (e : Expression) : Nat → Option Char → Bytes → List Bytes
  | 0, _, s => [s]
  | bound + 1, before, s =>
    match e.find? Expression.exactly before s with
    | none => [s]
    | some (front, part, m) =>
      match part, m.rest with
      | [], [] => [s]
      | [], c :: r =>
        match splitBy e bound (some c) r with
        | [] => [front ++ [c]]
        | piece :: more => (front ++ c :: piece) :: more
      | part, rest => front :: splitBy e bound part.getLast? rest

/-- What is put in place of a part: an ampersand stands for the part, unless a backslash stands in
front of it. -/
def putPart (part : Bytes) : Bytes → Bytes
  | [] => []
  | '\\' :: '&' :: r => '&' :: putPart part r
  | '\\' :: '\\' :: r => '\\' :: putPart part r
  | '&' :: r => part ++ putPart part r
  | c :: r => c :: putPart part r

/-- Replaces the first part that an expression finds, or all of them, and counts them. -/
def replaceParts (e : Expression) (all : Bool) (new : Bytes) :
    Nat → Bool → Option Char → Bytes → Bytes × Nat
  | 0, _, _, s => (s, 0)
  | bound + 1, behind, before, s =>
    match e.find? Expression.exactly before s with
    | none => (s, 0)
    | some (front, part, m) =>
      -- nothing is not a part right behind another part
      let isPart := !(behind && front.isEmpty && part.isEmpty)
      let done := front ++ if isPart then putPart part new else []
      let count := if isPart then 1 else 0
      if isPart && !all then (done ++ m.rest, 1)
      else
        match part, m.rest with
        | [], [] => (done, count)
        | [], c :: rest =>
          let (more, n) := replaceParts e all new bound false (some c) rest
          (done ++ c :: more, count + n)
        | part, rest =>
          let (more, n) := replaceParts e all new bound true part.getLast? rest
          (done ++ more, count + n)

/-! ### Tables -/

/-- Values under keys.  The keys that were used as numbers and those that were used as texts are
kept apart, each with the one used last in front. -/
structure Table where
  cells : List (Bytes × Value)
  ints : List Int
  strings : List Bytes
  /-- All keys are known as texts. -/
  named : Bool
  /-- The keys are those of the pieces of a text. -/
  pieces : Bool
  /-- The number of places for keys. -/
  places : Nat
  deriving Repr

namespace Table

/-- A table with nothing in it. -/
def empty : Table := ⟨[], [], [], false, false, 64⟩

/-- A hash of a key. -/
def hash (key : Bytes) : Nat :=
  key.foldl (fun h c => Nat.xor h c.toNat * 16777619 % (1 <<< 32)) 2166136261

/-- The text of a whole number. -/
def keyOf (n : Int) : Bytes := (toString n).toList

/-- The keys that are known as numbers, in the order of their places. -/
def intsInPlaces (t : Table) : List Int :=
  t.ints.mergeSort fun a b => decide (a % (t.places : Int) ≤ b % (t.places : Int))

/-- The table with the pieces of a text as other keys are. -/
def loosened (t : Table) : Table :=
  if t.pieces then
    let count := t.cells.length
    { t with
      ints := ((List.range count).map fun (i : Nat) => (i : Int) + 1).reverse
      pieces := false }
  else t

/-- The table with all its keys known as texts. -/
def withNames (t : Table) : Table :=
  if t.named then t
  else
    let t := t.loosened
    let new := (t.intsInPlaces.map keyOf).filter fun k => !t.strings.contains k
    { t with strings := new.reverse ++ t.strings, named := true }

/-- All keys. -/
def keys (t : Table) : List Bytes :=
  let t := t.withNames
  t.strings.mergeSort fun a b => hash a % t.places ≤ hash b % t.places

/-- A key moved to the front. -/
def inFront {α : Type} [BEq α] (a : α) (all : List α) : List α := a :: all.filter (· != a)

/-- A table that has grown over its places. -/
def grown (t : Table) : Table :=
  if 12 * t.places < t.cells.length then { t with places := 2 * t.places } else t

/-- Looks for a key that is a text, and takes note of that; a new one gets a place when it is
asked for. -/
def touch (t : Table) (key : Bytes) (create : Bool) : Table :=
  if t.cells.isEmpty && !create then t
  else
    let t := t.withNames
    if t.cells.any (·.1 == key) then { t with strings := inFront key t.strings }
    else if create then
      { t with cells := t.cells ++ [(key, Value.unset)], strings := key :: t.strings }.grown
    else t

/-- Looks for a key that is a whole number, in the same way. -/
def touchInt (t : Table) (n : Int) (create : Bool) : Table :=
  if t.cells.isEmpty && !create then t
  else
    let key := keyOf n
    let known := t.cells.any (·.1 == key)
    if t.pieces && known then t
    else if t.pieces && !create then t
    else
      let t := t.loosened
      if t.ints.contains n then { t with ints := inFront n t.ints }
      else if t.named then
        let t := t.touch key create
        if known || create then { t with ints := n :: t.ints } else t
      else if create then
        { t with cells := t.cells ++ [(key, Value.unset)], ints := n :: t.ints }.grown
      else t

/-- The value under a key. -/
def get (t : Table) (key : Bytes) : Value := (t.cells.lookup key).getD .unset

/-- Puts a value under a key that is there. -/
def set (t : Table) (key : Bytes) (v : Value) : Table :=
  { t with cells := t.cells.map fun (k, old) => if k == key then (k, v) else (k, old) }

/-- Takes a key out. -/
def remove (t : Table) (key : Bytes) : Table :=
  let t := t.loosened
  let cells := t.cells.filter (·.1 != key)
  if cells.isEmpty then empty
  else
    { t with
      cells := cells
      ints := t.ints.filter fun n => keyOf n != key
      strings := t.strings.filter (· != key) }

/-- The pieces of a text, under their numbers. -/
def ofPieces (pieces : List Value) : Table :=
  { empty with
    cells := pieces.zipIdx.map fun (v, i) => (Nat.toDigits 10 (i + 1), v)
    pieces := !pieces.isEmpty }

end Table

end MojoToolchain.Shell.Awk
