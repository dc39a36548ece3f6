import MojoToolchain.Shell.Expression
import MojoToolchain.Shell.Utility.Format

/-!
# Calculation

`seq` writes the numbers from one to another, and `expr` calculates with its arguments, which are
numbers, texts and operators between them.
-/

namespace MojoToolchain.Shell

/-! ### Sequences -/

/-- A number that bounds a sequence or is its step: a quotient, and how it is written. -/
structure Bound where
  value : Int
  den : Nat
  /-- The characters in front of the point. -/
  width : Nat
  /-- The decimals. -/
  places : Nat

namespace Bound

/-- The number one. -/
def one : Bound := ⟨1, 1, 1, 0⟩

/-- A number beyond all that are written. -/
def beyond : Int := 1000000000000000000

/-- The bound that an argument writes. -/
def ofText? (arg : Bytes) : Option Bound :=
  let text := (dropSpace arg).dropWhile (· == '+')
  match Quantity.read? text with
  | some (.ratio negative num den, []) =>
    let value : Int := if negative then -(num : Int) else num
    let mantissa := text.takeWhile fun c => c != 'e' && c != 'E'
    let (e, _) := Quantity.readExponent ['e', 'E'] (text.drop mantissa.length)
    let whole := mantissa.takeWhile (· != '.')
    let decimals := (mantissa.drop whole.length).length - 1
    if mantissa.any ['x', 'X'].contains then some ⟨value, den, 0, 0⟩
    else if mantissa.length < text.length then
      let digits := (Nat.toDigits 10 (num / den)).length
      some ⟨value, den, if negative then digits + 1 else digits, ((decimals : Int) - e).toNat⟩
    else
      let missing := if whole.getLast?.any Char.isDigit then 0 else 1
      some ⟨value, den, whole.length + missing, decimals⟩
  | some (.infinite negative, []) => some ⟨if negative then -beyond else beyond, 1, 0, 0⟩
  | _ => none

end Bound

/-- A sequence: its first number, its step and the number up to which it goes. -/
structure Sequence where
  first : Bound
  step : Bound
  last : Bound

namespace Sequence

/-- How many numbers of a sequence are written at most. -/
def longest : Nat := 1 <<< 20

/-- The numbers, each as a numerator, and their denominator. -/
def numerators (x : Sequence) : List Int × Nat :=
  let den := x.first.den * x.step.den * x.last.den
  let scaled (b : Bound) : Int := b.value * (den / b.den : Nat)
  let first := scaled x.first
  let step := scaled x.step
  let last := scaled x.last
  let count : Nat :=
    if step == 0 then 0
    else if 0 < step then ((last - first) / step + 1).toNat
    else ((first - last) / (-step) + 1).toNat
  ((List.range (min count longest)).map fun (i : Nat) => first + step * (i : Int), den)

/-- The decimals of the numbers. -/
def places (x : Sequence) : Nat := max x.first.places x.step.places

/-- The layout of the numbers, which may all have one width. -/
def layout (x : Sequence) (even : Bool) : Layout :=
  let places := x.places
  let behind := if places == 0 then 0 else places + 1
  ⟨['0'], if even then max x.first.width x.last.width + behind else 0, some places⟩

end Sequence

/-- A format with one directive: what stands in front of it, its layout and letter, and what stands
behind it. -/
structure NumberFormat where
  front : Bytes
  layout : Layout
  letter : Char
  behind : Bytes

namespace NumberFormat

/-- The text in front of the first directive, and the rest of a format from its percent sign
on. -/
def takeText : Bytes → Bytes × Bytes
  | [] => ([], [])
  | '%' :: '%' :: r =>
    let (text, rest) := takeText r
    ('%' :: text, rest)
  | '%' :: r => ([], '%' :: r)
  | c :: r =>
    let (text, rest) := takeText r
    (c :: text, rest)

/-- Reads a format; or says what is wrong with it. -/
def read (s : Bytes) : Except String NumberFormat :=
  let start := "format '" ++ String.ofList s ++ "' "
  match takeText s with
  | (_, []) => .error (start ++ "has no % directive")
  | (front, _ :: r) =>
    let (d, rest) := readDirective true r
    match d.letter with
    | none => .error (start ++ "ends in %")
    | some letter =>
      if "aefgAEFG".toList.contains letter then
        match takeText rest with
        | (behind, []) => .ok ⟨front, (d.layout []).1, letter, behind⟩
        | _ => .error (start ++ "has too many % directives")
      else .error (start ++ "has unknown %" ++ String.ofList [letter] ++ " directive")

/-- A number in a format. -/
def write (x : NumberFormat) (n : Int) (den : Nat) : Bytes :=
  x.front ++ x.layout.decimal x.letter (.ratio (n < 0) n.natAbs den) ++ x.behind

end NumberFormat

/-- The options in front of numbers, which may be negative, and the numbers. -/
def splitNumbers : List Bytes → List Bytes × List Bytes
  | [] => ([], [])
  | arg :: rest =>
    let isNumber := arg.head? != some '-' || arg[1]?.all fun c => c.isDigit || c == '.'
    if isNumber then ([], arg :: rest)
    else if arg == ['-', '-'] then ([], rest)
    else
      let letters := (arg.drop 1).dropWhile (· == 'w')
      let waits := letters == ['s'] || letters == ['f'] || arg == "--separator".toList
        || arg == "--format".toList
      match waits, rest with
      | true, value :: rest =>
        let (options, numbers) := splitNumbers rest
        (arg :: value :: options, numbers)
      | _, rest =>
        let (options, numbers) := splitNumbers rest
        (arg :: options, numbers)

/-- Writes the numbers from one to another. -/
def seq : Utility := fun args s =>
  let (options, numbers) := splitNumbers args
  let forms : OptionForms :=
    { flags := "w", valued := "sf",
      names := [("equal-width", 'w'), ("separator", 's'), ("format", 'f')] }
  withOptions 1 forms (fun call s =>
    let written (x : Sequence) : State :=
      let form : Except String NumberFormat :=
        match call.value? 'f' with
        | some text => NumberFormat.read text
        | none => .ok ⟨[], x.layout (call.has 'w'), 'f', []⟩
      match form with
      | .error reason => s.report 1 reason
      | .ok form =>
        let (ns, den) := x.numerators
        let texts := ns.map fun n => form.write n den
        let text := ((call.value? 's').getD ['\n']).intercalate texts
        (s.emit 1 (if ns.isEmpty then [] else text ++ ['\n'])).withStatus 0
    let read (args : List Bytes) (f : List Bound → State) : State :=
      match args.find? fun arg => (Bound.ofText? arg).isNone with
      | some arg =>
        if Quantity.read? (dropSpace arg) matches some (.undefined _, []) then
          misused 1 ("invalid 'not-a-number' argument: " ++ Quoting.plain arg) s
        else misused 1 ("invalid floating point argument: " ++ Quoting.plain arg) s
      | none => f (args.filterMap Bound.ofText?)
    match numbers with
    | [] => misused 1 "missing operand" s
    | _ :: _ :: _ :: extra :: _ =>
      misused 1 ("extra operand " ++ Quoting.plain extra) s
    | numbers =>
      if let (true, some _) := (call.has 'w', call.value? 'f') then
        misused 1 "format string may not be specified when printing equal width strings" s
      else
      read numbers fun bounds =>
        match bounds with
        | [first, step, last] =>
          if step.value == 0 then
            misused 1 ("invalid Zero increment value: "
              ++ Quoting.plain ((numbers[1]?).getD [])) s
          else written ⟨first, step, last⟩
        | [first, last] => written ⟨first, .one, last⟩
        | [last] => written ⟨.one, .one, last⟩
        | _ => s) options s

/-! ### Calculations -/

namespace Calculation

/-- Why a calculation has no value. -/
inductive Trouble where
  | missingAfter (arg : Bytes)
  | unexpected (arg : Bytes)
  | bracketAfter (arg : Bytes)
  | bracketInsteadOf (arg : Bytes)
  | closingBracket
  | noInteger
  | divisionByZero
  | expression (reason : String)
  deriving DecidableEq, Repr

/-- The wording of a trouble. -/
def Trouble.message : Trouble → String
  | missingAfter arg => "syntax error: missing argument after " ++ Quoting.plain arg
  | unexpected arg => "syntax error: unexpected argument " ++ Quoting.plain arg
  | bracketAfter arg => "syntax error: expecting ')' after " ++ Quoting.plain arg
  | bracketInsteadOf arg => "syntax error: expecting ')' instead of " ++ Quoting.plain arg
  | closingBracket => "syntax error: unexpected ')'"
  | noInteger => "non-integer argument"
  | divisionByZero => "division by zero"
  | expression reason => reason

/-- A text stands for nothing: it is empty or a zero. -/
def isNull (text : Bytes) : Bool :=
  let digits := if text.head? == some '-' then text.drop 1 else text
  text.isEmpty || (!digits.isEmpty && digits.all (· == '0'))

/-- The integer that a text is. -/
def integerOf? (text : Bytes) : Option Int :=
  let digits := if text.head? == some '-' then text.drop 1 else text
  if digits.isEmpty || !digits.all Char.isDigit then none
  else
    let size : Int := Quantity.numberIn 10 digits
    some (if text.head? == some '-' then -size else size)

/-- The text of an integer. -/
def ofInteger (n : Int) : Bytes := (toString n).toList

/-- The text of an answer. -/
def ofAnswer (yes : Bool) : Bytes := if yes then ['1'] else ['0']

/-- What an expression finds at the front of a text: its group if it has one, or how much. -/
def matched (text expression : Bytes) : Except Trouble Bytes :=
  match Expression.parse (Expression.form false) expression with
  | .error reason => .error (.expression reason)
  | .ok (e, groups) =>
    match e.longest? Expression.exactly none text with
    | some m =>
      if 0 < groups then .ok ((m.groups.lookup 1).getD [])
      else .ok (Nat.toDigits 10 (text.length - m.left))
    | none => .ok (if 0 < groups then [] else ['0'])

/-- The value of an operator between two texts. -/
def operate (op : String) (a b : Bytes) : Except Trouble Bytes :=
  let compared (less equal : Bool) : Bytes :=
    match op with
    | "<" => ofAnswer less
    | "<=" => ofAnswer (less || equal)
    | ">" => ofAnswer (!less && !equal)
    | ">=" => ofAnswer !less
    | "!=" => ofAnswer !equal
    | _ => ofAnswer equal
  match op, integerOf? a, integerOf? b with
  | "|", _, _ => .ok (if !isNull a then a else if !isNull b then b else ['0'])
  | "&", _, _ => .ok (if isNull a || isNull b then ['0'] else a)
  | ":", _, _ => matched a b
  | op, some m, some n =>
    match op with
    | "+" => .ok (ofInteger (m + n))
    | "-" => .ok (ofInteger (m - n))
    | "*" => .ok (ofInteger (m * n))
    | "/" => if n == 0 then .error .divisionByZero else .ok (ofInteger (m.tdiv n))
    | "%" => if n == 0 then .error .divisionByZero else .ok (ofInteger (m.tmod n))
    | _ => .ok (compared (m < n) (m == n))
  | op, _, _ =>
    if ["+", "-", "*", "/", "%"].contains op then .error .noInteger
    else .ok (compared (decide (a < b)) (a == b))

/-- The operators between two operands by rank, the loosest first. -/
def ranks : List (List String) :=
  [["|"], ["&"], ["<", "<=", "=", "==", "!=", ">=", ">"], ["+", "-"], ["*", "/", "%"], [":"]]

/-- A value and the arguments behind it. -/
abbrev Step := Except Trouble (Bytes × List Bytes)

/-- A part of a text, from a place on. -/
def part (text place size : Bytes) : Bytes :=
  match integerOf? place, integerOf? size with
  | some place, some size =>
    if 0 < place && 0 < size then (text.drop (place.toNat - 1)).take size.toNat else []
  | _, _ => []

/-- The place of the first character of a text that is among others. -/
def placeIn (text chars : Bytes) : Nat :=
  match text.findIdx? chars.contains with
  | some i => i + 1
  | none => 0

mutual

/-- Calculates operands with operators of some ranks between them, the loosest first; `last` is the
argument in front, and where a value is not asked for, operators are passed over. -/
def valueOf (bound : Nat) (below : List (List String)) (live : Bool) (last : Bytes)
    (args : List Bytes) : Step :=
  match bound with
  | 0 => .error .closingBracket
  | bound + 1 =>
    match below with
    | [] => operand bound live last args
    | ops :: below => do
      let (a, rest) ← valueOf bound below live last args
      moreOf bound ops below live a rest

/-- Goes on behind an operand, as long as operators of a rank follow. -/
def moreOf (bound : Nat) (ops : List String) (below : List (List String)) (live : Bool) (a : Bytes)
    (args : List Bytes) : Step :=
  match bound with
  | 0 => .error .closingBracket
  | bound + 1 =>
    match args with
    | [] => .ok (a, [])
    | arg :: rest =>
      let op := String.ofList arg
      if !ops.contains op then .ok (a, arg :: rest)
      else do
        let asks := if op == "|" then isNull a else if op == "&" then !isNull a else true
        let (b, rest) ← valueOf bound below (live && asks) arg rest
        let value ← if live then operate op a b else .ok a
        moreOf bound ops below live value rest

/-- Calculates an operand. -/
def operand (bound : Nat) (live : Bool) (last : Bytes) (args : List Bytes) : Step :=
  match bound with
  | 0 => .error .closingBracket
  | bound + 1 =>
    match args with
    | [] => .error (.missingAfter last)
    | arg :: rest =>
      let next (last : Bytes) (args : List Bytes) :
          Except Trouble (Bytes × Bytes × List Bytes) := do
        let (value, left) ← operand bound live last args
        .ok (value, ((args.take (args.length - left.length)).getLast?).getD last, left)
      match String.ofList arg with
      | "+" =>
        match rest with
        | [] => .error (.missingAfter arg)
        | text :: rest => .ok (text, rest)
      | "length" => do
        let (text, _, rest) ← next arg rest
        .ok (Nat.toDigits 10 text.length, rest)
      | "match" => do
        let (text, last, rest) ← next arg rest
        let (expression, _, rest) ← next last rest
        let value ← if live then matched text expression else .ok text
        .ok (value, rest)
      | "index" => do
        let (text, last, rest) ← next arg rest
        let (chars, _, rest) ← next last rest
        .ok (Nat.toDigits 10 (placeIn text chars), rest)
      | "substr" => do
        let (text, last, rest) ← next arg rest
        let (place, last, rest) ← next last rest
        let (size, _, rest) ← next last rest
        .ok (part text place size, rest)
      | "(" => do
        let (value, left) ← valueOf bound ranks live arg rest
        match left with
        | [] => .error (.bracketAfter (rest.getLastD []))
        | close :: left =>
          if close == [')'] then .ok (value, left) else .error (.bracketInsteadOf close)
      | ")" => .error .closingBracket
      | _ => .ok (arg, rest)

end

/-- The value of arguments. -/
def ofArguments (args : List Bytes) : Except Trouble Bytes := do
  let (value, rest) ← valueOf (16 * args.length + 16) ranks true [] args
  match rest with
  | [] => .ok value
  | arg :: _ => .error (.unexpected arg)

end Calculation

/-- Writes what its arguments come to; the exit code says whether that is something. -/
def expr : Utility := fun args s =>
  let args := if args.head? == some ['-', '-'] then args.tail else args
  if args.isEmpty then misused 2 "missing operand" s
  else
    match Calculation.ofArguments args with
    | .ok value => (emitLines s [value]).withStatus (if Calculation.isNull value then 1 else 0)
    | .error trouble => s.report 2 (trouble.message)

end MojoToolchain.Shell
