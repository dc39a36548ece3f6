import MojoToolchain.Shell.State

/-!
# Arithmetic

Expressions over signed integers of 64 bits, with the operators and their ranks that shells share
with C.  A name stands for the value of a variable, which is zero when it is not set.
-/

namespace MojoToolchain.Shell

/-- An arithmetic expression. -/
inductive Arithmetic where
  | number (value : Int64)
  | named (name : Bytes)
  | unary (op : Char) (a : Arithmetic)
  | binary (op : String) (a b : Arithmetic)
  | choice (condition a b : Arithmetic)
  /-- Assigns, after an operation on the old value if there is an operator. -/
  | assign (name : Bytes) (op : Option String) (a : Arithmetic)
  deriving Repr

namespace Arithmetic

/-! ### Reading -/

/-- Drops white space. -/
def skipGaps (s : Bytes) : Bytes := s.dropWhile fun c => c == ' ' || c == '\t' || c == '\n'

/-- Binary operators by rank, the loosest first. -/
def ranks : List (List String) :=
  [["||"], ["&&"], ["|"], ["^"], ["&"], ["==", "!="], ["<=", ">=", "<", ">"], ["<<", ">>"],
   ["+", "-"], ["*", "/", "%"]]

/-- All operators, a longer one before those that it starts with. -/
def operators : List String :=
  ["<<=", ">>=", "||", "&&", "==", "!=", "<=", ">=", "<<", ">>", "+=", "-=", "*=", "/=", "%=",
   "&=", "|=", "^=", "=", "<", ">", "+", "-", "*", "/", "%", "&", "|", "^", "?", ":"]

/-- The operators that assign. -/
def assignments : List String :=
  ["=", "<<=", ">>=", "+=", "-=", "*=", "/=", "%=", "&=", "|=", "^="]

/-- The operator at the front, and the text after it. -/
def readOperator (s : Bytes) : Option (String × Bytes) :=
  let s := skipGaps s
  (operators.find? fun op => op.toList.isPrefixOf s).map fun op => (op, s.drop op.length)

/-- The value of a digit below a base. -/
def digitBelow (base : Nat) (c : Char) : Option Nat :=
  let value : Option Nat :=
    if c.isDigit then some (c.toNat - 48)
    else if 'a' ≤ c && c ≤ 'f' then some (c.toNat - 87)
    else if 'A' ≤ c && c ≤ 'F' then some (c.toNat - 55)
    else none
  value.bind fun v => if v < base then some v else none

/-- The number that digits are, in a base; it is at most the greatest of its kind. -/
def numberIn (base : Nat) (digits : Bytes) : Nat :=
  min (digits.foldl (fun n c => base * n + (digitBelow base c).getD 0) 0) (1 <<< 63 - 1)

/-- The digits in a base at the front, as a number, and the text after them. -/
def takeDigits (base : Nat) (s : Bytes) : Nat × Bytes :=
  let digits := s.takeWhile fun c => (digitBelow base c).isSome
  (numberIn base digits, s.drop digits.length)

/-- The number at the front, which starts with a digit: hexadecimal after `0x`, octal after
`0`. -/
def takeNumber (s : Bytes) : Nat × Bytes :=
  match s with
  | '0' :: 'x' :: c :: r =>
    if (digitBelow 16 c).isSome then takeDigits 16 (c :: r) else (0, s.drop 1)
  | '0' :: 'X' :: c :: r =>
    if (digitBelow 16 c).isSome then takeDigits 16 (c :: r) else (0, s.drop 1)
  | '0' :: r => takeDigits 8 r
  | s => takeDigits 10 s

/-- The number that a text is. -/
def numberOf? (s : Bytes) : Option Nat :=
  if s.head?.any Char.isDigit then
    match takeNumber s with
    | (n, []) => some n
    | _ => none
  else none

/-- A character of a number or a name. -/
def isWordChar (c : Char) : Bool := c.isAlphanum || c == '_'

/-- The operator of an assignment, without its equals sign. -/
def operationOf (op : String) : Option String :=
  if op == "=" then none else some (String.ofList op.toList.dropLast)

/-- Why a text is no expression. -/
inductive Lack where
  | operand
  | ending
  | colon
  | bracket
  deriving DecidableEq, Repr

/-- The wording of what a text lacks. -/
def Lack.message : Lack → String
  | operand => "expecting primary"
  | ending => "expecting EOF"
  | colon => "expecting ':'"
  | bracket => "expecting ')'"

mutual

/-- Reads an expression. -/
def read (bound : Nat) (s : Bytes) : Except Lack (Arithmetic × Bytes) :=
  match bound with
  | 0 => .error .operand
  | bound + 1 =>
    let s := skipGaps s
    let name := s.takeWhile isWordChar
    match readOperator (s.drop name.length) with
    | some (op, rest) =>
      if assignments.contains op && !name.isEmpty && !(name.head?.any Char.isDigit) then do
        let (a, rest) ← read bound rest
        .ok (.assign name (operationOf op) a, rest)
      else readChoice bound s
    | none => readChoice bound s

/-- Reads an expression that assigns nothing at its front. -/
def readChoice (bound : Nat) (s : Bytes) : Except Lack (Arithmetic × Bytes) :=
  match bound with
  | 0 => .error .operand
  | bound + 1 => do
    let (condition, rest) ← readRank bound ranks s
    match readOperator rest with
    | some ("?", rest) =>
      let (a, rest) ← read bound rest
      match readOperator rest with
      | some (":", rest) =>
        let (b, rest) ← readChoice bound rest
        .ok (.choice condition a b, rest)
      | _ => .error .colon
    | _ => .ok (condition, rest)

/-- Reads operands with operators of one rank between them. -/
def readRank (bound : Nat) (below : List (List String)) (s : Bytes) :
    Except Lack (Arithmetic × Bytes) :=
  match bound with
  | 0 => .error .operand
  | bound + 1 =>
    match below with
    | [] => readOperand bound s
    | ops :: below => do
      let (a, rest) ← readRank bound below s
      readMore bound ops below a rest

/-- Reads further operands of one rank. -/
def readMore (bound : Nat) (ops : List String) (below : List (List String)) (a : Arithmetic)
    (s : Bytes) : Except Lack (Arithmetic × Bytes) :=
  match bound with
  | 0 => .error .operand
  | bound + 1 =>
    match readOperator s with
    | some (op, rest) =>
      if ops.contains op then do
        let (b, rest) ← readRank bound below rest
        readMore bound ops below (.binary op a b) rest
      else .ok (a, s)
    | none => .ok (a, s)

/-- Reads an operand. -/
def readOperand (bound : Nat) (s : Bytes) : Except Lack (Arithmetic × Bytes) :=
  match bound with
  | 0 => .error .operand
  | bound + 1 =>
    match skipGaps s with
    | [] => .error .operand
    | '(' :: r => do
      let (a, rest) ← read bound r
      match skipGaps rest with
      | ')' :: rest => .ok (a, rest)
      | _ => .error .bracket
    | c :: r =>
      if ['-', '+', '!', '~'].contains c then do
        let (a, rest) ← readOperand bound r
        .ok (.unary c a, rest)
      else if c.isDigit then
        let (n, rest) := takeNumber (c :: r)
        .ok (.number (Int64.ofNat n), rest)
      else
        let word := (c :: r).takeWhile isWordChar
        if word.isEmpty then .error .operand else .ok (.named word, (c :: r).drop word.length)

end

/-- The expression that all of a text is; nothing stands for zero. -/
def parse (s : Bytes) : Except Lack Arithmetic := do
  let (a, rest) ← read (16 * s.length + 16) s
  if (skipGaps rest).isEmpty then .ok a else .error .ending

/-! ### Values -/

/-- Why an expression has no value. -/
inductive Trouble where
  | divisionByZero
  | illegalNumber (text : Bytes)
  deriving DecidableEq, Repr

/-- Truth as a number. -/
def ofBool (b : Bool) : Int64 := if b then 1 else 0

/-- The result of a binary operation. -/
def resultOf (op : String) (a b : Int64) : Except Trouble Int64 :=
  match op with
  | "+" => .ok (a + b)
  | "-" => .ok (a - b)
  | "*" => .ok (a * b)
  | "/" => if b == 0 then .error .divisionByZero else .ok (a / b)
  | "%" => if b == 0 then .error .divisionByZero else .ok (a % b)
  | "<<" => .ok (a <<< b)
  | ">>" => .ok (a >>> b)
  | "<" => .ok (ofBool (a < b))
  | ">" => .ok (ofBool (b < a))
  | "<=" => .ok (ofBool (a ≤ b))
  | ">=" => .ok (ofBool (b ≤ a))
  | "==" => .ok (ofBool (a == b))
  | "!=" => .ok (ofBool (a != b))
  | "&" => .ok (a &&& b)
  | "|" => .ok (a ||| b)
  | "^" => .ok (a ^^^ b)
  | "&&" => .ok (ofBool (a != 0 && b != 0))
  | _ => .ok (ofBool (a != 0 || b != 0))

/-- The value of a variable. -/
def valueOf (s : State) (name : Bytes) : Except Trouble Int64 :=
  let trimmed (text : Bytes) : Bytes := (skipGaps (skipGaps text).reverse).reverse
  match (s.valueOf name).map trimmed with
  | none => .ok 0
  | some [] => .ok 0
  | some ('-' :: text) =>
    match numberOf? text with
    | some n => .ok (-Int64.ofNat n)
    | none => .error (.illegalNumber ('-' :: text))
  | some text =>
    match numberOf? text with
    | some n => .ok (Int64.ofNat n)
    | none => .error (.illegalNumber text)

/-- A number as text. -/
def textOf (n : Int64) : Bytes := (toString n.toInt).toList

/-- The value of an expression, and the state after its assignments. -/
def eval (s : State) : Arithmetic → Except Trouble (Int64 × State)
  | number n => .ok (n, s)
  | named name => return (← valueOf s name, s)
  | unary op a => do
    let (n, s) ← a.eval s
    let result : Int64 :=
      match op with
      | '-' => -n
      | '!' => ofBool (n == 0)
      | '~' => ~~~n
      | _ => n
    .ok (result, s)
  | binary op a b => do
    let (m, s) ← a.eval s
    if op == "&&" && m == 0 then .ok (0, s)
    else if op == "||" && m != 0 then .ok (1, s)
    else
      let (n, s) ← b.eval s
      .ok (← resultOf op m n, s)
  | choice condition a b => do
    let (n, s) ← condition.eval s
    if n != 0 then a.eval s else b.eval s
  | assign name op a => do
    let (n, s) ← a.eval s
    let result ←
      match op with
      | some op => resultOf op (← valueOf s name) n
      | none => .ok n
    .ok (result, s.assign name (textOf result))

end Arithmetic

end MojoToolchain.Shell
