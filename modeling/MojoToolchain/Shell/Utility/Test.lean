import MojoToolchain.Shell.Utility.Basic

/-!
# Testing

`test` compares texts and numbers and asks about files.  Its arguments are read from left to
right; what an argument means depends on the ones behind it.
-/

namespace MojoToolchain.Shell

/-! ### Operators -/

/-- A path leads to a device. -/
def isDevice (path : Bytes) : Bool := path == "/dev/null".toList || path == "/dev/zero".toList

/-- There is something at a path. -/
def isThere (s : State) (path : Bytes) : Bool :=
  (s.kindAt path).isSome || isDevice path || isSystemPath s.disk path

/-- There is a file at a path. -/
def isFile (s : State) (path : Bytes) : Bool :=
  (s.kindAt path == some .file && !isDevice path) || isSystemPath s.disk path

/-- A file can be run as a program. -/
def isExecutable (s : State) (path : Bytes) : Bool :=
  match s.disk.nodeAt (pathOf path) with
  | .ok (.file _ executable) => executable
  | .ok .directory => true
  | .error _ => isSystemPath s.disk path

/-- A file holds something. -/
def isFilled (s : State) (path : Bytes) : Bool :=
  match s.disk.nodeAt (pathOf path) with
  | .ok (.file bytes _) => !bytes.isEmpty
  | .ok .directory => true
  | .error _ => isSystemPath s.disk path

/-- Two paths lead to the same place. -/
def isSamePlace (s : State) (a b : Bytes) : Bool :=
  match s.disk.locate (pathOf a), s.disk.locate (pathOf b) with
  | .ok a, .ok b => a == b
  | _, _ => false

/-- Why a test has no answer. -/
inductive TestFault where
  | illegalNumber (arg : Bytes)
  | unexpectedOperator (arg : Bytes)
  | argumentExpected (op : Bytes)
  | bracketExpected
  | missingBracket
  deriving DecidableEq, Repr

/-- The wording of a fault. -/
def TestFault.message : TestFault → String
  | illegalNumber arg => "Illegal number: " ++ String.ofList arg
  | unexpectedOperator arg => String.ofList arg ++ ": unexpected operator"
  | argumentExpected op => String.ofList op ++ ": argument expected"
  | bracketExpected => "closing paren expected"
  | missingBracket => "missing ]"

/-- The wording of a fault by the program. -/
def TestFault.plainMessage : TestFault → String
  | illegalNumber arg => "invalid integer " ++ Quoting.plain arg
  | unexpectedOperator arg => "extra argument " ++ Quoting.plain arg
  | argumentExpected op => "missing argument after " ++ Quoting.plain op
  | bracketExpected => "')' expected"
  | missingBracket => "missing ']'"

/-- The operators on one argument. -/
def unaryTests : List (String × (State → Bytes → Bool)) :=
  [("-n", fun _ arg => !arg.isEmpty), ("-z", fun _ arg => arg.isEmpty),
   ("-e", isThere), ("-r", isThere), ("-w", isThere), ("-O", isThere), ("-G", isThere),
   ("-f", isFile), ("-d", fun s arg => s.kindAt arg == some .directory), ("-x", isExecutable),
   ("-s", isFilled), ("-c", fun _ arg => isDevice arg),
   ("-h", fun _ _ => false), ("-L", fun _ _ => false), ("-p", fun _ _ => false),
   ("-t", fun _ _ => false), ("-b", fun _ _ => false),
   ("-S", fun _ _ => false), ("-u", fun _ _ => false), ("-g", fun _ _ => false),
   ("-k", fun _ _ => false)]

/-- The operators on two numbers. -/
def numberTests : List (String × (Int → Int → Bool)) :=
  [("-eq", (· == ·)), ("-ne", (· != ·)), ("-lt", (· < ·)), ("-le", (· ≤ ·)), ("-gt", (· > ·)),
   ("-ge", (· ≥ ·))]

/-- The operators on two texts. -/
def textTests : List (String × (Bytes → Bytes → Bool)) :=
  [("=", (· == ·)), ("!=", (· != ·)), ("<", fun a b => decide (a < b)),
   (">", fun a b => decide (b < a))]

/-- The operators on two files. -/
def fileTests : List (String × (State → Bytes → Bytes → Bool)) :=
  [("-ef", isSamePlace), ("-nt", fun _ _ _ => false), ("-ot", fun _ _ _ => false)]

/-- White space around the number of a test. -/
def isTestGap (c : Char) : Bool := c == ' ' || ('\t' ≤ c && c ≤ '\r')

/-- The number that an argument of a test is. -/
def testNumber (arg : Bytes) : Except TestFault Int :=
  let text := ((arg.dropWhile isTestGap).reverse.dropWhile isTestGap).reverse
  match numberOf (if text.head? == some '+' then text.drop 1 else text) with
  | some n => .ok n
  | none => .error (.illegalNumber arg)

/-- An operator on one argument. -/
def unaryTest? (op : Bytes) : Option (State → Bytes → Bool) := unaryTests.lookup (String.ofList op)

/-- An operator on two arguments. -/
def binaryTest? (op : Bytes) : Option (State → Bytes → Bytes → Except TestFault Bool) :=
  let name := String.ofList op
  match textTests.lookup name, numberTests.lookup name, fileTests.lookup name with
  | some holds, _, _ => some fun _ a b => .ok (holds a b)
  | none, some holds, _ => some fun _ a b => return holds (← testNumber a) (← testNumber b)
  | none, none, some holds => some fun s a b => .ok (holds s a b)
  | none, none, none => none

/-! ### Reading -/

/-- What the first of some arguments means. -/
inductive TestToken where
  | nothing
  | operand
  | unary
  | binary
  | not
  | both
  | either
  | opening
  | closing
  deriving DecidableEq, Repr

/-- What the first of some arguments means; an operator on one argument is none itself when there
is nothing behind it, or an operator on two with an argument of its own. -/
def testToken : List Bytes → TestToken
  | [] => .nothing
  | arg :: rest =>
    if (unaryTest? arg).isSome then
      match rest with
      | [] => .operand
      | [_] => .unary
      | next :: _ :: _ => if (binaryTest? next).isSome then .operand else .unary
    else if (binaryTest? arg).isSome then .binary
    else
      match arg with
      | ['!'] => .not
      | ['-', 'a'] => .both
      | ['-', 'o'] => .either
      | ['('] => if rest.isEmpty then .operand else .opening
      | [')'] => .closing
      | _ => .operand

/-- An answer, and the arguments from the last one on that it depends on. -/
abbrev TestAnswer := Except TestFault (Bool × List Bytes)

mutual

/-- Reads answers of which one is enough, from arguments whose first has a meaning. -/
def testEither (bound : Nat) (s : State) (token : TestToken) (args : List Bytes) : TestAnswer :=
  match bound with
  | 0 => .ok (false, args)
  | bound + 1 => do
    let (a, args) ← testBoth bound s token args
    if testToken args.tail == .either then
      let behind := args.tail.tail
      let (b, args) ← testEither bound s (testToken behind) behind
      .ok (a || b, args)
    else .ok (a, args)

/-- Reads answers that are all needed. -/
def testBoth (bound : Nat) (s : State) (token : TestToken) (args : List Bytes) : TestAnswer :=
  match bound with
  | 0 => .ok (false, args)
  | bound + 1 => do
    let (a, args) ← testNot bound s token args
    if testToken args.tail == .both then
      let behind := args.tail.tail
      let (b, args) ← testBoth bound s (testToken behind) behind
      .ok (a && b, args)
    else .ok (a, args)

/-- Reads an answer that may be negated. -/
def testNot (bound : Nat) (s : State) (token : TestToken) (args : List Bytes) : TestAnswer :=
  match bound with
  | 0 => .ok (false, args)
  | bound + 1 =>
    if token != .not then testOne bound s token args
    else do
      let next := testToken args.tail
      let (a, args) ← testNot bound s next (if next == .nothing then args else args.tail)
      .ok (!a, args)

/-- Reads the answer of one test. -/
def testOne (bound : Nat) (s : State) (token : TestToken) (args : List Bytes) : TestAnswer :=
  match bound with
  | 0 => .ok (false, args)
  | bound + 1 =>
    let arg := args.headD []
    match token with
    | .nothing => .ok (false, args)
    | .opening =>
      let next := testToken args.tail
      if next == .closing then .ok (false, args.tail)
      else do
        let (a, args) ← testEither bound s next args.tail
        if testToken args.tail == .closing then .ok (a, args.tail) else .error .bracketExpected
    | .unary =>
      match args.tail, unaryTest? arg with
      | value :: rest, some holds => do
        if arg == ['-', 't'] then let _ ← testNumber value
        .ok (holds s value, value :: rest)
      | _, _ => .error (.argumentExpected arg)
    | _ =>
      match args.tail with
      | op :: rest =>
        match binaryTest? op, rest with
        | some _, [] => .error (.argumentExpected op)
        | some holds, value :: more => return (← holds s arg value, value :: more)
        | none, _ => .ok (!arg.isEmpty, args)
      | [] => .ok (!arg.isEmpty, args)

end

/-- What a test says. -/
def testAll (s : State) : List Bytes → Except TestFault Bool
  | [] => .ok false
  | arg :: rest =>
    let args := arg :: rest
    let size := args.length
    let whole (token : TestToken) (args : List Bytes) : Except TestFault Bool := do
      let (a, left) ← testEither (4 * size + 8) s token args
      match left with
      | op :: _ :: _ => .error (.unexpectedOperator op)
      | _ => .ok a
    if size == 3 && ((args[1]?).bind binaryTest?).isSome then whole .operand args
    else if size == 3 || size == 4 then
      if arg == ['('] && args.getLast? == some [')'] then
        let inner := rest.dropLast
        whole (testToken inner) inner
      else if arg == ['!'] then return !(← testAll s rest)
      else whole (testToken args) args
    else whole (testToken args) args

/-- Tests its arguments; `say` tells of faults. -/
def testWith (say : TestFault → State → State) (args : List Bytes) (s : State) : State :=
  match testAll s args with
  | .ok true => s.withStatus 0
  | .ok false => s.withStatus 1
  | .error fault => say fault s

/-- Tests its arguments, of which the last is a closing bracket. -/
def bracketWith (say : TestFault → State → State) (args : List Bytes) (s : State) : State :=
  if args.getLast? == some [']'] then testWith say args.dropLast s else say .missingBracket s

/-- The tests of the shell. -/
def testBuiltins : Utilities :=
  let say (fault : TestFault) (s : State) : State := s.complain 2 fault.message
  [("test", testWith say), ("[", bracketWith say)]

/-- The tests that are programs. -/
def testUtilities : Utilities :=
  let say (fault : TestFault) (s : State) : State := s.report 2 fault.plainMessage
  [("test", testWith say), ("[", bracketWith say)]

end MojoToolchain.Shell
