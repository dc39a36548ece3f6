import MojoToolchain.Decimal.Quantity
import MojoToolchain.Shell.Utility.Writing

/-!
# Formats

`printf` writes its arguments as a format says: its directives, which open with a percent sign,
take one argument each.  A shell does this itself, and there is a program for it with rules of its
own.
-/

namespace MojoToolchain.Shell

/-! ### Layouts -/

/-- How the value of a directive is laid out. -/
structure Layout where
  flags : Bytes
  width : Nat
  precision : Option Nat

namespace Layout

/-- A text, filled up to the width; a number may be filled up with zeros behind its sign. -/
def pad (l : Layout) (zeros : Bool) (sign text : Bytes) : Bytes :=
  let missing := l.width - (sign.length + text.length)
  if l.flags.contains '-' then sign ++ text ++ List.replicate missing ' '
  else if zeros && l.flags.contains '0' then sign ++ List.replicate missing '0' ++ text
  else List.replicate missing ' ' ++ sign ++ text

/-- The sign in front of a number. -/
def sign (l : Layout) (negative : Bool) : Bytes :=
  if negative then ['-']
  else if l.flags.contains '+' then ['+']
  else if l.flags.contains ' ' then [' ']
  else []

/-- A text, cut to the precision. -/
def text (l : Layout) (s : Bytes) : Bytes :=
  l.pad false []
    (match l.precision with
    | some p => s.take p
    | none => s)

/-- A whole number with something in front of its digits, of which there are at least as many as
the precision says. -/
def whole (l : Layout) (front : Bytes) (digits : Bytes) : Bytes :=
  let digits := if l.precision == some 0 && digits == ['0'] then [] else digits
  let digits := List.replicate (l.precision.getD 0 - digits.length) '0' ++ digits
  l.pad l.precision.isNone front digits

/-- A whole number of a directive with a sign. -/
def integer (l : Layout) (n : Int) : Bytes := l.whole (l.sign (n < 0)) (Nat.toDigits 10 n.natAbs)

/-- A natural number, in the base of a directive. -/
def natural (l : Layout) (letter : Char) (n : Nat) : Bytes :=
  let marked := l.flags.contains '#'
  match letter with
  | 'o' =>
    let digits := Nat.toDigits 8 n
    l.whole [] (if marked && n != 0 then '0' :: digits else digits)
  | 'x' => l.whole (if marked && n != 0 then ['0', 'x'] else []) (Nat.toDigits 16 n)
  | 'X' =>
    l.whole (if marked && n != 0 then ['0', 'X'] else []) ((Nat.toDigits 16 n).map Char.toUpper)
  | _ => l.whole [] (Nat.toDigits 10 n)

/-- A number of a directive that writes decimals. -/
def decimal (l : Layout) (letter : Char) (q : Quantity) : Bytes :=
  let upper := letter.isUpper
  let cased (s : Bytes) : Bytes := if upper then s.map Char.toUpper else s
  let places := l.precision.getD 6
  let marked := l.flags.contains '#'
  let front := l.sign q.isNegative
  match q with
  | .infinite _ => l.pad false front (cased "inf".toList)
  | .undefined _ => l.pad false front (cased "nan".toList)
  | .ratio _ num den =>
    let digits : Bytes :=
      match letter.toLower with
      | 'f' => Quantity.fixed places marked num den
      | 'e' => Quantity.exponential 'e' places marked num den
      | _ => Quantity.general 'e' places marked num den
    l.pad true front (cased digits)

end Layout

/-! ### Numbers in arguments -/

/-- What is wrong with an argument that should be a number. -/
inductive Misread where
  | noNumber
  | more
  | outOfRange
  deriving DecidableEq, Repr

/-- What is wrong with a text of which something has been read. -/
def misreadOf (text rest : Bytes) (fits : Bool) : Option Misread :=
  if !rest.isEmpty then if rest.length == text.length then some .noNumber else some .more
  else if fits then none
  else some .outOfRange

/-- Drops the white space in front of a number. -/
def dropSpace (s : Bytes) : Bytes := s.dropWhile fun c => c == ' ' || ('\t' ≤ c && c ≤ '\r')

/-- The whole number that an argument stands for, in a base that its first digits name; one that
does not fit in 64 bits is cut to those that do. -/
def readWhole (signed : Bool) (arg : Bytes) : Int × Option Misread :=
  match arg with
  | '\'' :: r => ((r.headD '\x00').toNat, none)
  | '"' :: r => ((r.headD '\x00').toNat, none)
  | arg =>
    let (negative, r) : Bool × Bytes :=
      match dropSpace arg with
      | '-' :: r => (true, r)
      | '+' :: r => (false, r)
      | r => (false, r)
    let (base, s) : Nat × Bytes :=
      match r with
      | '0' :: x :: c :: more =>
        if (x == 'x' || x == 'X') && Quantity.digitValue c < 16 then (16, c :: more)
        else (8, '0' :: x :: c :: more)
      | '0' :: more => (8, '0' :: more)
      | r => (10, r)
    let digits := Quantity.digitsAt base s
    let rest := if digits.isEmpty then arg else s.drop digits.length
    let size := Quantity.numberIn base digits
    let most : Nat :=
      if !signed then (1 <<< 64) - 1 else if negative then 1 <<< 63 else (1 <<< 63) - 1
    let value : Int :=
      if most < size then if negative && signed then -(most : Int) else most
      else if negative && signed then -(size : Int)
      else if negative then (((1 <<< 64) - size) % (1 <<< 64) : Nat)
      else size
    (value, misreadOf arg rest (size ≤ most))

/-- The number that an argument stands for, rounded to so many bits. -/
def readNumber (bits : Nat) (arg : Bytes) : Quantity × Option Misread :=
  match arg with
  | '\'' :: r => (.ofInt (r.headD '\x00').toNat, none)
  | '"' :: r => (.ofInt (r.headD '\x00').toNat, none)
  | arg =>
    match Quantity.read? (dropSpace arg) with
    | none => (.zero, misreadOf arg arg true)
    | some (q, rest) =>
      if bits == 53 then
        let x := q.toDouble
        let fits : Bool :=
          match q with
          | .ratio _ num _ =>
            x.magnitude < Double.infinity && (num == 0 || Double.hidden ≤ x.magnitude)
          | _ => true
        (.ofDouble x, misreadOf arg rest fits)
      else (q.toBits bits, misreadOf arg rest true)

/-! ### Directives -/

/-- A number in a directive: digits, or a star that takes an argument. -/
inductive Extent where
  | nothing
  | digits (n : Nat)
  | argument
  deriving DecidableEq, Repr

/-- A directive: its text from the percent sign to its letter, its parts, and the letter. -/
structure Directive where
  text : Bytes
  flags : Bytes
  width : Extent
  precision : Extent
  letter : Option Char

/-- Reads an extent. -/
def readExtent (s : Bytes) : Extent × Bytes :=
  match s with
  | '*' :: r => (.argument, r)
  | s =>
    let digits := s.takeWhile Char.isDigit
    (if digits.isEmpty then .nothing else .digits (Quantity.numberIn 10 digits),
      s.drop digits.length)

/-- Reads a directive behind its percent sign; `sizes` lets letters for sizes stand in front of the
letter. -/
def readDirective (sizes : Bool) (s : Bytes) : Directive × Bytes :=
  let flags := s.takeWhile ['-', '+', ' ', '0', '#'].contains
  let (width, r) := readExtent (s.drop flags.length)
  let (precision, r) : Extent × Bytes :=
    match r with
    | '.' :: r =>
      match readExtent r with
      | (.nothing, r) => (.digits 0, r)
      | other => other
    | r => (.nothing, r)
  let r := if sizes then r.dropWhile ['l', 'L', 'h', 'j', 't', 'z'].contains else r
  (⟨'%' :: s.take (s.length - r.length + 1), flags, width, precision, r.head?⟩, r.drop 1)

/-- The layout of a directive, and the arguments that are left. -/
def Directive.layout (d : Directive) (args : List Bytes) : Layout × List Bytes :=
  let take (a : Extent) (args : List Bytes) : Option Int × List Bytes :=
    match a with
    | .nothing => (none, args)
    | .digits n => (some n, args)
    | .argument => (some (readWhole true (args.headD [])).1, args.tail)
  let (width, args) := take d.width args
  let (precision, args) := take d.precision args
  let width := width.getD 0
  let flags := if width < 0 then '-' :: d.flags else d.flags
  let precision : Option Nat :=
    match precision with
    | some n => if n < 0 then none else some n.toNat
    | none => none
  (⟨flags, width.natAbs, precision⟩, args)

/-! ### Formats -/

/-- The rules of a format. -/
structure FormatRules where
  /-- The bits of the numbers with decimals. -/
  bits : Nat
  /-- The rules are those of the program. -/
  ofProgram : Bool

namespace FormatRules

/-- The rules of a shell. -/
def ofShell : FormatRules := ⟨53, false⟩

/-- The rules of the program. -/
def program : FormatRules := ⟨64, true⟩

/-- The wording of what is wrong with an argument. -/
def misread (x : FormatRules) (arg : Bytes) (m : Misread) : String :=
  let shown := String.ofList arg
  let start := if x.ofProgram then "'" ++ shown ++ "': " else shown ++ ": "
  start ++
    match m, x.ofProgram with
    | .noNumber, true => "expected a numeric value"
    | .noNumber, false => "expected numeric value"
    | .more, true => "value not completely converted"
    | .more, false => "not completely converted"
    | .outOfRange, _ => "Numerical result out of range"

/-- A directive may be written like this. -/
def allows (x : FormatRules) (d : Directive) (letter : Char) : Bool :=
  let isText := letter == 's' || letter == 'c'
  let isPlain := d.flags.isEmpty && d.width == .nothing && d.precision == .nothing
  !x.ofProgram ||
    (!(d.flags.contains '0' && isText)
      && !(d.flags.contains '#' && (isText || ['d', 'i', 'u'].contains letter))
      && !(letter == 'c' && d.precision != .nothing)
      && !(letter == 'b' && !isPlain))

end FormatRules

/-- What is written by a format: text, or what is wrong. -/
inductive Written where
  | text (chars : Bytes)
  | trouble (message : String)
  deriving DecidableEq, Repr

/-- What a pass over a format leaves: what is written, the arguments that are left, the exit code
and whether the output goes on. -/
structure Pass where
  written : List Written
  args : List Bytes
  code : Nat
  on : Bool

/-- A pass with something in front of it. -/
def Pass.after (p : Pass) (written : List Written) (code : Nat) : Pass :=
  { p with written := written ++ p.written, code := max code p.code }

/-- What a directive makes of an argument: what is written, the exit code, and whether the output
goes on.  There is nothing for a letter that is no directive. -/
def directive (x : FormatRules) (l : Layout) (letter : Char) (arg : Bytes) :
    Option (List Written × Nat × Bool) :=
  let plain (text : Bytes) : Option (List Written × Nat × Bool) := some ([.text text], 0, true)
  let number (text : Bytes) (m : Option Misread) : Option (List Written × Nat × Bool) :=
    match m with
    | some m => some ([.trouble (x.misread arg m), .text text], 1, true)
    | none => plain text
  let signed : Option (List Written × Nat × Bool) :=
    let (n, m) := readWhole true arg
    number (l.integer n) m
  let natural : Option (List Written × Nat × Bool) :=
    let (n, m) := readWhole false arg
    number (l.natural letter n.toNat) m
  let decimal : Option (List Written × Nat × Bool) :=
    let (q, m) := readNumber x.bits arg
    number (l.decimal letter q) m
  match letter with
  | 's' => plain (l.text arg)
  | 'b' =>
    let (text, on) := unescape octalAfterZero (arg.length + 1) arg
    some ([.text (l.text text)], 0, on)
  | 'c' => plain (l.pad false [] [arg.headD '\x00'])
  | 'd' => signed
  | 'i' => signed
  | 'u' => natural
  | 'o' => natural
  | 'x' => natural
  | 'X' => natural
  | 'e' => decimal
  | 'E' => decimal
  | 'f' => decimal
  | 'F' => decimal
  | 'g' => decimal
  | 'G' => decimal
  | _ => none

/-- The escape at the front of a format, behind its backslash; the program knows more of them. -/
def formatEscape (x : FormatRules) (s : Bytes) : Option (Char × Bytes) :=
  match octalDigits s, s with
  | some found, _ => some found
  | none, c :: r =>
    match escapeOf c, x.ofProgram, c with
    | some d, _, _ => some (d, r)
    | none, _, 'e' => some ('\x1b', r)
    | none, true, '"' => some ('"', r)
    | none, true, 'x' =>
      let digits := (r.take 2).takeWhile fun d => Quantity.digitValue d < 16
      if digits.isEmpty then none
      else some (Char.ofNat (Quantity.numberIn 16 digits), r.drop digits.length)
    | none, _, _ => none
  | none, [] => none

/-- One pass over a format. -/
def formatOnce (x : FormatRules) : Nat → Bytes → List Bytes → Pass
  | 0, _, args => ⟨[], args, 0, true⟩
  | _ + 1, [], args => ⟨[], args, 0, true⟩
  | bound + 1, '%' :: '%' :: r, args => (formatOnce x bound r args).after [.text ['%']] 0
  | bound + 1, '%' :: r, args =>
    let (d, r) := readDirective x.ofProgram r
    let (layout, args) := d.layout args
    let stop (message : String) : Pass :=
      ⟨[.trouble message], args, if x.ofProgram then 1 else 2, false⟩
    let wrong : String :=
      String.ofList d.text ++
        if x.ofProgram then ": invalid conversion specification" else ": invalid directive"
    match d.letter with
    | none => stop (if x.ofProgram then wrong else "missing format character")
    | some letter =>
      match if x.allows d letter then directive x layout letter (args.headD []) else none with
      | none => stop wrong
      | some (written, code, true) => (formatOnce x bound r args.tail).after written code
      | some (written, code, false) => ⟨written, [], code, false⟩
  | bound + 1, '\\' :: r, args =>
    match formatEscape x r, r with
    | some (d, rest), _ => (formatOnce x bound rest args).after [.text [d]] 0
    | none, 'c' :: more =>
      if x.ofProgram then ⟨[], [], 0, false⟩
      else (formatOnce x bound more args).after [.text ['\\', 'c']] 0
    | none, c :: more => (formatOnce x bound more args).after [.text ['\\', c]] 0
    | none, [] => ⟨[.text ['\\']], args, 0, true⟩
  | bound + 1, c :: r, args => (formatOnce x bound r args).after [.text [c]] 0

/-- Goes over a format as often as its arguments last. -/
def formatAll (x : FormatRules) : Nat → Bytes → List Bytes → Pass
  | 0, _, args => ⟨[], args, 0, true⟩
  | bound + 1, format, args =>
    let pass := formatOnce x (format.length + 1) format args
    if pass.on && !pass.args.isEmpty && pass.args.length < args.length then
      (formatAll x bound format pass.args).after pass.written pass.code
    else pass

/-- Writes what a format has made, in order. -/
def emitWritten (say : State → String → State) (written : List Written) (s : State) : State :=
  written.foldl (fun s w =>
    match w with
    | .text chars => s.emit 1 chars
    | .trouble message => say s message) s

/-- Writes its arguments as a format says, the way a shell does. -/
def printf : Utility := fun args s =>
  match args with
  | [] => s.complain 2 "usage: printf format [arg ...]"
  | format :: args =>
    let run (format : Bytes) (args : List Bytes) : State :=
      let pass := formatAll .ofShell (args.length + 1) format args
      -- the shell keeps what it writes until the end, but not what is wrong
      let text := pass.written.flatMap fun w =>
        match w with
        | .text chars => chars
        | .trouble _ => []
      let say (s : State) (message : String) : State := s.complain 1 message
      let troubles := pass.written.filter fun w =>
        match w with
        | .text _ => false
        | .trouble _ => true
      ((emitWritten say troubles s).emit 1 text).withStatus pass.code
    match format, args with
    | ['-', '-'], format :: args => run format args
    | ['-', '-'], [] => s.complain 2 "usage: printf format [arg ...]"
    | '-' :: c :: _, args =>
      if c == '-' then run format args
      else s.complain 2 ("Illegal option -" ++ String.ofList [c])
    | format, args => run format args

/-- Writes its arguments as a format says, the way the program does. -/
def plainPrintf : Utility := fun args s =>
  let args := if args.head? == some ['-', '-'] then args.tail else args
  let say (s : State) (message : String) : State := s.report 1 (message)
  match args with
  | [] => misused 1 "missing operand" s
  | format :: args =>
    let pass := formatAll .program (args.length + 1) format args
    let s := emitWritten say pass.written s
    let s :=
      if pass.on && !pass.args.isEmpty && pass.args.length == args.length then
        say s ("warning: ignoring excess arguments, starting with '"
          ++ String.ofList (pass.args.headD []) ++ "'")
      else s
    s.withStatus pass.code

end MojoToolchain.Shell
