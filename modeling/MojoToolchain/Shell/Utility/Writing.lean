import MojoToolchain.Shell.Signal

/-!
# Utilities that write

`echo` writes its arguments, with their escapes replaced, and `yes` writes them without end.
-/

namespace MojoToolchain.Shell

/-! ### Escapes -/

/-- An octal digit. -/
def isOctal (c : Char) : Bool := '0' ≤ c && c ≤ '7'

/-- The byte that octal digits stand for. -/
def ofOctal (digits : Bytes) : Char :=
  Char.ofNat (digits.foldl (fun n c => 8 * n + (c.toNat - 48)) 0 % 256)

/-- The character that a letter after a backslash stands for. -/
def escapeOf : Char → Option Char
  | 'a' => some '\x07'
  | 'b' => some '\x08'
  | 'f' => some '\x0c'
  | 'n' => some '\n'
  | 'r' => some '\r'
  | 't' => some '\t'
  | 'v' => some '\x0b'
  | '\\' => some '\\'
  | _ => none

/-- Text with its escapes replaced; `octal` reads octal digits after a backslash.  The second
part is false when an escape ends the output. -/
def unescape (octal : Bytes → Option (Char × Bytes)) : Nat → Bytes → Bytes × Bool
  | 0, _ => ([], true)
  | _ + 1, [] => ([], true)
  | bound + 1, '\\' :: c :: r =>
    match octal (c :: r), escapeOf c with
    | some (d, rest), _ =>
      let (more, on) := unescape octal bound rest
      (d :: more, on)
    | none, some d =>
      let (more, on) := unescape octal bound r
      (d :: more, on)
    | none, none =>
      if c == 'c' then ([], false)
      else
        let (more, on) := unescape octal bound r
        ('\\' :: c :: more, on)
  | bound + 1, c :: r =>
    let (more, on) := unescape octal bound r
    (c :: more, on)

/-- Octal digits, at most so many. -/
def takeOctal (most : Nat) (s : Bytes) : Bytes × Bytes :=
  let digits := (s.take most).takeWhile isOctal
  (digits, s.drop digits.length)

/-- One to three octal digits. -/
def octalDigits (s : Bytes) : Option (Char × Bytes) :=
  match takeOctal 3 s with
  | ([], _) => none
  | (digits, rest) => some (ofOctal digits, rest)

/-- A zero and at most three octal digits, or one to three of them. -/
def octalAfterZero : Bytes → Option (Char × Bytes)
  | '0' :: r =>
    let (digits, rest) := takeOctal 3 r
    some (ofOctal digits, rest)
  | s => octalDigits s

/-! ### Echo -/

/-- The characters that octal digits and a letter of their own stand for. -/
def shellEscapes : Bytes → Option (Char × Bytes)
  | 'e' :: r => some ('\x1b', r)
  | s => octalAfterZero s

/-- Writes its arguments on a line, with their escapes replaced. -/
def echo : Utility := fun args s =>
  let (newLine, args) :=
    match args with
    | ['-', 'n'] :: rest => (false, rest)
    | args => (true, args)
  let text := [' '].intercalate args
  let (text, on) := unescape shellEscapes (text.length + 1) text
  (s.emit 1 (text ++ if newLine && on then ['\n'] else [])).withStatus 0

/-- Writes its arguments on a line; escapes are replaced when an option asks for it. -/
def plainEcho : Utility := fun args s =>
  let isOption (a : Bytes) : Bool :=
    a.head? == some '-' && 1 < a.length && (a.drop 1).all ['n', 'e', 'E'].contains
  let options := (args.takeWhile isOption).flatMap (·.drop 1)
  let text := [' '].intercalate (args.dropWhile isOption)
  let escapes := (options.filter (· != 'n')).getLast? == some 'e'
  let (text, on) := if escapes then unescape octalAfterZero (text.length + 1) text else (text, true)
  (s.emit 1 (text ++ if !options.contains 'n' && on then ['\n'] else [])).withStatus 0

/-! ### Repetition -/

/-- How many bytes are written to one who may stop reading. -/
def repetitionSize : Nat := 1 <<< 20

/-- Writes a line again and again, until nobody reads it any more. -/
def yes : Utility :=
  withOptions 1 { flags := "", valued := "", names := [], inFront := true } fun call s =>
    let words := if call.operands.isEmpty then [['y']] else call.operands
    let row := [' '].intercalate words ++ ['\n']
    match s.sinks.lookup 1 with
    | some .nowhere => s.neverEnd
    | _ => (s.emit 1 (List.replicate (repetitionSize / row.length + 1) row).flatten).withStatus 0

end MojoToolchain.Shell
