import MojoToolchain.Shell.Utility.Amount
import MojoToolchain.Shell.Utility.Filter

/-!
# Dumps

`od` writes bytes as numbers or by their names.  A `DumpForm` says how a unit of bytes is written;
a row holds as many units as fit in its bytes, and several forms have rows of their own.
-/

namespace MojoToolchain.Shell

/-! ### Units -/

/-- A number in a base, filled up with zeros. -/
def paddedDigits (base width n : Nat) : Bytes :=
  let digits := Nat.toDigits base n
  List.replicate (width - digits.length) '0' ++ digits

/-- A byte as a character, or as an escape or an octal number. -/
def byteName (c : Char) : Bytes :=
  match c with
  | '\x00' => ['\\', '0']
  | '\x07' => ['\\', 'a']
  | '\x08' => ['\\', 'b']
  | '\t' => ['\\', 't']
  | '\n' => ['\\', 'n']
  | '\x0b' => ['\\', 'v']
  | '\x0c' => ['\\', 'f']
  | '\r' => ['\\', 'r']
  | c => if ' ' ≤ c && c ≤ '~' then [c] else paddedDigits 8 3 c.toNat

/-- The names of the characters that cannot be seen, and of the space. -/
def characterNames : List String :=
  ["nul", "soh", "stx", "etx", "eot", "enq", "ack", "bel", "bs", "ht", "nl", "vt", "ff", "cr", "so",
   "si", "dle", "dc1", "dc2", "dc3", "dc4", "nak", "syn", "etb", "can", "em", "sub", "esc", "fs",
   "gs", "rs", "us", "sp"]

/-- The name of a character, whatever the highest bit of its byte is. -/
def characterName (n : Nat) : Bytes :=
  let n := n % 128
  if n == 127 then "del".toList
  else
    match characterNames[n]? with
    | some name => name.toList
    | none => [Char.ofNat n]

/-- The digits of a number of so many bits with a sign. -/
def signedDigits (bits n : Nat) : Bytes :=
  if n < 1 <<< (bits - 1) then Nat.toDigits 10 n else '-' :: Nat.toDigits 10 ((1 <<< bits) - n)

/-- How a dump writes units of bytes: the bytes of a unit, its width, its text, and whether the
characters of a row stand at its end. -/
structure DumpForm where
  size : Nat
  width : Nat
  shown : Nat → Bytes
  tailed : Bool

namespace DumpForm

/-- The form of a letter, for units of so many bytes. -/
def ofLetter (letter : Char) (size : Nat) : Option DumpForm :=
  -- the widths are those of the greatest units
  let width (widths : List Nat) : Nat := (widths[Nat.log2 size]?).getD 0
  match letter with
  | 'a' => some ⟨1, 3, characterName, false⟩
  | 'c' => some ⟨1, 3, fun n => byteName (Char.ofNat n), false⟩
  | 'd' => some ⟨size, width [4, 6, 11, 20], signedDigits (8 * size), false⟩
  | 'u' => some ⟨size, width [3, 5, 10, 20], Nat.toDigits 10, false⟩
  | 'o' =>
    let width := width [3, 6, 11, 22]
    some ⟨size, width, paddedDigits 8 width, false⟩
  | 'x' => some ⟨size, 2 * size, paddedDigits 16 (2 * size), false⟩
  | _ => none

/-- The size that digits or a letter name, and what is behind them. -/
def takeSize (s : Bytes) : Nat × Bytes :=
  let digits := s.takeWhile Char.isDigit
  match s with
  | 'C' :: r => (1, r)
  | 'S' :: r => (2, r)
  | 'I' :: r => (4, r)
  | 'L' :: r => (8, r)
  | s =>
    if digits.isEmpty then (4, s)
    else (((numberOf digits).getD 0).toNat, s.drop digits.length)

/-- Reads the forms in a text; or says what is wrong with it. -/
def readAll (text : Bytes) : Nat → Bytes → Except String (List DumpForm)
  | 0, _ => .ok []
  | _ + 1, [] => .ok []
  | bound + 1, letter :: r =>
    let shown := String.ofList text
    let (size, r) := if letter == 'a' || letter == 'c' then (1, r) else takeSize r
    let (tailed, r) : Bool × Bytes :=
      match r with
      | 'z' :: r => (true, r)
      | r => (false, r)
    match ofLetter letter size with
    | none =>
      .error ("invalid character '" ++ String.ofList [letter] ++ "' in type string '" ++ shown
        ++ "'")
    | some form =>
      if [1, 2, 4, 8].contains size then
        (readAll text bound r).map ({ form with tailed := tailed } :: ·)
      else
        .error ("invalid type string '" ++ shown ++ "';\nthis system doesn't provide a "
          ++ toString size ++ "-byte integral type")

/-- The types that letters of options stand for. -/
def typeOf : Char → Option String
  | 'a' => some "a"
  | 'b' => some "o1"
  | 'c' => some "c"
  | 'd' => some "u2"
  | 'h' => some "x2"
  | 'i' => some "d4"
  | 'l' => some "d8"
  | 'o' => some "o2"
  | 's' => some "d2"
  | 'x' => some "x2"
  | _ => none

/-- The forms that options ask for, in order. -/
def ofOptions (options : List (Char × Bytes)) : Except String (List DumpForm) := do
  let types : List Bytes := options.filterMap fun (letter, value) =>
    if letter == 't' then some value else (typeOf letter).map String.toList
  let types := if types.isEmpty then ["o2".toList] else types
  let forms ← types.mapM fun text => readAll text (text.length + 1) text
  .ok forms.flatten

end DumpForm

/-! ### Rows -/

/-- A dump: its forms, the bytes of a row, and what writes an address. -/
structure Dump where
  forms : List DumpForm
  size : Nat
  address : Nat → Bytes
  /-- Rows that are like the one before are written too. -/
  all : Bool

namespace Dump

/-- The width of a row without its address. -/
def width (x : Dump) : Nat :=
  x.forms.foldl (fun n form => max n ((form.width + 1) * (x.size / form.size))) 0

/-- The units of a row in a form; the spaces between them fill up the width of a row. -/
def units (x : Dump) (form : DumpForm) (row : Bytes) : Bytes :=
  let value (unit : Bytes) : Nat := unit.foldr (fun c n => 256 * n + c.toNat) 0
  let fields := x.size / form.size
  let space := x.width - fields * form.width
  let upTo (i : Nat) : Nat := space * (fields - i) / fields
  (partsOf form.size (row.length + 1) row).zipIdx.flatMap fun (unit, i) =>
    filled (form.width + (upTo i - upTo (i + 1))) (form.shown (value unit))

/-- The characters of a row, with points for those that cannot be seen. -/
def tail (x : Dump) (form : DumpForm) (row : Bytes) : Bytes :=
  let missing := (x.size - row.length) / form.size * (form.width + 1)
  let seen := row.map fun c => if ' ' ≤ c && c ≤ '~' then c else '.'
  List.replicate missing ' ' ++ "  >".toList ++ seen ++ ['<']

/-- The lines of a row at an address. -/
def lines (x : Dump) (address : Nat) (row : Bytes) : List Bytes :=
  let front := x.address address
  x.forms.zipIdx.map fun (form, i) =>
    (if i == 0 then front else List.replicate front.length ' ') ++ x.units form row
      ++ if form.tailed then x.tail form row else []

/-- The lines of rows from an address on; a star stands for whole rows like the one before. -/
def linesFrom (x : Dump) (before : Option Bytes) (starred : Bool) (address : Nat) :
    List Bytes → List Bytes
  | [] => []
  | row :: rest =>
    if !x.all && row.length == x.size && before == some row then
      (if starred then [] else [['*']]) ++ linesFrom x before true (address + x.size) rest
    else x.lines address row ++ linesFrom x (some row) false (address + x.size) rest

end Dump

/-- Writes bytes as numbers or names. -/
def od : Utility := fun args s =>
  let args := args.map fun arg => if arg == ['-', 'w'] then "-w32".toList else arg
  let forms : OptionForms :=
    { flags := "abcdhilosxv", valued := "AtjNw",
      names := [("address-radix", 'A'), ("format", 't'), ("skip-bytes", 'j'), ("read-bytes", 'N'),
        ("width", 'w'), ("output-duplicates", 'v')] }
  withOptions 1 forms (fun call s =>
    match DumpForm.ofOptions call.options with
    | .error reason => s.report 1 (reason)
    | .ok forms =>
      let number (letter : Char) : Option Nat :=
        (call.value? letter).bind (Amount.natural? Amount.sizeLetters)
      let address (n : Nat) : Bytes :=
        match call.value? 'A' with
        | some ['n'] => []
        | some ['d'] => paddedDigits 10 7 n
        | some ['x'] => paddedDigits 16 6 n
        | _ => paddedDigits 8 7 n
      let (texts, s) := textsOf (.plain 1) call.operands s
      let start := (number 'j').getD 0
      let text := (texts.flatMap Prod.snd)
      if text.length < start then s.report 1 "cannot skip past end of combined input"
      else
        let text := text.drop start
        let text := (number 'N').elim text text.take
        let dump : Dump := ⟨forms, (number 'w').getD 16, address, call.has 'v'⟩
        let rows := partsOf dump.size (text.length + 1) text
        let last := if texts.isEmpty then [] else address (start + text.length)
        emitLines s (dump.linesFrom none false start rows ++ if last.isEmpty then [] else [last]))
    args s

/-- The utilities that write dumps. -/
def dumpUtilities : Utilities := [("od", od)]

end MojoToolchain.Shell
