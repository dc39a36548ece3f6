import MojoToolchain.Shell.Utility.Amount
import MojoToolchain.Shell.Utility.Filter

/-!
# Parts of texts

`head` and `tail` write the first and the last lines or bytes of texts, `split` writes the parts
of a text to files of their own, and `dd` copies blocks.
-/

namespace MojoToolchain.Shell

open Host (Fault)

/-! ### Ends -/

/-- Which part of a text is wanted: so many lines or bytes, or all but those. -/
structure Share where
  byBytes : Bool
  /-- All but so many at the front or at the end. -/
  others : Bool
  count : Nat

namespace Share

/-- The units of a text. -/
def units (x : Share) (mark : Char) (text : Bytes) : List Bytes :=
  if x.byBytes then text.map fun c => [c] else linesBy mark text

/-- The part at the front. -/
def front (x : Share) (mark : Char) (text : Bytes) : Bytes :=
  let units := x.units mark text
  (units.take (if x.others then units.length - x.count else x.count)).flatten

/-- The part at the end. -/
def back (x : Share) (mark : Char) (text : Bytes) : Bytes :=
  let units := x.units mark text
  (units.drop (if x.others then x.count - 1 else units.length - x.count)).flatten

/-- The share that the options of a call ask for; `sign` is what asks for the others. -/
def ofCall (sign : Char) (call : Call) : Except String Share :=
  (call.options.filter fun (c, _) => c == 'n' || c == 'c').foldlM (fun (_ : Share) (c, text) => do
    let what := "invalid number of " ++ if c == 'c' then "bytes" else "lines"
    let digits := if text.head? == some '-' then text.drop 1 else text
    let count ← Amount.naturalIn Amount.sizeLetters 0 what digits
    .ok ⟨c == 'c', text.head? == some sign, count⟩) (⟨false, false, 10⟩ : Share)

end Share

/-- A title in front of the part of a text. -/
def titleOf (first : Bool) (file : Bytes) : Bytes :=
  let name := if file == ['-'] then "standard input".toList else file
  (if first then [] else ['\n']) ++ "==> ".toList ++ name ++ " <==\n".toList

/-- Writes a part of each text, under its name if that is wanted. -/
def emitParts (titled : Bool) (files : List Bytes) (part : Bytes → Bytes) (ofInput : State → State)
    (s : State) : State :=
  let written (first : Bool) (file : Bytes) (s : State) : Bool × State :=
    let under (s : State) : State := if titled then s.emit 1 (titleOf first file) else s
    if file == ['-'] then (false, ofInput (under s))
    else
      match fileText file s with
      | (.ok text, s) => (false, (under s).emit 1 (part text))
      | (.error fault, s) =>
        -- a directory is opened before it turns out that it cannot be read
        let opened := fault == .isDirectory
        (first && !opened,
          (if opened then under s else s).report 1 ((Reports.opening 1).wording file fault))
  ((if files.isEmpty then [['-']] else files).foldl (fun (first, s) file => written first file s)
    (true, s.withStatus 0)).2

/-- The options of `head` and `tail`. -/
def endForms (more : String) : OptionForms where
  flags := "qvz0123456789" ++ more
  valued := "ncs"
  names := [("lines", 'n'), ("bytes", 'c'), ("quiet", 'q'), ("silent", 'q'), ("verbose", 'v'),
    ("zero-terminated", 'z'), ("follow", 'f'), ("retry", 'F'), ("sleep-interval", 's')]

/-- The titles that a call asks for. -/
def isTitled (call : Call) : Bool :=
  match call.last? "qv" with
  | some ('q', _) => false
  | some _ => true
  | none => 1 < call.operands.length

/-- The digit among the options of a call. -/
def digitIn (call : Call) : Option Char :=
  (call.options.find? fun (c, _) => c.isDigit).map Prod.fst

/-- A number right behind the first hyphen, and letters behind it, as options; or the letter that
is none. -/
def renewedHead (args : List Bytes) : Except Char (List Bytes) :=
  match args with
  | ('-' :: c :: more) :: rest =>
    if !c.isDigit then .ok args
    else
      let digits := (c :: more).takeWhile Char.isDigit
      let letters := (c :: more).drop digits.length
      match letters.find? fun d => !"bckmlqvz".toList.contains d with
      | some letter => .error letter
      | none =>
        let units := letters.filter "bckml".toList.contains
        let byBytes := units.getLast?.any (· != 'l')
        let multiple := (units.filter (· != 'l')).getLast?.filter (· != 'c')
        let number := digits ++ multiple.toList
        let titles := (letters.filter "qvz".toList.contains).map fun d => ['-', d]
        .ok (['-', if byBytes then 'c' else 'n'] :: number :: titles ++ rest)
  | args => .ok args

/-- Writes the first lines or bytes. -/
def head : Utility := fun args s =>
  let trailing (letter : Char) (s : State) : State :=
    misused 1 ("invalid trailing option -- " ++ String.ofList [letter]) s
  match renewedHead args with
  | .error letter => trailing letter s
  | .ok args =>
    withOptions 1 (endForms "") (fun call s =>
      match digitIn call, Share.ofCall '-' call with
      | some digit, _ => trailing digit s
      | none, .error reason => s.report 1 reason
      | none, .ok share =>
        let part := share.front call.endMark
        let ofInput (s : State) : State :=
          let taken := part s.input
          let block := if share.others then s.input.length else if share.byBytes then 1 else 8192
          (s.emit 1 taken).consume taken.length block
        emitParts (isTitled call) call.operands part ofInput s) args s

/-- A number right behind the first sign, with a letter behind it, as an option; it has at most one
file behind it. -/
def renewedTail (args : List Bytes) : List Bytes :=
  match args with
  | (sign :: text) :: rest =>
    let few :=
      match rest with
      | [] => true
      | [file] => !(file.head? == some '-' && 1 < file.length) || file == ['-', '-']
      | [dashes, _] => dashes == ['-', '-']
      | _ => false
    let digits := text.takeWhile Char.isDigit
    let unit : Option (Char × Nat) :=
      match text.drop digits.length with
      | [] => some ('n', 1)
      | ['l'] => some ('n', 1)
      | ['c'] => some ('c', 1)
      | ['b'] => some ('c', 512)
      | _ => none
    let isOwn := sign == '+' || (sign == '-' && !text.isEmpty && text != ['c'])
    match few && isOwn, unit with
    | true, some (letter, size) =>
      let number := Nat.toDigits 10 ((naturalOf digits).getD 10 * size)
      ['-', letter] :: (if sign == '+' then '+' :: number else number) :: rest
    | _, _ => args
  | args => args

/-- Writes the last lines or bytes. -/
def tail : Utility := fun args s =>
  withOptions 1 (endForms "fF") (fun call s =>
    match digitIn call, Share.ofCall '+' call with
    | some digit, _ =>
      s.report 1 ("option used in invalid context -- " ++ String.ofList [digit])
    | none, .error reason => s.report 1 reason
    | none, .ok share =>
      let part := share.back call.endMark
      let ofInput (s : State) : State :=
        let (text, s) := drain s
        s.emit 1 (part text)
      emitParts (isTitled call) call.operands part ofInput s) (renewedTail args) s

/-! ### Files of parts -/

/-- How a text is split. -/
inductive Splitting where
  | lines (size : Nat)
  | bytes (size : Nat)
  /-- So many bytes in whole lines, where that is possible. -/
  | lineBytes (size : Nat)
  /-- Into so many parts, or the one of a number. -/
  | parts (count : Nat) (only : Option Nat)
  /-- Into so many parts in whole lines. -/
  | lineParts (count : Nat) (only : Option Nat)
  /-- Into so many parts that take one line after the other in turn. -/
  | turns (count : Nat) (only : Option Nat)

namespace Splitting

/-- The splitting into parts that a text writes. -/
def ofParts (text : Bytes) : Except String Splitting := do
  let what := "invalid number of chunks"
  let (kind, rest) : Option Char × Bytes :=
    match text with
    | 'l' :: '/' :: r => (some 'l', r)
    | 'r' :: '/' :: r => (some 'r', r)
    | r => (none, r)
  let (only, count) : Option Bytes × Bytes :=
    match rest.splitOn '/' with
    | [only, count] => (some only, count)
    | _ => (none, rest)
  let count ← Amount.naturalIn "" 1 what count
  let only ← only.mapM fun text => do
    let n ← Amount.naturalIn "" 1 "invalid chunk number" text
    if count < n then .error ("invalid chunk number: " ++ Quoting.plain text) else .ok n
  match kind with
  | some 'l' => .ok (.lineParts count only)
  | some _ => .ok (.turns count only)
  | none => .ok (.parts count only)

/-- Bytes in whole lines, at most so many; a line that is too long is cut. -/
def inLines (size : Nat) : Nat → Bytes → List Bytes → List Bytes
  | 0, _, _ => []
  | _ + 1, part, [] => if part.isEmpty then [] else [part]
  | bound + 1, part, row :: rest =>
    if part.length + row.length ≤ size then inLines size bound (part ++ row) rest
    else if !part.isEmpty then part :: inLines size bound [] (row :: rest)
    else row.take size :: inLines size bound [] (row.drop size :: rest)

/-- The parts of a text. -/
def partsOf (x : Splitting) (mark : Char) (text : Bytes) : List Bytes :=
  let bound := text.length + 1
  -- the ends of so many parts of one size; the last one takes the rest
  let stops (count : Nat) : List Nat :=
    (List.range count).map fun i =>
      if i + 1 == count then text.length else (i + 1) * (text.length / count)
        + min (i + 1) (text.length % count)
  match x with
  | lines size => (Shell.partsOf size bound (linesBy mark text)).map List.flatten
  | bytes size => Shell.partsOf size bound text
  | lineBytes size => inLines size (2 * bound) [] (linesBy mark text)
  | parts count _ =>
    let stops := stops count
    (0 :: stops).zipWith (fun a b => (text.take b).drop a) stops
  | lineParts count _ =>
    -- a line belongs to the part in which it starts
    let step : Nat × List (Nat × Bytes) → Bytes → Nat × List (Nat × Bytes) :=
      fun (start, placed) row => (start + row.length, (start, row) :: placed)
    let (_, placed) := (linesBy mark text).foldl step (0, [])
    let stops := stops count
    (0 :: stops).zipWith (fun a b =>
      (placed.reverse.filter fun (start, _) => a ≤ start && start < b).flatMap Prod.snd) stops
  | turns count _ =>
    (List.range count).map fun i =>
      ((linesBy mark text).zipIdx.filter fun (_, n) => n % count == i).flatMap Prod.fst

/-- The number of the only part that is wanted. -/
def only? : Splitting → Option Nat
  | parts _ only => only
  | lineParts _ only => only
  | turns _ only => only
  | _ => none

end Splitting

/-- The digits of a number in an alphabet, at least so many. -/
def inAlphabet (alphabet : Bytes) (width : Nat) (n : Nat) : Bytes :=
  (List.range width).map fun i =>
    (alphabet[n / Nat.pow alphabet.length (width - 1 - i) % alphabet.length]?).getD 'a'

/-- The name of a part by its number; without a width of its own, names get longer as their
alphabet is used up. -/
def partName (alphabet : Bytes) (width : Option Nat) (n : Nat) : Option Bytes :=
  let size := alphabet.length
  match width with
  | some width => if n < Nat.pow size width then some (inAlphabet alphabet width n) else none
  | none =>
    -- the last letter in front says that two more letters follow
    let short := (size - 1) * size
    if n < short then some (inAlphabet alphabet 2 n)
    else
      let long := n - short
      if long < (size - 1) * Nat.pow size 2 then
        some ((alphabet.getLast?).toList ++ inAlphabet alphabet 3 long)
      else none

/-- Writes the parts of a text to files. -/
def split : Utility := fun args s =>
  let renewed := args.map fun arg =>
    match arg with
    | '-' :: c :: more => if (c :: more).all Char.isDigit then '-' :: 'l' :: c :: more else arg
    | arg => arg
  withOptions 1
    { flags := "edxuωz"
      valued := "aAbClnt"
      names := [("suffix-length", 'a'), ("additional-suffix", 'A'), ("bytes", 'b'),
        ("line-bytes", 'C'), ("lines", 'l'), ("number", 'n'), ("separator", 't'),
        ("elide-empty-files", 'e'), ("numeric-suffixes", 'δ'), ("hex-suffixes", 'ξ'),
        ("unbuffered", 'u'), ("verbose", 'ω')]
      loose := "δξ" } (atMost 2 1 fun call s =>
    let kinds := call.options.filter fun (c, _) => "bCln".toList.contains c
    let splitting : Except String Splitting :=
      match kinds with
      | [('b', text)] =>
        (Amount.naturalIn Amount.sizeLetters 1 "invalid number of bytes" text).map .bytes
      | [('C', text)] =>
        (Amount.naturalIn Amount.sizeLetters 1 "invalid number of bytes" text).map .lineBytes
      | [('l', text)] => (Amount.naturalIn "" 1 "invalid number of lines" text).map .lines
      | [(_, text)] => Splitting.ofParts text
      | _ => .ok (.lines 1000)
    let width : Except String (Option Nat) :=
      match call.value? 'a' with
      | none => .ok none
      | some text =>
        (Amount.naturalIn "" 0 "invalid suffix length" text).map fun (n : Nat) =>
          if n == 0 then none else some n
    let (alphabet, start) : String × Nat :=
      match call.last? "dxδξ" with
      | some ('d', _) => ("0123456789", 0)
      | some ('δ', text) => ("0123456789", (naturalOf text).getD 0)
      | some (_, text) => ("0123456789abcdef", (naturalOf text).getD 0)
      | none => ("abcdefghijklmnopqrstuvwxyz", 0)
    match splitting, width with
    | _, .error reason => s.report 1 reason
    | .error reason, _ => s.report 1 reason
    | .ok splitting, .ok width =>
      if 1 < kinds.length then misused 1 "cannot split in more than one way" s
      else
        let file := call.operands.headD ['-']
        let front := (call.operands[1]?).getD ['x']
        let mark := ((call.value? 't').bind List.head?).getD '\n'
        match fileText file s with
        | (.error fault, s) => s.report 1 ((Reports.opening 1).wording file fault)
        | (.ok text, s) =>
          let parts := splitting.partsOf mark text
          match splitting.only? with
          | some n => (s.emit 1 ((parts[n - 1]?).getD [])).withStatus 0
          | none =>
            let parts := if call.has 'e' then parts.filter fun part => !part.isEmpty else parts
            let saved (s : State) (part : Bytes) (n : Nat) : State :=
              if s.status != 0 then s
              else
                match partName alphabet.toList width (start + n) with
                | none => s.report 1 "output file suffixes exhausted"
                | some name =>
                  let path := front ++ name ++ (call.value? 'A').getD []
                  let s := if call.has 'ω' then
                    emitLines s ["creating file ".toList ++ (Quoting.always path).toList] else s
                  match saveText path part false s with
                  | .ok s => s
                  | .error fault => s.report 1 (Quoting.asNeeded path ++ ": " ++ reasonOf fault)
            parts.zipIdx.foldl (fun s (part, n) => saved s part n) (s.withStatus 0)) renewed s

/-! ### Blocks -/

/-- A copy in blocks, as operands with names ask for it. -/
structure BlockCopy where
  operands : List (String × Bytes)

namespace BlockCopy

/-- The letters of multiples in the numbers of blocks. -/
def letters : String := "bcEGkKMPQRTwYZB"

/-- The number that a text writes: a product of numbers. -/
def number (text : Bytes) : Option Nat :=
  ((text.splitOn 'x').mapM (Amount.natural? letters)).map fun factors =>
    factors.foldl (· * ·) 1

/-- The operands that there are, with the values that some of them can have. -/
def names : List (String × String × List String) :=
  [("if", "", []), ("of", "", []), ("bs", "", []), ("ibs", "", []), ("obs", "", []),
   ("cbs", "", []), ("count", "", []), ("skip", "", []), ("seek", "", []), ("iseek", "", []),
   ("oseek", "", []),
   ("conv", "conversion", ["block", "unblock", "lcase", "ucase", "sparse", "swab", "sync", "excl",
     "nocreat", "notrunc", "noerror", "fdatasync", "fsync"]),
   ("status", "status level", ["none", "noxfer", "progress"]),
   ("iflag", "input flag", ["append", "fullblock", "count_bytes", "skip_bytes", "nonblock"]),
   ("oflag", "output flag", ["append", "seek_bytes", "nonblock", "sync"])]

/-- Reads operands; or says what is wrong with one of them. -/
def read : List Bytes → Except (String × Bool) BlockCopy
  | [] => .ok ⟨[]⟩
  | arg :: rest => do
    let name := String.ofList (arg.takeWhile (· != '='))
    let value := arg.drop (name.length + 1)
    match if name.length == arg.length then none else names.lookup name with
    | none => .error ("unrecognized operand " ++ Quoting.plain arg, true)
    | some (what, values) =>
      let isNumber := !(["if", "of", "conv", "status", "iflag", "oflag"].contains name)
      let isSize := ["bs", "ibs", "obs", "cbs"].contains name
      let unknown := (value.splitOn ',').find? fun v => !values.contains (String.ofList v)
      if isNumber && (number value).all fun n => n == 0 && isSize then
        .error ("invalid number: " ++ Quoting.plain value, false)
      else if !values.isEmpty && unknown.isSome then
        .error ("invalid " ++ what ++ ": " ++ Quoting.plain (unknown.getD []), true)
      else
        let copy ← read rest
        .ok ⟨copy.operands ++ [(name, value)]⟩

/-- The number of an operand. -/
def number? (x : BlockCopy) (name : String) : Option Nat := (x.operands.lookup name).bind number

/-- The size of the blocks on one side. -/
def size (x : BlockCopy) (side : String) : Nat :=
  max ((x.number? "bs" <|> x.number? side).getD 512) 1

/-- A value is among those of an operand. -/
def asks (x : BlockCopy) (name value : String) : Bool :=
  (((x.operands.lookup name).getD []).splitOn ',').contains value.toList

/-- How many bytes a number of blocks is, which a flag or a letter makes a number of bytes. -/
def bytesFor (x : BlockCopy) (n : Nat) (flag : String) (value : Option Bytes) : Nat :=
  let byBytes := x.asks "iflag" flag || value.any fun v => v.getLast? == some 'B'
  if byBytes then n else n * x.size "ibs"

/-- How much of a text is in front of what is copied. -/
def start (x : BlockCopy) : Nat :=
  let skip := (x.number? "skip" <|> x.number? "iseek").getD 0
  x.bytesFor skip "skip_bytes" (x.operands.lookup "skip")

/-- How much of a text there is up to the end of what is copied. -/
def reach (x : BlockCopy) (text : Bytes) : Nat :=
  match x.number? "count" with
  | some n => x.start + x.bytesFor n "count_bytes" (x.operands.lookup "count")
  | none => text.length

/-- The bytes that are copied. -/
def taken (x : BlockCopy) (text : Bytes) : Bytes := (text.take (x.reach text)).drop x.start

/-- A text with its bytes changed two by two. -/
def swapped : Bytes → Bytes
  | a :: b :: rest => b :: a :: swapped rest
  | rest => rest

/-- The bytes after the conversions, and how many lines have been cut. -/
def converted (x : BlockCopy) (text : Bytes) : Bytes × Nat :=
  let size := x.size "ibs"
  let text :=
    if x.asks "conv" "sync" then
      let missing := (size - text.length % size) % size
      text ++ List.replicate missing (if x.asks "conv" "block" then ' ' else '\x00')
    else text
  let text := if x.asks "conv" "swab" then swapped text else text
  let text :=
    if x.asks "conv" "ucase" then text.map Char.toUpper
    else if x.asks "conv" "lcase" then text.map Char.toLower
    else text
  match x.number? "cbs" with
  | none => (text, 0)
  | some width =>
    if x.asks "conv" "block" then
      let rows := rowsOf text
      (rows.flatMap fun row => row.take width ++ List.replicate (width - row.length) ' ',
        (rows.filter fun row => width < row.length).length)
    else if x.asks "conv" "unblock" then
      ((partsOf width (text.length + 1) text).flatMap fun row =>
        (row.reverse.dropWhile (· == ' ')).reverse ++ ['\n'], 0)
    else (text, 0)

/-- How many blocks so many bytes are: whole ones and others. -/
def blocks (size count : Nat) : String :=
  toString (count / size) ++ (if count % size == 0 then "+0" else "+1")

/-- What is said about a copy of so many bytes to so many others. -/
def summary (x : BlockCopy) (read written cut : Nat) : String :=
  let out := if (x.operands.lookup "bs").isSome then x.size "ibs" else x.size "obs"
  let truncated :=
    match cut with
    | 0 => ""
    | 1 => "1 truncated record\n"
    | n => toString n ++ " truncated records\n"
  let rows := blocks (x.size "ibs") read ++ " records in\n" ++ blocks out written
    ++ " records out\n" ++ truncated
  match (x.operands.lookup "status").map String.ofList with
  | some "none" => ""
  | some "noxfer" => rows
  | _ => rows ++ toString written ++ " bytes copied, 0 s, 0 B/s\n"

/-- Copies the input, or a file, to the output or into a file. -/
def run (x : BlockCopy) (s : State) : State :=
  let failure (file : Bytes) (fault : Fault) (s : State) : State :=
    s.report 1 ("failed to open " ++ Quoting.always file ++ ": " ++ reasonOf fault)
  let (read, s) : Except Fault Bytes × State :=
    match x.operands.lookup "if" with
    | some file => fileText file s
    | none =>
      let all := s.input
      let left := if (x.number? "count").isSome then all.drop (x.reach all) else []
      (.ok all, { s with input := left })
  match read with
  | .error fault => failure ((x.operands.lookup "if").getD []) fault s
  | .ok text =>
    let taken := x.taken text
    let (bytes, cut) := x.converted taken
    let said (s : State) : State :=
      (s.emit 2 (ofText (x.summary taken.length bytes.length cut))).withStatus 0
    match x.operands.lookup "of" with
    | none => said (s.emit 1 bytes)
    | some file =>
      let old : Bytes :=
        match s.disk.read (pathOf file) with
        | .ok old => ofByteArray old
        | .error _ => []
      let seek := (x.number? "seek" <|> x.number? "oseek").getD 0
      let start := if x.asks "oflag" "append" then old.length else seek * x.size "obs"
      let front := old.take start ++ List.replicate (start - old.length) '\x00'
      let behind :=
        if x.asks "conv" "notrunc" || x.asks "oflag" "append" then old.drop (start + bytes.length)
        else []
      match saveText file (front ++ bytes ++ behind) false s with
      | .ok s => said s
      | .error fault => failure file fault s

end BlockCopy

/-- Copies in blocks. -/
def dd : Utility := fun args s =>
  match BlockCopy.read args with
  | .ok copy => copy.run s
  | .error (reason, true) => misused 1 reason s
  | .error (reason, false) => s.report 1 reason

/-- The utilities that write parts of texts. -/
def extractUtilities : Utilities := [("head", head), ("tail", tail), ("split", split), ("dd", dd)]

end MojoToolchain.Shell
