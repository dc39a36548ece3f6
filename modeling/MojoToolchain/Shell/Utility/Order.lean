import MojoToolchain.Shell.Utility.Amount
import MojoToolchain.Shell.Utility.Collation

/-!
# Order

The utility that puts lines in order, that merges lines that are in order, and that says whether
they are.
-/

namespace MojoToolchain.Shell

/-! ### Keys -/

/-- A place in a line: behind so many fields, behind the blanks there, and behind so many
characters. -/
structure KeyPlace where
  fields : Nat
  chars : Nat
  skipsBlanks : Bool

namespace KeyPlace

/-- A line without its first fields and the mark behind each, or the blanks in front of each. -/
def behindFields (mark : Option Char) : Nat → Bytes → Bytes
  | 0, row => row
  | _ + 1, [] => []
  | n + 1, row =>
    match mark with
    | some mark => behindFields (some mark) n ((row.dropWhile (· != mark)).drop 1)
    | none => behindFields none n ((withoutGap row).dropWhile fun c => !isFieldGap c)

/-- How much of a line stands in front of a place. -/
def start (x : KeyPlace) (mark : Option Char) (row : Bytes) : Nat :=
  let rest := behindFields mark x.fields row
  let rest := if x.skipsBlanks then withoutGap rest else rest
  row.length - (rest.drop x.chars).length

/-- How much of a line stands in front of a place at which a key ends; without characters that is
the end of the next field. -/
def stop (x : KeyPlace) (mark : Option Char) (row : Bytes) : Nat :=
  if x.chars != 0 then x.start mark row
  else
    let rest :=
      match mark with
      | some c => (behindFields mark x.fields row).dropWhile (· != c)
      | none => behindFields mark (x.fields + 1) row
    row.length - rest.length

end KeyPlace

/-- A key: the part of a line from one place to another or to the end, and the letters that say how
it is compared. -/
structure SortKey where
  first : KeyPlace
  last : Option KeyPlace
  letters : Bytes

namespace SortKey

/-- The letters that say how keys are compared. -/
def orderLetters : Bytes := "dfghiMnRrV".toList

/-- Reads a number in a key. -/
def readCount (what : String) (text : Bytes) : Except String (Nat × Bytes) :=
  let digits := text.takeWhile Char.isDigit
  match naturalOf digits with
  | some n => .ok (n, text.drop digits.length)
  | none => .error (what ++ ": invalid count at start of " ++ Quoting.plain text)

/-- Reads a number of characters behind a point, if there is one. -/
def readChars (text : Bytes) : Except String (Option Nat × Bytes) :=
  match text with
  | '.' :: r => (readCount "invalid number after '.'" r).map fun (n, rest) => (some n, rest)
  | text => .ok (none, text)

/-- What is wrong with a key. -/
def wrong (text : Bytes) (what : String) : String :=
  what ++ ": invalid field specification " ++ Quoting.plain text

/-- Reads a key. -/
def read (text : Bytes) : Except String SortKey := do
  let isLetter (c : Char) : Bool := c == 'b' || orderLetters.contains c
  let (field, rest) ← readCount "invalid number at field start" text
  if field == 0 then .error (wrong text "field number is zero")
  let (char, rest) ← readChars rest
  if char == some 0 then .error (wrong text "character offset is zero")
  let letters := rest.takeWhile isLetter
  let rest := rest.drop letters.length
  let first : KeyPlace := ⟨field - 1, char.getD 1 - 1, letters.contains 'b'⟩
  match rest with
  | ',' :: r =>
    let (field, rest) ← readCount "invalid number after ','" r
    if field == 0 then .error (wrong text "field number is zero")
    let (char, rest) ← readChars rest
    let more := rest.takeWhile isLetter
    if more.length < rest.length then .error (wrong text "stray character in field spec")
    return ⟨first, some ⟨field - 1, char.getD 0, more.contains 'b'⟩,
      (letters ++ more).filter (· != 'b')⟩
  | [] => return ⟨first, none, letters.filter (· != 'b')⟩
  | _ => .error (wrong text "stray character in field spec")

/-- The whole line as a key. -/
def whole (letters : Bytes) : SortKey :=
  ⟨⟨0, 0, letters.contains 'b'⟩, none, letters.filter (· != 'b')⟩

/-- A key that does not say how it is compared is compared like others. -/
def inherit (letters : Bytes) (x : SortKey) : SortKey :=
  let skips := x.first.skipsBlanks || x.last.any KeyPlace.skipsBlanks
  if skips || !x.letters.isEmpty then x
  else
    let blanks := letters.contains 'b'
    ⟨{ x.first with skipsBlanks := blanks },
      x.last.map fun last => { last with skipsBlanks := blanks }, letters.filter (· != 'b')⟩

/-- The part of a line that a key stands for. -/
def part (x : SortKey) (mark : Option Char) (row : Bytes) : Bytes :=
  let stop := x.last.elim row.length fun last => last.stop mark row
  (row.take stop).drop (x.first.start mark row)

end SortKey

/-! ### The order of lines -/

/-- What a call asks for. -/
structure Sorting where
  /-- The letters that say how lines are compared. -/
  letters : Bytes
  keys : List SortKey
  mark : Option Char
  output : Option Bytes
  /-- The letter that asks whether lines are in order. -/
  check : Option Char

namespace Sorting

/-- Compares lines by their keys. -/
def byKeys (x : Sorting) (a b : Bytes) : Ordering :=
  x.keys.foldl (fun order key => order.then
    ((Collation.ofLetters key.letters).order (key.part x.mark a) (key.part x.mark b))) .eq

/-- Compares lines: by their keys, and then as a whole unless the keys alone count. -/
def order (x : Sorting) (keysOnly : Bool) (a b : Bytes) : Ordering :=
  let last := if x.letters.contains 'r' then (compare a b).swap else compare a b
  if x.keys.isEmpty then last
  else if keysOnly then x.byKeys a b
  else (x.byKeys a b).then last

/-- The words for ways to compare, with their letters. -/
def kinds : List (String × Char) :=
  [("general-numeric", 'g'), ("human-numeric", 'h'), ("month", 'M'), ("numeric", 'n'),
   ("random", 'R'), ("version", 'V')]

/-- One more option; an error says how it goes on and what is wrong. -/
def add (x : Sorting) (letter : Char) (value : Bytes) : Except (Bool × String) Sorting :=
  let plainly {α : Type} (reason : String) : Except (Bool × String) α := .error (false, reason)
  let checked (c : Char) : Except (Bool × String) Sorting :=
    if x.check.any (· != c) then plainly "options '-cC' are incompatible"
    else .ok { x with check := some c }
  match letter with
  | 'k' => (SortKey.read value).mapError (false, ·) |>.map fun key =>
    { x with keys := x.keys ++ [key] }
  | 't' =>
    match value with
    | [] => plainly "empty tab"
    | first :: more =>
      let mark := if value == ['\\', '0'] then '\x00' else first
      if !more.isEmpty && value != ['\\', '0'] then
        plainly ("multi-character tab " ++ Quoting.plain value)
      else if x.mark.any (· != mark) then plainly "incompatible tabs"
      else .ok { x with mark := some mark }
  | 'o' =>
    if x.output.any (· != value) then plainly "multiple output files specified"
    else .ok { x with output := some value }
  | 'S' =>
    let digits := value.takeWhile Char.isDigit
    let rest := value.drop digits.length
    if digits.isEmpty then plainly ("invalid -S argument " ++ Quoting.plain value)
    else if rest == ['%'] || (Amount.multipleOf "bEgGkKmMPQRtTYZ" rest).isSome then .ok x
    else plainly ("invalid suffix in -S argument " ++ Quoting.plain value)
  | 'π' =>
    match naturalOf value with
    | none => plainly ("invalid --parallel argument " ++ Quoting.plain value)
    | some 0 => plainly "number in parallel must be nonzero"
    | some _ => .ok x
  | 'c' => checked 'c'
  | 'C' => checked 'C'
  | 'λ' =>
    if value.isEmpty then checked 'c'
    else
      match chooseAmong "--check" [["quiet", "silent"], ["diagnose-first"]] value with
      | .error reason => .error (true, reason)
      | .ok word => checked (if word == "quiet" then 'C' else 'c')
  | 'σ' =>
    match choose "--sort" (kinds.map Prod.fst) value with
    | .error reason => .error (true, reason)
    | .ok word => .ok { x with letters := x.letters ++ (kinds.lookup word).toList }
  | c =>
    if c == 'b' || SortKey.orderLetters.contains c then .ok { x with letters := x.letters ++ [c] }
    else .ok x

/-- What a call asks for; an error says how it goes on and what is wrong. -/
def ofCall (call : Call) : Except (Bool × String) Sorting := do
  let start : Sorting := ⟨[], [], none, none, none⟩
  let x ← call.options.foldlM (fun x (c, value) => x.add c value) start
  let keys := x.keys.map (SortKey.inherit x.letters)
  let isOwn := x.letters.any (· != 'r')
  let keys := if keys.isEmpty && isOwn then [SortKey.whole x.letters] else keys
  match keys.findSome? fun key => Collation.conflict? key.letters, x.check with
  | some letters, _ =>
    .error (false, "options '-" ++ String.ofList letters ++ "' are incompatible")
  | none, none => return { x with keys := keys }
  | none, some c =>
    match call.operands, x.output with
    | _ :: extra :: _, _ =>
      .error (false, "extra operand " ++ Quoting.always extra ++ " not allowed with -"
        ++ String.ofList [c])
    | _, some _ => .error (false, "options '-" ++ String.ofList [c, 'o'] ++ "' are incompatible")
    | _, none => return { x with keys := keys }

end Sorting

/-- Lines without those that are like the one before. -/
def withoutRepeats (same : Bytes → Bytes → Bool) : List Bytes → List Bytes
  | [] => []
  | a :: rest => a :: withoutRepeats same (rest.dropWhile (same a))
termination_by rows => rows.length
decreasing_by
  have := (List.dropWhile_suffix (same a) (l := rest)).length_le
  simp only [List.length_cons]
  omega

/-- Says whether the lines of a file are in order. -/
def checkOrder (x : Sorting) (call : Call) (letter : Char) (file : Bytes) (s : State) : State :=
  match fileText file s with
  | (.error fault, s) =>
    let front := if fault == .isDirectory then "read failed: " else "open failed: "
    s.report 2 (front ++ Quoting.asNeeded file ++ ": " ++ reasonOf fault)
  | (.ok text, s) =>
    let rows := rowsBy call.endMark text
    let inOrder (a b : Bytes) : Bool :=
      match x.order (call.has 's' || call.has 'u') a b with
      | .lt => true
      | .eq => !call.has 'u'
      | .gt => false
    match (rows.zip (rows.drop 1)).zipIdx.find? fun ((a, b), _) => !inOrder a b with
    | none => s.withStatus 0
    | some ((_, b), i) =>
      if letter == 'C' then s.withStatus 1
      else
        s.report 1 (String.ofList file ++ ":" ++ toString (i + 2) ++ ": disorder: "
          ++ String.ofList b)

/-- A file among others that is not there. -/
def missingAmong (files : List Bytes) (s : State) : Option (Bytes × Host.Fault) :=
  files.findSome? fun file =>
    match (fileText file s).1 with
    | .error .isDirectory => none
    | .error fault => some (file, fault)
    | .ok _ => none

/-- Writes the lines of files in order, or merges them, to the output or to a file. -/
def writeOrdered (x : Sorting) (call : Call) (files : List Bytes) (s : State) : State :=
  let fails (what : String) (file : Bytes) (fault : Host.Fault) (s : State) : State :=
    s.report 2 (what ++ ": " ++ Quoting.asNeeded file ++ ": " ++ reasonOf fault)
  let mark := call.endMark
  let order := x.order (call.has 's' || call.has 'u')
  let before (a b : Bytes) : Bool := order a b != .gt
  match missingAmong files s, x.output.elim (.ok s) fun file => saveText file [] true s with
  | some (file, fault), _ => fails "cannot read" file fault s
  | none, .error fault => fails "open failed" (x.output.getD []) fault s
  | none, .ok s =>
    let (texts, s) := textsOf
      ⟨2, fun file fault => "read failed: " ++ Quoting.asNeeded file ++ ": " ++ reasonOf fault⟩
      files s
    if texts.length < files.length then s
    else
      let texts := texts.map fun (_, text) => rowsBy mark text
      let rows :=
        if call.has 'm' then texts.foldl (fun rows text => List.merge rows text before) []
        else texts.flatten.mergeSort before
      let rows := if call.has 'u' then withoutRepeats (fun a b => order a b == .eq) rows else rows
      match x.output with
      | none => emitRows mark s rows
      | some file =>
        match saveText file (rows.flatMap (· ++ [mark])) false s with
        | .ok s => s
        | .error fault => fails "open failed" file fault s

/-- A key in the old way, `+1.2`, in the new one, and the same for the place where it ends. -/
def keyOfPlace (ends : Bool) (text : Bytes) : Option Bytes := do
  let field := text.takeWhile Char.isDigit
  let rest := text.drop field.length
  let char := if rest.head? == some '.' then (rest.drop 1).takeWhile Char.isDigit else []
  let letters := if rest.head? == some '.' then rest.drop (char.length + 1) else rest
  let field ← naturalOf field
  let char := (naturalOf char).getD 0
  if letters.any fun c => !(c == 'b' || SortKey.orderLetters.contains c) then none
  else
    let digits (n : Nat) : Bytes := Nat.toDigits 10 n
    if !ends then some (digits (field + 1) ++ '.' :: digits (char + 1) ++ letters)
    else if char == 0 then some (digits (max field 1) ++ letters)
    else some (digits (field + 1) ++ '.' :: digits char ++ letters)

/-- Arguments with their keys in the new way. -/
def withKeys : List Bytes → List Bytes
  | [] => []
  | ['-', '-'] :: rest => ['-', '-'] :: rest
  | ('+' :: text) :: rest =>
    match keyOfPlace false text, rest with
    | some first, ('-' :: c :: more) :: others =>
      match if c.isDigit then keyOfPlace true (c :: more) else none with
      | some last => ('-' :: 'k' :: first ++ ',' :: last) :: withKeys others
      | none => ('-' :: 'k' :: first) :: withKeys (('-' :: c :: more) :: others)
    | some first, rest => ('-' :: 'k' :: first) :: withKeys rest
    | none, rest => ('+' :: text) :: withKeys rest
  | arg :: rest => arg :: withKeys rest
termination_by args => args.length

/-- Writes lines in order. -/
def sort : Utility := fun args =>
  withOptions 2
    { flags := "bcCdfghiMmnRrsuVz"
      valued := "koStTπσβρζ"
      names := [("ignore-leading-blanks", 'b'), ("dictionary-order", 'd'), ("ignore-case", 'f'),
        ("general-numeric-sort", 'g'), ("human-numeric-sort", 'h'), ("ignore-nonprinting", 'i'),
        ("month-sort", 'M'), ("merge", 'm'), ("numeric-sort", 'n'), ("random-sort", 'R'),
        ("reverse", 'r'), ("stable", 's'), ("unique", 'u'), ("version-sort", 'V'),
        ("zero-terminated", 'z'), ("key", 'k'), ("output", 'o'), ("buffer-size", 'S'),
        ("field-separator", 't'), ("temporary-directory", 'T'), ("parallel", 'π'), ("sort", 'σ'),
        ("check", 'λ'), ("batch-size", 'β'), ("random-source", 'ρ'), ("compress-program", 'ζ')]
      loose := "λ" }
    (fun call s =>
      let files := if call.operands.isEmpty then [['-']] else call.operands
      match Sorting.ofCall call with
      | .error (false, reason) => s.report 2 reason
      | .error (true, reason) => misused 1 reason s
      | .ok x =>
        match x.check with
        | some letter => checkOrder x call letter (files.headD ['-']) s
        | none => writeOrdered x call files s) (withKeys args)

/-- The utilities that put lines in order. -/
def orderUtilities : Utilities := [("sort", sort)]

end MojoToolchain.Shell
