import MojoToolchain.Shell.Editing.Script

/-!
# Reading editing scripts

`Editing.read` reads a script.  Where it makes no sense, the reader says why and what is left of the
script there.
-/

namespace MojoToolchain.Shell.Editing

/-- What is read; or why there is nothing, and what is left of the script there. -/
abbrev Reading := Except (String × Bytes)

/-! ### Texts with marks -/

/-- Drops spaces and tabs. -/
def skipBlank (s : Bytes) : Bytes := s.dropWhile fun c => c == ' ' || c == '\t'

/-- White space. -/
def isSpace (c : Char) : Bool := c == ' ' || ('\t' ≤ c && c ≤ '\r')

/-- The end of a set of characters behind its opening bracket: what belongs to it, and the rest. -/
def splitSet (s : Bytes) : Option (Bytes × Bytes) :=
  (CharSet.read false ['^'] s).map fun (_, rest) => (s.take (s.length - rest.length), rest)

/-- Reads an expression up to a mark.  A backslash in front of the mark is dropped, and a mark in a
set of characters does not count. -/
def readPattern (mark : Char) : Nat → Bytes → Except Bytes (Bytes × Bytes)
  | 0, s => .error s
  | _ + 1, [] => .error []
  | _ + 1, ['\\'] => .error []
  | bound + 1, '\\' :: c :: r => do
    let (text, rest) ← readPattern mark bound r
    if c == mark then .ok (c :: text, rest)
    else if c == '\n' then .ok ('\n' :: text, rest)
    else .ok ('\\' :: c :: text, rest)
  | bound + 1, c :: r =>
    if c == mark then .ok ([], r)
    else if c == '\n' then .error (c :: r)
    else if c == '[' then
      match splitSet (r.takeWhile (· != '\n')) with
      | some (members, _) => do
        let (text, rest) ← readPattern mark bound (r.drop members.length)
        .ok ('[' :: members ++ text, rest)
      | none => .error (r.dropWhile (· != '\n'))
    else do
      let (text, rest) ← readPattern mark bound r
      .ok (c :: text, rest)

/-- Reads a text up to a mark.  A backslash in front of the mark is dropped. -/
def readText (mark : Char) : Bytes → Except Bytes (Bytes × Bytes)
  | [] => .error []
  | ['\\'] => .error []
  | '\\' :: c :: r => do
    let (text, rest) ← readText mark r
    if c == mark && c != '&' then .ok (c :: text, rest) else .ok ('\\' :: c :: text, rest)
  | c :: r =>
    if c == mark then .ok ([], r)
    else if c == '\n' then .error (c :: r)
    else do
      let (text, rest) ← readText mark r
      .ok (c :: text, rest)

/-! ### Escapes -/

/-- The number that digits of a base stand for, at most so many of them. -/
def readCode (base most : Nat) (s : Bytes) : Option (Char × Bytes) :=
  let value (c : Char) : Nat :=
    if c.isDigit then c.toNat - 48
    else if c.isAlpha then c.toLower.toNat - 87
    else 36
  let digits := (s.take most).takeWhile fun c => value c < base
  if digits.isEmpty then none
  else
    let n := digits.foldl (fun n c => base * n + value c) 0
    some (Char.ofNat (n % 256), s.drop digits.length)

/-- The character that an escape stands for, behind its backslash. -/
def readEscape : Bytes → Option (Char × Bytes)
  | 'a' :: r => some ('\x07', r)
  | 'f' :: r => some ('\x0c', r)
  | 'n' :: r => some ('\n', r)
  | 'r' :: r => some ('\r', r)
  | 't' :: r => some ('\t', r)
  | 'v' :: r => some ('\x0b', r)
  | 'c' :: c :: r => some (Char.ofNat (c.toUpper.toNat ^^^ 64), r)
  | 'd' :: r => readCode 10 3 r
  | 'o' :: r => readCode 8 3 r
  | 'x' :: r => readCode 16 2 r
  | _ => none

/-- The text of an expression with its escapes replaced. -/
def plainPattern : Nat → Bytes → Bytes
  | 0, _ => []
  | _ + 1, [] => []
  | bound + 1, '\\' :: c :: r =>
    match readEscape (c :: r) with
    | some (d, rest) =>
      let special := (c == 'd' || c == 'o' || c == 'x') && "$*.[\\]^".toList.contains d
      (if special then ['\\', d] else [d]) ++ plainPattern bound rest
    | none => '\\' :: c :: plainPattern bound r
  | bound + 1, c :: r => c :: plainPattern bound r

/-- The pieces of what is put in place of a part. -/
def readPieces : Nat → Bytes → List Piece
  | 0, _ => []
  | _ + 1, [] => []
  | bound + 1, '&' :: r => .group 0 :: readPieces bound r
  | bound + 1, '\\' :: c :: r =>
    match c with
    | 'U' => .casing (some .upper) :: readPieces bound r
    | 'L' => .casing (some .lower) :: readPieces bound r
    | 'E' => .casing none :: readPieces bound r
    | 'u' => .casingOnce .upper :: readPieces bound r
    | 'l' => .casingOnce .lower :: readPieces bound r
    | c =>
      if c.isDigit then .group (c.toNat - 48) :: readPieces bound r
      else
        match readEscape (c :: r) with
        | some (d, rest) => .char d :: readPieces bound rest
        | none => .char c :: readPieces bound r
  | bound + 1, c :: r => .char c :: readPieces bound r

/-- The characters that are replaced one by one. -/
def readLetters : Nat → Bytes → Bytes
  | 0, _ => []
  | _ + 1, [] => []
  | bound + 1, '\\' :: c :: r =>
    match readEscape (c :: r) with
    | some (d, rest) => d :: readLetters bound rest
    | none => c :: readLetters bound r
  | bound + 1, c :: r => c :: readLetters bound r

/-! ### Finders and addresses -/

/-- What a finder is made of; nothing stands for what was looked for last.  The flags are those
behind it. -/
def finderOf (extended : Bool) (pattern flags : Bytes) : Except String (Option Finder) := do
  let ignoring := flags.contains 'i' || flags.contains 'I'
  let byLines := flags.contains 'm' || flags.contains 'M'
  if pattern.isEmpty then
    if ignoring || byLines then .error "cannot specify modifiers on empty regexp" else .ok none
  else
    let text := plainPattern (pattern.length + 1) pattern
    let (e, groups) ← Expression.parse (Expression.form extended) text
    .ok (some ⟨e, groups, { Expression.manner ignoring with byLines := byLines }⟩)

/-- Reads digits, and spaces behind them. -/
def readNumber (s : Bytes) : Nat × Bytes :=
  let digits := s.takeWhile Char.isDigit
  (Expression.numberFrom digits, s.drop digits.length)

/-- Reads an address that looks for an expression, behind its mark. -/
def readFound (extended : Bool) (mark : Char) (s : Bytes) : Reading (Address × Bytes) :=
  match readPattern mark (s.length + 1) s with
  | .error rest => .error ("unterminated address regex", rest)
  | .ok (pattern, r) =>
    let flags := r.takeWhile fun c => c == 'I' || c == 'M'
    let r := r.drop flags.length
    match finderOf extended pattern flags with
    | .ok finder => .ok (.found finder, r)
    | .error reason => .error (reason, r.drop 1)

/-- Reads an address if there is one. -/
def readAddress? (extended : Bool) (s : Bytes) : Reading (Option (Address × Bytes)) :=
  match s with
  | '$' :: r => .ok (some (.last, r))
  | '/' :: r => return some (← readFound extended '/' r)
  | '\\' :: mark :: r => return some (← readFound extended mark r)
  | c :: r =>
    if c.isDigit then
      let (n, rest) := readNumber (c :: r)
      match skipBlank rest with
      | '~' :: more =>
        let (step, rest) := readNumber (skipBlank more)
        .ok (some (if step == 0 then .line n else .every n step, rest))
      | _ => .ok (some (.line n, rest))
    else .ok none
  | [] => .ok none

/-- Reads where lines end that begin at an address. -/
def readUntil (extended : Bool) (s : Bytes) : Reading (Until × Bytes) :=
  match s with
  | '+' :: c :: r =>
    if c.isDigit then
      let (n, rest) := readNumber (c :: r)
      .ok (.further n, rest)
    else .error ("expected number", c :: r)
  | '~' :: c :: r =>
    if c.isDigit then
      let (n, rest) := readNumber (c :: r)
      .ok (.multiple n, rest)
    else .error ("expected number", c :: r)
  | s => do
    match ← readAddress? extended s with
    | some (a, rest) => .ok (.address a, rest)
    | none => .error ("unexpected `,'", s.drop 1)

/-- An address is the number zero. -/
def isZero : Address → Bool
  | .line 0 => true
  | _ => false

/-- Reads the lines to which a command is done. -/
def readReach (extended : Bool) (s : Bytes) : Reading (Reach × Bytes) := do
  match s with
  | '+' :: r => .error ("invalid usage of +N or ~N as first address", r.dropWhile Char.isDigit)
  | '~' :: r => .error ("invalid usage of +N or ~N as first address", r.dropWhile Char.isDigit)
  | s =>
    match ← readAddress? extended s with
    | none => .ok (.all, s)
    | some (a, rest) =>
      match skipBlank rest with
      | ',' :: r => do
        let (end_, rest) ← readUntil extended (skipBlank r)
        match isZero a, end_ with
        | true, .address (.found _) => .ok (.from a end_, skipBlank rest)
        | true, _ => .error ("invalid usage of line address 0", (skipBlank rest).drop 1)
        | false, _ => .ok (.from a end_, skipBlank rest)
      | rest =>
        if isZero a then .error ("invalid usage of line address 0", rest.drop 1)
        else .ok (.at a, rest)

/-! ### Commands -/

/-- The end of a command: spaces, and then a separator, a closing brace, a comment or nothing. -/
def endCommand (s : Bytes) : Reading Bytes :=
  match skipBlank s with
  | [] => .ok []
  | c :: r =>
    if c == '\n' || c == ';' then .ok r
    else if c == '\x7d' || c == '#' then .ok (c :: r)
    else .error ("extra characters after command", r)

/-- The text of a command, up to the end of its line; a backslash joins the next line to it. -/
def readLines : Nat → Bytes → Bytes × Bytes
  | 0, s => ([], s)
  | _ + 1, [] => ([], [])
  | _ + 1, '\n' :: r => ([], r)
  | _ + 1, ['\\'] => ([], [])
  | bound + 1, '\\' :: c :: r =>
    let (d, rest) := (readEscape (c :: r)).getD (c, r)
    let (text, rest) := readLines bound rest
    (d :: text, rest)
  | bound + 1, c :: r =>
    let (text, rest) := readLines bound r
    (c :: text, rest)

/-- Reads the text of a command that brings in lines. -/
def readBrought (s : Bytes) : Reading (Bytes × Bytes) :=
  match skipBlank s with
  | [] => .error ("expected \\ after `a', `c' or `i'", [])
  | '\n' :: r => .error ("expected \\ after `a', `c' or `i'", '\n' :: r)
  | '\\' :: r =>
    if r.isEmpty then .ok ([], [])
    else
      let r :=
        match skipBlank r with
        | '\n' :: more => more
        | _ => r
      let (text, rest) := readLines (r.length + 1) r
      .ok (text ++ ['\n'], rest)
  | s =>
    let (text, rest) := readLines (s.length + 1) s
    .ok (text ++ ['\n'], rest)

/-- Reads the name of a file, up to the end of its line. -/
def readName (s : Bytes) : Reading (Bytes × Bytes) :=
  let s := skipBlank s
  let name := s.takeWhile (· != '\n')
  if name.isEmpty then .error ("missing filename in r/R/w/W commands", s)
  else .ok (name, s.drop (name.length + 1))

/-- Reads a label. -/
def readLabel (s : Bytes) : Bytes × Bytes :=
  let s := skipBlank s
  let label := s.takeWhile fun c => !isSpace c && c != ';' && c != '\x7d'
  (label, s.drop label.length)

/-- Reads the flags behind what is put in place of a part, and the name of a file that they may
end with. -/
def readFlags : Nat → Bytes → Option Nat → Bytes →
    Reading (Bytes × Option Nat × Option Bytes × Bytes)
  | 0, seen, nth, s => .ok (seen, nth, none, s)
  | _ + 1, seen, nth, [] => .ok (seen, nth, none, [])
  | bound + 1, seen, nth, c :: r =>
    if c == '\n' || c == ';' then .ok (seen, nth, none, r)
    else if c == '\x7d' || c == '#' then .ok (seen, nth, none, c :: r)
    else if c == 'w' then do
      let (name, rest) ← readName r
      .ok (seen, nth, some name, rest)
    else if c == 'g' || c == 'p' then
      if seen.contains c then
        .error ("multiple `" ++ String.ofList [c] ++ "' options to `s' command", r)
      else readFlags bound (c :: seen) nth r
    else if "iImM".toList.contains c then readFlags bound (c :: seen) nth r
    else if c.isDigit then
      let (n, rest) := readNumber (c :: r)
      if n == 0 then .error ("number option to `s' command may not be zero", rest)
      else if nth.isSome then .error ("multiple number options to `s' command", rest)
      else readFlags bound seen (some n) rest
    else if c == ' ' || c == '\r' then readFlags bound seen nth r
    else .error ("unknown option to `s'", r)

/-- The greatest number of a group that pieces ask for. -/
def greatestGroup (pieces : List Piece) : Nat :=
  pieces.foldl (fun n p =>
    match p with
    | .group m => max n m
    | _ => n) 0

/-- Reads how parts are replaced, behind the letter of the command. -/
def readReplacing (extended : Bool) (s : Bytes) : Reading (Replacing × Bytes) :=
  let open_ (rest : Bytes) : String × Bytes := ("unterminated `s' command", rest)
  match s with
  | [] => .error (open_ [])
  | mark :: r =>
    match readPattern mark (r.length + 1) r with
    | .error rest => .error (open_ rest)
    | .ok (pattern, r) =>
      match readReplacementText mark (r.length + 1) r with
      | .error rest => .error (open_ rest)
      | .ok (text, r) => do
        let (flags, nth, file, rest) ← readFlags (r.length + 1) [] none r
        match finderOf extended pattern flags with
        | .error reason => .error (reason, rest)
        | .ok finder =>
          let pieces := readPieces (text.length + 1) text
          let greatest := greatestGroup pieces
          if finder.any fun f => f.groups < greatest then
            .error ("invalid reference \\" ++ toString greatest ++ " on `s' command's RHS", rest)
          else
            .ok (⟨finder, pieces, nth.getD 1, flags.contains 'g', flags.contains 'p', file⟩, rest)
where
  /-- Reads what is put in place of a part; a backslash lets a line feed stand in it. -/
  readReplacementText (mark : Char) : Nat → Bytes → Except Bytes (Bytes × Bytes)
    | 0, s => .error s
    | _ + 1, [] => .error []
    | _ + 1, ['\\'] => .error []
    | bound + 1, '\\' :: c :: r => do
      let (text, rest) ← readReplacementText mark bound r
      if c == mark then .ok ((if c == '&' then ['\\', c] else [c]) ++ text, rest)
      else .ok ('\\' :: c :: text, rest)
    | bound + 1, c :: r =>
      if c == mark then .ok ([], r)
      else if c == '\n' then .error (c :: r)
      else do
        let (text, rest) ← readReplacementText mark bound r
        .ok (c :: text, rest)

/-- Reads which characters are replaced by others, behind the letter of the command. -/
def readReplacedLetters (s : Bytes) : Reading (List (Char × Char) × Bytes) :=
  let open_ (rest : Bytes) : String × Bytes := ("unterminated `y' command", rest)
  match s with
  | [] => .error (open_ [])
  | mark :: r =>
    match readText mark r with
    | .error rest => .error (open_ rest)
    | .ok (source, r) =>
      match readText mark r with
      | .error rest => .error (open_ rest)
      | .ok (target, r) =>
        let source := readLetters (source.length + 1) source
        let target := readLetters (target.length + 1) target
        if source.length == target.length then return (source.zip target, ← endCommand r)
        else .error ("strings for `y' command are different lengths", r)

/-- Reads a number that a command may have. -/
def readOptional (s : Bytes) : Option Nat × Bytes :=
  let s := skipBlank s
  let digits := s.takeWhile Char.isDigit
  (if digits.isEmpty then none else some (Expression.numberFrom digits), s.drop digits.length)

/-- The command of a letter that takes nothing behind it. -/
def plainEdit : Char → Option Edit
  | 'd' => some .delete
  | 'D' => some .deleteFirst
  | 'g' => some .get
  | 'G' => some .getBehind
  | 'h' => some .hold
  | 'H' => some .holdBehind
  | 'x' => some .exchange
  | 'z' => some .empty
  | 'n' => some .next
  | 'N' => some .nextBehind
  | 'p' => some .print
  | 'P' => some .printFirst
  | '=' => some .number
  | 'F' => some .fileName
  | _ => none

/-- Reads the command of a letter. -/
def readEdit (extended : Bool) (reach : Reach) (letter : Char) (s : Bytes) :
    Reading (Edit × Bytes) := do
  let single : Reading Unit :=
    match reach with
    | .from _ _ => .error ("command only uses one address", s)
    | _ => .ok ()
  match letter with
  | 'a' => let (text, rest) ← readBrought s; .ok (.append text, rest)
  | 'i' => let (text, rest) ← readBrought s; .ok (.insert text, rest)
  | 'c' => let (text, rest) ← readBrought s; .ok (.change text, rest)
  | 'b' => let (label, rest) := readLabel s; .ok (.branch label, rest)
  | 't' => let (label, rest) := readLabel s; .ok (.branchIf false label, rest)
  | 'T' => let (label, rest) := readLabel s; .ok (.branchIf true label, rest)
  | 'r' => let (name, rest) ← readName s; .ok (.readFile name, rest)
  | 'R' => let (name, rest) ← readName s; .ok (.readLine name, rest)
  | 'w' => let (name, rest) ← readName s; .ok (.writeFile name, rest)
  | 'W' => let (name, rest) ← readName s; .ok (.writeFirst name, rest)
  | 's' => let (r, rest) ← readReplacing extended s; .ok (.replace r, rest)
  | 'y' => let (pairs, rest) ← readReplacedLetters s; .ok (.replaceLetters pairs, rest)
  | 'l' => let (n, rest) := readOptional s; .ok (.list n, ← endCommand rest)
  | 'v' => let (_, rest) := readLabel s; .ok (.nothing, ← endCommand rest)
  | 'q' =>
    let _ ← single
    let (n, rest) := readOptional s
    .ok (.quit (n.getD 0), ← endCommand rest)
  | 'Q' =>
    let _ ← single
    let (n, rest) := readOptional s
    .ok (.quitSilently (n.getD 0), ← endCommand rest)
  | letter =>
    match plainEdit letter with
    | some edit => .ok (edit, ← endCommand s)
    | none => .error ("unknown command: `" ++ String.ofList [letter] ++ "'", s)

/-! ### Scripts -/

/-- What is read of a script: its steps, its labels, and the blocks that are open. -/
structure Draft where
  steps : Array Step
  labels : List (Bytes × Nat)
  open_ : List Nat

/-- One more step. -/
def Draft.push (d : Draft) (step : Step) : Draft := { d with steps := d.steps.push step }

/-- Reads a step at the front of a script that is not empty. -/
def readStep (extended : Bool) (d : Draft) (s : Bytes) : Reading (Draft × Bytes) := do
  let (reach, s) ← readReach extended s
  let (others, s) : Bool × Bytes :=
    match s with
    | '!' :: r => (true, skipBlank r)
    | s => (false, s)
  let addressed :=
    match reach with
    | .all => false
    | _ => true
  match s with
  | [] => .error ("missing command", [])
  | '!' :: r => if others then .error ("multiple `!'s", r) else .error ("missing command", r)
  | '#' :: r =>
    if addressed then .error ("comments don't accept any addresses", r)
    else .ok (d, r.dropWhile (· != '\n'))
  | '\x7b' :: r =>
    .ok ({ d.push ⟨reach, others, .block 0⟩ with open_ := d.steps.size :: d.open_ }, r)
  | '\x7d' :: r =>
    match d.open_ with
    | [] => .error ("unexpected `\x7d'", r)
    | start :: more =>
      if addressed then .error ("\x7d doesn't want any addresses", r)
      else
        let closed := d.steps.modify start fun x => { x with edit := .block d.steps.size }
        .ok ({ d with steps := closed, open_ := more }, ← endCommand r)
  | ':' :: r =>
    if addressed then .error (": doesn't want any addresses", r)
    else
      let r := skipBlank r
      let label := r.takeWhile fun c => !isSpace c && c != ';'
      if label.isEmpty then .error ("\":\" lacks a label", r)
      else .ok ({ d with labels := (label, d.steps.size) :: d.labels }, r.drop label.length)
  | letter :: r => do
    let (edit, rest) ← readEdit extended reach letter r
    .ok (d.push ⟨reach, others, edit⟩, rest)

/-- Reads all steps. -/
def readSteps (extended : Bool) : Nat → Draft → Bytes → Reading Draft
  | 0, d, _ => .ok d
  | bound + 1, d, s =>
    match s.dropWhile fun c => c == ';' || isSpace c with
    | [] => .ok d
    | s => do
      let (d, rest) ← readStep extended d s
      readSteps extended bound d rest

/-- The label that a command goes on at, if it names one. -/
def labelOf : Edit → Option Bytes
  | .branch label => if label.isEmpty then none else some label
  | .branchIf _ label => if label.isEmpty then none else some label
  | _ => none

/-- Why a text is no script. -/
inductive Fault where
  /-- Something makes no sense, with so much of the script left behind it. -/
  | at (reason : String) (left : Nat)
  /-- A block does not end. -/
  | openBlock
  /-- A label is nowhere. -/
  | noLabel (label : Bytes)
  deriving DecidableEq, Repr

/-- Reads a script. -/
def read (extended : Bool) (s : Bytes) : Except Fault Script :=
  match readSteps extended (s.length + 1) ⟨#[], [], []⟩ s with
  | .error (reason, rest) => .error (.at reason rest.length)
  | .ok d =>
    if !d.open_.isEmpty then .error .openBlock
    else
      let labels := d.steps.toList.filterMap fun x => labelOf x.edit
      match labels.find? fun label => (d.labels.lookup label).isNone with
      | some label => .error (.noLabel label)
      | none =>
        .ok ⟨d.steps, d.labels, ['#', 'n'].isPrefixOf s⟩

end MojoToolchain.Shell.Editing
