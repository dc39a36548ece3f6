import MojoToolchain.Shell.Utility.Amount
import MojoToolchain.Shell.Utility.Filter

/-!
# Columns

Utilities that take lines apart by characters, fields and columns, and that put lines side by
side.
-/

namespace MojoToolchain.Shell

/-! ### Fields -/

/-- A range of positions, from one to another or to the end. -/
abbrev Span := Nat × Option Nat

namespace Span

/-- Which positions a list names, as messages call them. -/
structure Naming where
  numbered : String
  badRange : String
  badValue : String
  tooLarge : String

/-- The naming of fields. -/
def Naming.fields : Naming where
  numbered := "fields are numbered from 1"
  badRange := "invalid field range"
  badValue := "invalid field value "
  tooLarge := "field number "

/-- The naming of bytes and characters. -/
def Naming.positions : Naming where
  numbered := "byte/character positions are numbered from 1"
  badRange := "invalid byte or character range"
  badValue := "invalid byte/character position "
  tooLarge := "byte/character offset "

/-- The range that a part of a list writes, of which `rest` follows in the list. -/
def ofPart (x : Naming) (part rest : Bytes) : Except String Span := do
  let wrongIn (text : Bytes) : Except String Nat :=
    let digits := text.takeWhile Char.isDigit
    match text.drop digits.length with
    | '-' :: _ => .error x.badRange
    | [] =>
      let n := (naturalOf digits).getD 0
      if (1 <<< 64) - 1 ≤ n then .error (x.tooLarge ++ Quoting.plain digits ++ " is too large")
      else .ok n
    | wrong => .error (x.badValue ++ Quoting.plain (wrong ++ rest))
  let low := part.takeWhile (· != '-')
  let first ← wrongIn low
  match part.drop low.length with
  | [] => if first == 0 then .error x.numbered else .ok (first, some first)
  | _ :: high =>
    if first == 0 && !low.isEmpty then .error x.numbered
    else
      let last ← wrongIn high
      let first := if low.isEmpty then 1 else first
      if high.isEmpty then
        if low.isEmpty then .error "invalid range with no endpoint: -" else .ok (first, none)
      else if last < first then .error "invalid decreasing range"
      else .ok (first, some last)

/-- The ranges that the parts of a list write. -/
def ofParts (x : Naming) : List Bytes → Except String (List Span)
  | [] => .ok []
  | part :: rest => do
    let span ← ofPart x part (rest.flatMap (',' :: ·))
    return span :: (← ofParts x rest)

/-- Ranges in order as one where they overlap. -/
def joined : List Span → List Span
  | [] => []
  | span :: rest =>
    match joined rest with
    | [] => [span]
    | next :: more =>
      if span.2.all (next.1 ≤ ·) then
        let last : Option Nat := do
          let a ← span.2
          let b ← next.2
          some (max a b)
        (span.1, last) :: more
      else span :: next :: more

/-- The ranges between others, from a position on. -/
def outside (first : Nat) : List Span → List Span
  | [] => [(first, none)]
  | (low, high) :: rest =>
    let front := if first < low then [(first, some (low - 1))] else []
    match high with
    | some high => front ++ outside (high + 1) rest
    | none => front

/-- The ranges that a list writes, in order, or all others. -/
def ofList (x : Naming) (others : Bool) (text : Bytes) : Except String (List Span) :=
  (ofParts x (text.splitOnP fun c => c == ',' || c == ' ' || c == '\t')).map fun spans =>
    let spans := joined (spans.mergeSort fun a b => a.1 ≤ b.1)
    if others then outside 1 spans else spans

/-- The elements of a list in a range. -/
def part (span : Span) (xs : List α) : List α :=
  (span.2.elim xs xs.take).drop (span.1 - 1)

end Span

/-- A cut: the ranges that are kept, and how. -/
structure Cut where
  spans : List Span
  /-- The mark between fields; without one, bytes are cut. -/
  mark : Option Char
  between : Option Bytes
  /-- Lines without a mark are left out. -/
  onlyMarked : Bool

namespace Cut

/-- What is left of a line. -/
def row (x : Cut) (row : Bytes) : Option Bytes :=
  match x.mark with
  | none =>
    let parts := (x.spans.map fun span => Span.part span row).filter fun part => !part.isEmpty
    some ((x.between.getD []).intercalate parts)
  | some mark =>
    let fields := row.splitOn mark
    if fields.length == 1 then if x.onlyMarked then none else some row
    else
      some ((x.between.getD [mark]).intercalate (x.spans.flatMap fun span => Span.part span fields))

/-- The cut that a call asks for; or what is wrong with it. -/
def ofCall (call : Call) : Except String Cut := do
  let lists := call.options.filter fun (c, _) => "bcf".toList.contains c
  let wrongMark := (call.options.filter (·.1 == 'd')).any fun (_, text) => 1 < text.length
  match wrongMark, lists with
  | true, _ => .error "the delimiter must be a single character"
  | false, [] => .error "you must specify a list of bytes, characters, or fields"
  | false, _ :: _ :: _ => .error "only one list may be specified"
  | false, [(letter, list)] =>
    if letter == 'f' then
      let spans ← Span.ofList .fields (call.has 'κ') list
      let mark := (call.value? 'd').elim '\t' fun text => text.headD '\x00'
      .ok ⟨spans, some mark, call.value? 'ο', call.has 's'⟩
    else if call.has 'd' then
      .error "an input delimiter may be specified only when operating on fields"
    else if call.has 's' then
      .error "suppressing non-delimited lines makes sense\n\tonly when operating on fields"
    else
      let spans ← Span.ofList .positions (call.has 'κ') list
      .ok ⟨spans, none, call.value? 'ο', false⟩

end Cut

/-- Writes some characters or fields of each line. -/
def cut : Utility :=
  withOptions 1
    { flags := "snzκ"
      valued := "bcfdο"
      names := [("bytes", 'b'), ("characters", 'c'), ("fields", 'f'), ("delimiter", 'd'),
        ("only-delimited", 's'), ("output-delimiter", 'ο'), ("complement", 'κ'),
        ("zero-terminated", 'z')] } fun call s =>
    match Cut.ofCall call with
    | .error reason => misused 1 reason s
    | .ok x =>
      let mark := call.endMark
      forTexts (.plain 1) call.operands (fun _ text s =>
        emitRows mark s ((rowsBy mark text).filterMap x.row)) s

/-! ### Side by side -/

/-- The marks of a list of them, in which escapes may stand; there are none when a backslash is at
its end. -/
def marksOf : Bytes → Option (List Bytes)
  | [] => some []
  | ['\\'] => none
  | '\\' :: c :: r =>
    let mark : Bytes :=
      match c with
      | '0' => []
      | 'b' => ['\x08']
      | 'f' => ['\x0c']
      | 'n' => ['\n']
      | 'r' => ['\r']
      | 't' => ['\t']
      | 'v' => ['\x0b']
      | c => [c]
    (marksOf r).map (mark :: ·)
  | c :: r => (marksOf r).map ([c] :: ·)

/-- Pieces with marks between them, which are used one after the other and then again. -/
def joinedBy (marks : List Bytes) (pieces : List Bytes) : Bytes :=
  (pieces.zipIdx.map fun (piece, i) =>
    if i == 0 then piece else ((marks[(i - 1) % marks.length]?).getD []) ++ piece).flatten

/-- The lines of files side by side; the lines of the input are dealt out to all the hyphens among
the names. -/
def sideBySide (mark : Char) (marks : List Bytes) (files : List Bytes) (s : State) : State :=
  let hyphens := (files.filter (· == ['-'])).length
  let rows := rowsBy mark s.input
  let dealt (nth : Nat) : List Bytes :=
    rows.zipIdx.filterMap fun (row, i) => if i % hyphens == nth then some row else none
  let (columns, _, s) := files.foldl (fun (columns, nth, s) file =>
    if file == ['-'] then (dealt nth :: columns, nth + 1, s)
    else
      match fileText file s with
      | (.ok text, s) => (rowsBy mark text :: columns, nth, s)
      | (.error fault, s) =>
        let s := s.report 1 ((Reports.plain 1).wording file fault)
        -- a directory is opened before it turns out that it cannot be read
        let s := if fault == .isDirectory then s else { s with ended := some (.exit 1) }
        ([] :: columns, nth, s))
    (([], 0, s.withStatus 0) : List (List Bytes) × Nat × State)
  if s.ended.isSome then s
  else
    let columns := columns.reverse
    let height := columns.foldl (fun n column => max n column.length) 0
    let s := emitRows mark s ((List.range height).map fun i =>
      joinedBy marks (columns.map fun column => (column[i]?).getD []))
    if hyphens == 0 then s else { s with input := [] }

/-- Puts the lines of files side by side, or those of each file on one line. -/
def paste : Utility :=
  withOptions 1
    { flags := "sz"
      valued := "d"
      names := [("serial", 's'), ("delimiters", 'd'), ("zero-terminated", 'z')] } fun call s =>
    let files := if call.operands.isEmpty then [['-']] else call.operands
    let mark := call.endMark
    let list := (call.value? 'd').getD ['\t']
    match marksOf list with
    | none =>
      s.report 1 ("delimiter list ends with an unescaped backslash: " ++ String.ofList list)
    | some marks =>
      let marks := if marks.isEmpty then [[]] else marks
      if !call.has 's' then sideBySide mark marks files s
      else
        let onOneLine (text : Bytes) (s : State) : State :=
          emitRows mark s [joinedBy marks (rowsBy mark text)]
        files.foldl (fun s file =>
          match fileText file s with
          | (.ok text, s) => onOneLine text s
          | (.error fault, s) =>
            let s := s.report 1 ((Reports.plain 1).wording file fault)
            if fault == .isDirectory then onOneLine [] s else s) (s.withStatus 0)

/-! ### Tabs -/

/-- Where tabs lead: to the columns of a list, and behind them on by a step that is counted from
the first column or from the last one of the list. -/
structure TabStops where
  columns : List Nat
  step : Option Nat
  fromLast : Bool

namespace TabStops

/-- What numbers in a list of stops are. -/
inductive Kind where
  | column
  | multiple
  | increment
  deriving DecidableEq

/-- The stops that have been read: their columns from the last one on, and the steps. -/
structure Reading where
  columns : List Nat
  multiple : Option Nat
  increment : Option Nat

/-- One more number among the stops. -/
def Reading.add (x : Reading) (kind : Kind) (n : Nat) : Except String Reading :=
  match kind with
  | .column => .ok { x with columns := n :: x.columns }
  | .multiple =>
    if x.multiple.any (0 < ·) then .error "'/' specifier only allowed with the last value"
    else .ok { x with multiple := some n }
  | .increment =>
    if x.increment.any (0 < ·) then .error "'+' specifier only allowed with the last value"
    else .ok { x with increment := some n }

/-- Reads a list of stops behind others; `number` has the digits of the number that is being
read. -/
def read (kind : Kind) (number : Bytes) (x : Reading) : Bytes → Except String Reading
  | [] => finished kind number x
  | c :: r =>
    if c == ',' || c == ' ' || c == '\t' then do
      let x ← finished kind number x
      read kind [] x r
    else if c == '/' || c == '+' then
      if number.isEmpty then read (if c == '/' then .multiple else .increment) [] x r
      else
        .error ("'" ++ String.ofList [c] ++ "' specifier not at start of number: "
          ++ Quoting.plain (c :: r))
    else if c.isDigit then read kind (number ++ [c]) x r
    else .error ("tab size contains invalid character(s): " ++ Quoting.plain (c :: r))
where
  /-- Adds a number that has been read. -/
  finished (kind : Kind) (number : Bytes) (x : Reading) : Except String Reading :=
    match naturalOf number with
    | none => .ok x
    | some n =>
      if 1 <<< 64 ≤ n then .error ("tab stop is too large " ++ Quoting.plain number)
      else x.add kind n

/-- The columns of stops rise. -/
def ascend (last : Nat) : List Nat → Except String Unit
  | [] => .ok ()
  | n :: rest =>
    if n == 0 then .error "tab size cannot be 0"
    else if n ≤ last then .error "tab sizes must be ascending"
    else ascend n rest

/-- The stops that lists write. -/
def ofLists (lists : List Bytes) : Except String TabStops := do
  let x ← lists.foldlM (fun x list => read .column [] x list) (⟨[], none, none⟩ : Reading)
  let columns := x.columns.reverse
  ascend 0 columns
  let step := (x.multiple.filter (0 < ·)) <|> (x.increment.filter (0 < ·))
  if x.multiple.any (0 < ·) && x.increment.any (0 < ·) then
    .error "'/' specifier is mutually exclusive with '+'"
  else
    match columns, step with
    | [], step => .ok ⟨[], some (step.getD 8), false⟩
    | [size], none => .ok ⟨[], some size, false⟩
    | columns, step => .ok ⟨columns, step, !x.multiple.any (0 < ·)⟩

/-- The first stop behind a column, if there is one. -/
def next (x : TabStops) (column : Nat) : Option Nat :=
  match x.columns.find? fun c => column < c, x.step with
  | some c, _ => some c
  | none, none => none
  | none, some step =>
    let start := if x.fromLast then x.columns.getLastD 0 else 0
    some (column + (step - (column - start) % step))

end TabStops

/-- A text with spaces in place of its tabs, or only of those in front of a line, where `live` is
true. -/
def withoutTabs (stops : TabStops) (leading live : Bool) (column : Nat) : Bytes → Bytes
  | [] => []
  | c :: r =>
    if c == '\n' then c :: withoutTabs stops leading true 0 r
    else if !live then c :: withoutTabs stops leading live column r
    else if c == '\t' then
      let next := (stops.next column).getD (column + 1)
      List.replicate (next - column) ' ' ++ withoutTabs stops leading live next r
    else if c == '\x08' then c :: withoutTabs stops leading (!leading) (column - 1) r
    else c :: withoutTabs stops leading (!leading || c == ' ') (column + 1) r

/-- Reads the old way to write stops, a number right behind the hyphen, in the new one. -/
def withStops (args : List Bytes) : List Bytes :=
  args.map fun arg =>
    match arg with
    | '-' :: c :: more => if c.isDigit then '-' :: 't' :: c :: more else arg
    | arg => arg

/-- The lists of stops of a call. -/
def stopLists (call : Call) : List Bytes := (call.options.filter (·.1 == 't')).map Prod.snd

/-- Writes spaces in place of tabs. -/
def expandTabs : Utility := fun args s =>
  withOptions 1
    { flags := "i", valued := "t", names := [("tabs", 't'), ("initial", 'i')] } (fun call s =>
    match TabStops.ofLists (stopLists call) with
    | .error reason => s.report 1 reason
    | .ok stops =>
      let (texts, s) := textsOf (.plain 1) call.operands s
      s.emit 1 (withoutTabs stops (call.has 'i') true 0 (texts.flatMap Prod.snd)))
    (withStops args) s

/-- Where the search for white space has come to in a line. -/
structure TabSearch where
  /-- White space is replaced here. -/
  live : Bool
  column : Nat
  /-- The white space that has been read and not yet written, from its end. -/
  pending : Bytes
  /-- The first of it stands just in front of a stop. -/
  oneBefore : Bool
  /-- The character in front is a blank. -/
  behindBlank : Bool

namespace TabSearch

/-- The start of a line. -/
def start : TabSearch := ⟨true, 0, [], false, true⟩

/-- The white space that is written before a character. -/
def flushed (x : TabSearch) : Bytes :=
  let text := x.pending.reverse
  if 1 < text.length && x.oneBefore then '\t' :: text.drop 1 else text

/-- A text with tabs in place of spaces, in front of each line or, with `all`, everywhere. -/
def run (stops : TabStops) (all : Bool) (x : TabSearch) : Bytes → Bytes
  | [] => x.flushed
  | '\n' :: r => x.flushed ++ '\n' :: run stops all start r
  | c :: r =>
    let isBlank := c == ' ' || c == '\t'
    -- writes what is pending and a character
    let write (x : TabSearch) (c : Char) : Bytes :=
      x.flushed ++ c :: run stops all
        { x with
          live := x.live && (all || isBlank), pending := [], oneBefore := false
          behindBlank := isBlank } r
    if !x.live then c :: run stops all x r
    else if !isBlank then
      write { x with column := if c == '\x08' then x.column - 1 else x.column + 1 } c
    else
      match stops.next x.column with
      | none => write { x with live := false } c
      | some next =>
        -- what is pending ends at a stop, but a blank just in front of the last one stays
        let kept : Bytes := if x.oneBefore then ['\t'] else []
        if c == '\t' then write { x with column := next, pending := kept } c
        else if x.behindBlank && x.column + 1 == next then
          write { x with column := next, pending := kept } '\t'
        else
          run stops all
            { x with
              column := x.column + 1
              pending := c :: x.pending
              oneBefore := x.oneBefore || x.column + 1 == next
              behindBlank := true } r

end TabSearch

/-- The digits and commas behind hyphens, all of them as one list of stops. -/
def withOneList (args : List Bytes) : List Bytes :=
  let isList (arg : Bytes) : Bool :=
    arg.head? == some '-' && 1 < arg.length && (arg.drop 1).all fun c => c.isDigit || c == ','
  let digits := ((args.takeWhile (· != ['-', '-'])).filter isList).flatMap (·.drop 1)
  let others := args.filter fun arg => !isList arg
  if digits.isEmpty then args else "-ν".toList :: digits :: others

/-- Writes tabs in place of spaces. -/
def unexpandTabs : Utility := fun args s =>
  withOptions 1
    { flags := "af"
      valued := "tν"
      names := [("tabs", 't'), ("all", 'a'), ("first-only", 'f')] } (fun call s =>
    let all := (call.has 'a' || call.has 't') && !call.has 'f'
    match TabStops.ofLists (stopLists call ++ (call.value? 'ν').toList) with
    | .error reason => s.report 1 reason
    | .ok stops =>
      let (texts, s) := textsOf (.plain 1) call.operands s
      s.emit 1 (TabSearch.run stops all .start (texts.flatMap Prod.snd))) (withOneList args) s

/-! ### Long lines -/

namespace Fold

/-- The column behind a character. -/
def columnBehind (byBytes : Bool) (column : Nat) (c : Char) : Nat :=
  if byBytes then column + 1
  else if c == '\x08' then column - 1
  else if c == '\r' then 0
  else if c == '\t' then column + (8 - column % 8)
  else column + 1

/-- The column behind a text. -/
def columnOf (byBytes : Bool) (text : Bytes) : Nat := text.foldl (columnBehind byBytes) 0

/-- A text whose lines are broken where they get too long, behind their last blank if that is asked
for; `part` is what has been read of a line, from its end. -/
def run (width : Nat) (byBytes atBlanks : Bool) : Nat → Nat → Bytes → Bytes → Bytes
  | 0, _, part, s => part.reverse ++ s
  | _ + 1, _, part, [] => part.reverse
  | bound + 1, _, part, '\n' :: r =>
    part.reverse ++ '\n' :: run width byBytes atBlanks bound 0 [] r
  | bound + 1, column, part, c :: r =>
    let next := columnBehind byBytes column c
    let behindBlank := part.takeWhile fun d => d != ' ' && d != '\t'
    if next ≤ width then run width byBytes atBlanks bound next (c :: part) r
    else if atBlanks && behindBlank.length < part.length then
      (part.drop behindBlank.length).reverse ++ '\n' ::
        run width byBytes atBlanks bound (columnOf byBytes behindBlank.reverse) behindBlank (c :: r)
    else if part.isEmpty then run width byBytes atBlanks bound next [c] r
    else part.reverse ++ '\n' :: run width byBytes atBlanks bound 0 [] (c :: r)

end Fold

/-- Breaks lines that are too long. -/
def fold : Utility := fun args s =>
  let renewed := args.map fun arg =>
    match arg with
    | '-' :: c :: more => if c.isDigit then '-' :: 'w' :: c :: more else arg
    | arg => arg
  withOptions 1
    { flags := "bs"
      valued := "w"
      names := [("bytes", 'b'), ("spaces", 's'), ("width", 'w')] } (fun call s =>
    let widths := (call.options.filter (·.1 == 'w')).map Prod.snd
    match widths.mapM (Amount.naturalIn "" 1 "invalid number of columns") with
    | .error reason => s.report 1 reason
    | .ok widths =>
      let width := widths.getLastD 80
      forTexts (.plain 1) call.operands (fun _ text s =>
        s.emit 1 (Fold.run width (call.has 'b') (call.has 's') (3 * text.length + 3) 0 [] text)) s)
    renewed s

/-- The utilities that deal with columns. -/
def columnUtilities : Utilities :=
  [("cut", cut), ("paste", paste), ("expand", expandTabs), ("unexpand", unexpandTabs),
   ("fold", fold)]

end MojoToolchain.Shell
