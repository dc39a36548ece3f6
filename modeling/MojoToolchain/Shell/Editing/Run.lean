import MojoToolchain.Shell.Editing.Script

/-!
# Running editing scripts

An `Editor` has a line at hand, one on hold and the lines that are still to be read.  In a round it
takes the next line, does the steps of its script and writes the line.
-/

namespace MojoToolchain.Shell.Editing

/-- A line, and whether its end follows it. -/
structure Row where
  text : Bytes
  closed : Bool
  deriving DecidableEq, Repr

/-- How far the lines go that a step has begun with. -/
inductive Span where
  | toLine (number : Nat)
  /-- To the first line from a number on that the step gets to see. -/
  | upTo (number : Nat)
  | toAddress
  /-- They have come to their end and do not begin again. -/
  | over
  deriving DecidableEq, Repr

/-- What an editor works with. -/
structure Room where
  script : Script
  /-- Only commands write lines. -/
  quiet : Bool
  /-- What ends a line. -/
  separator : Char
  /-- The width of the lines that show everything. -/
  width : Nat
  /-- What a file holds. -/
  look : Bytes → Option Bytes

/-- The state of an editor. -/
structure Editor where
  /-- The number of the line at hand. -/
  number : Nat
  /-- The file that it comes from. -/
  file : Bytes
  row : Row
  held : Row
  /-- The lines that are still to be read, each with its file. -/
  rest : List (Bytes × Row)
  /-- Something has been replaced since a line was read or a branch was taken. -/
  replaced : Bool
  /-- What was looked for last. -/
  finder : Option Finder
  /-- The steps that have begun with their lines. -/
  spans : List (Nat × Span)
  /-- What is written behind the line at hand. -/
  queue : List Bytes
  /-- What is left of the files from which lines are taken. -/
  sources : List (Bytes × Bytes)
  /-- What has been written and to which file, the last first; the output has no name. -/
  written : List (Bytes × Bytes)
  /-- The files whose last line has no end yet. -/
  owing : List Bytes
  /-- The exit code, at the end. -/
  ended : Option Nat
  /-- Nothing was looked for before. -/
  lost : Bool

namespace Editor

/-- The editor at the start of a text. -/
def start (rest : List (Bytes × Row)) : Editor where
  number := 0
  file := []
  row := ⟨[], true⟩
  held := ⟨[], true⟩
  rest := rest
  replaced := false
  finder := none
  spans := []
  queue := []
  sources := []
  written := []
  owing := []
  ended := none
  lost := false

/-! ### Writing -/

/-- Writes to a file, behind the end of its last line. -/
def write (e : Editor) (file text : Bytes) : Editor :=
  let owed : Bytes := if e.owing.contains file then ['\n'] else []
  { e with
    written := (file, owed ++ text) :: e.written
    owing := e.owing.filter (· != file) }

/-- Writes a line. -/
def writeRow (x : Room) (e : Editor) (file : Bytes) (row : Row) : Editor :=
  if row.closed then e.write file (row.text ++ [x.separator])
  else
    let e := e.write file row.text
    { e with owing := file :: e.owing }

/-- Writes the line at hand, unless only commands write lines. -/
def writeRound (x : Room) (e : Editor) : Editor := if x.quiet then e else e.writeRow x [] e.row

/-- Writes what is written behind the line at hand. -/
def flush (e : Editor) : Editor :=
  { e.queue.foldl (fun e text => e.write [] text) e with queue := [] }

/-! ### Looking -/

/-- A finder finds something in the line at hand. -/
def finds (e : Editor) (finder : Option Finder) : Bool × Editor :=
  match finder <|> e.finder with
  | some f => (f.expression.isFound f.manner e.row.text, { e with finder := some f })
  | none => (false, { e with ended := some 1, lost := true })

/-- The line at hand is at an address. -/
def isAt (e : Editor) : Address → Bool × Editor
  | .line n => (n == e.number, e)
  | .every first step =>
    (first ≤ e.number && (e.number - first) % step == 0, e)
  | .last => (e.rest.isEmpty, e)
  | .found finder => e.finds finder

/-- A step begins with its lines, or ends with them. -/
def mark (e : Editor) (step : Nat) (span : Option Span) : Editor :=
  { e with spans := (span.toList.map fun span => (step, span)) ++ e.spans.filter (·.1 != step) }

/-- A step is no longer in the middle of its lines; those that begin at the line of a number do not
begin again. -/
def leave (e : Editor) (step : Nat) (a : Address) : Editor :=
  match a with
  | .line _ => e.mark step (some .over)
  | _ => e.mark step none

/-- A step is in the middle of its lines. -/
def isInside (e : Editor) (step : Nat) : Bool :=
  match e.spans.lookup step with
  | some .over => false
  | some _ => true
  | none => false

/-- The lines of a step begin with the line at hand, or with one in front of it that the step has
not seen. -/
def begins (e : Editor) (a : Address) (end_ : Until) : Bool × Editor :=
  match a, end_ with
  | .line n, .address (.line m) => (n == e.number || (n < e.number && e.number ≤ m), e)
  | .line n, _ => (n ≤ e.number, e)
  | a, _ => e.isAt a

/-- How far lines go that begin with the line at hand, unless they end with it. -/
def spanTo (e : Editor) : Until → Option Span
  | .address (.line n) => if n ≤ e.number then none else some (.toLine n)
  | .address _ => some .toAddress
  | .further 0 => none
  | .further n => some (.upTo (e.number + n))
  | .multiple 0 => none
  | .multiple n => some (.upTo (e.number + (n - e.number % n)))

/-- The line at hand is one of those that a step reaches. -/
def reaches (e : Editor) (step : Nat) : Reach → Bool × Editor
  | .all => (true, e)
  | .at a => e.isAt a
  | .from a end_ =>
    match e.spans.lookup step, end_ with
    | some .over, _ => (false, e)
    | some (.toLine n), _ => (e.number ≤ n, if n ≤ e.number then e.leave step a else e)
    | some (.upTo n), _ => (true, if n ≤ e.number then e.leave step a else e)
    | some .toAddress, .address b =>
      let (ends, e) := e.isAt b
      (true, if ends then e.leave step a else e)
    | some .toAddress, _ => (true, e)
    | none, end_ =>
      let (starts, e) := e.begins a end_
      if !starts then (false, e)
      else
        match e.spanTo end_ with
        | some span => (true, e.mark step (some span))
        | none => (true, e.leave step a)

/-! ### Replacing -/

/-- A text with its letters changed. -/
def cased : Option Casing → Bytes → Bytes
  | some .upper, s => s.map Char.toUpper
  | some .lower, s => s.map Char.toLower
  | none, s => s

/-- A text whose first letter is changed in one way and the others in another. -/
def casedOnce (all once : Option Casing) : Bytes → Bytes
  | [] => []
  | c :: r => cased (once <|> all) [c] ++ cased all r

/-- What is put in place of a part. -/
def put (groups : List (Nat × Bytes)) : Option Casing → Option Casing → List Piece → Bytes
  | _, _, [] => []
  | all, once, piece :: rest =>
    let emit (text : Bytes) : Bytes :=
      casedOnce all once text ++ put groups all (if text.isEmpty then once else none) rest
    match piece with
    | .char c => emit [c]
    | .group n => emit ((groups.lookup n).getD [])
    | .casing c => put groups c none rest
    | .casingOnce c => put groups all (some c) rest

/-- Replaces parts of a text from the `count`-th one on; the flag says whether there was one. -/
def replaceParts (f : Finder) (r : Replacing) :
    Nat → Bool → Nat → Option Char → Bytes → Bytes × Bool
  | 0, _, _, _, s => (s, false)
  | bound + 1, behind, count, before, s =>
    match f.expression.find? f.manner before s with
    | none => (s, false)
    | some (front, part, m) =>
      -- nothing is not a part right behind another part
      let isPart := !(behind && front.isEmpty && part.isEmpty)
      let chosen := isPart && if r.all then r.nth ≤ count else count == r.nth
      let new := if chosen then put ((0, part) :: m.groups) none none r.pieces else part
      let done := front ++ new
      if chosen && !r.all then (done ++ m.rest, true)
      else
        let count := if isPart then count + 1 else count
        match part, m.rest with
        | [], [] => (done, chosen)
        | [], c :: rest =>
          let (more, changed) := replaceParts f r bound false count (some c) rest
          (done ++ c :: more, chosen || changed)
        | part, rest =>
          let (more, changed) := replaceParts f r bound true count part.getLast? rest
          (done ++ more, chosen || changed)

/-- Replaces parts of the line at hand. -/
def replace (x : Room) (e : Editor) (r : Replacing) : Editor :=
  match r.finder <|> e.finder with
  | none => { e with ended := some 1, lost := true }
  | some f =>
    let e := { e with finder := some f }
    let bound := 2 * e.row.text.length + 2
    let (text, changed) := replaceParts f r bound false 1 none e.row.text
    if !changed then e
    else
      let e := { e with row := { e.row with text := text }, replaced := true }
      let e := if r.shows then e.writeRow x [] e.row else e
      match r.file with
      | some file => e.writeRow x file e.row
      | none => e

/-! ### Showing -/

/-- A character written so that it can be seen. -/
def shown (c : Char) : Bytes :=
  match c with
  | '\\' => ['\\', '\\']
  | '\x07' => ['\\', 'a']
  | '\x08' => ['\\', 'b']
  | '\x0c' => ['\\', 'f']
  | '\n' => ['\\', 'n']
  | '\r' => ['\\', 'r']
  | '\t' => ['\\', 't']
  | '\x0b' => ['\\', 'v']
  | c =>
    if ' ' ≤ c && c ≤ '~' then [c]
    else
      let digits := Nat.toDigits 8 c.toNat
      '\\' :: List.replicate (3 - digits.length) '0' ++ digits

/-- Pieces laid out in lines of a width, of which all but the last end in a backslash. -/
def folded (width : Nat) : Nat → List Bytes → Bytes
  | _, [] => ['$', '\n']
  | column, piece :: rest =>
    if 0 < width && width < column + piece.length + 1 then
      ['\\', '\n'] ++ piece ++ folded width piece.length rest
    else piece ++ folded width (column + piece.length) rest

/-! ### Commands -/

/-- Where an editor goes on. -/
inductive Turn where
  /-- At the next step. -/
  | on
  /-- At a step. -/
  | to (step : Nat)
  /-- With the next line. -/
  | round
  /-- At the first step, with the line at hand. -/
  | again
  | stop
  deriving DecidableEq, Repr

/-- Takes the next line, which is put behind `front` when there is one. -/
def take (x : Room) (front : Option Bytes) (e : Editor) : Option Editor :=
  match e.rest with
  | [] => none
  | (file, row) :: rest =>
    let text :=
      match front with
      | some front => front ++ x.separator :: row.text
      | none => row.text
    some { e.flush with
      number := e.number + 1
      file := file
      row := ⟨text, row.closed⟩
      rest := rest
      replaced := false }

/-- Goes on at a label, or at the end. -/
def turnTo (x : Room) (label : Bytes) : Turn :=
  .to ((x.script.labels.lookup label).getD x.script.steps.size)

/-- Writes behind the line at hand, later. -/
def behind (e : Editor) (text : Bytes) : Editor := { e with queue := e.queue ++ [text] }

/-- The first line of a text, with its end, and what is left. -/
def splitFirst (s : Bytes) : Bytes × Bytes :=
  let first := s.takeWhile (· != '\n')
  (first ++ (s.drop first.length).take 1, s.drop (first.length + 1))

/-- Does the command of a step to the line at hand. -/
def perform (x : Room) (e : Editor) (step : Nat) (edit : Edit) : Turn × Editor :=
  let text := e.row.text
  let first := text.takeWhile (· != x.separator)
  let firstRow : Row := ⟨first, first.length < text.length || e.row.closed⟩
  let withText (text : Bytes) : Editor := { e with row := { e.row with text := text } }
  match edit with
  | .nothing => (.on, e)
  | .block _ => (.on, e)
  | .append text => (.on, e.behind text)
  | .insert text => (.on, e.write [] text)
  | .change text => (.round, if e.isInside step then e else e.write [] text)
  | .branch label => (turnTo x label, e)
  | .branchIf other label =>
    if e.replaced != other then (turnTo x label, { e with replaced := false })
    else (.on, { e with replaced := false })
  | .delete => (.round, e)
  | .deleteFirst =>
    if first.length < text.length then
      (.again, (withText (text.drop (first.length + 1))).flush)
    else (.round, e)
  | .get => (.on, { e with row := e.held })
  | .getBehind => (.on, { e with row := ⟨text ++ x.separator :: e.held.text, e.held.closed⟩ })
  | .hold => (.on, { e with held := e.row })
  | .holdBehind =>
    (.on, { e with held := ⟨e.held.text ++ x.separator :: text, e.row.closed⟩ })
  | .exchange => (.on, { e with row := e.held, held := e.row })
  | .empty => (.on, withText [])
  | .list width =>
    (.on, e.write [] (folded (width.getD x.width) 0 (text.map shown)))
  | .next =>
    let e := e.writeRound x
    match e.take x none with
    | some next => (.on, next)
    | none => (.round, e)
  | .nextBehind =>
    match e.take x (some text) with
    | some next => (.on, next)
    | none => (.round, e.writeRound x)
  | .print => (.on, e.writeRow x [] e.row)
  | .printFirst => (.on, e.writeRow x [] firstRow)
  | .number => (.on, e.write [] (Nat.toDigits 10 e.number ++ ['\n']))
  | .fileName => (.on, e.write [] ((if e.file.isEmpty then ['-'] else e.file) ++ ['\n']))
  | .quit code => (.stop, { (e.writeRound x).flush.write [] [] with ended := some code })
  | .quitSilently code => (.stop, { e with ended := some code })
  | .readFile file => (.on, e.behind ((x.look file).getD []))
  | .readLine file =>
    let left := (e.sources.lookup file).getD ((x.look file).getD [])
    let (row, left) := splitFirst left
    let e := { e with sources := (file, left) :: e.sources.filter (·.1 != file) }
    (.on, if row.isEmpty then e else e.behind row)
  | .writeFile file => (.on, e.writeRow x file e.row)
  | .writeFirst file => (.on, e.writeRow x file firstRow)
  | .replace r => (.on, e.replace x r)
  | .replaceLetters pairs => (.on, withText (text.map fun c => (pairs.lookup c).getD c))

/-- Does the steps of a script from one on, and all rounds that follow. -/
def run (x : Room) : Nat → Nat → Editor → Editor
  | 0, _, e => e
  | bound + 1, step, e =>
    let nextRound (e : Editor) : Editor :=
      match e.take x none with
      | some next => run x bound 0 next
      | none => e.flush
    match x.script.steps[step]? with
    | none => nextRound (e.writeRound x)
    | some s =>
      let (reached, e) := e.reaches step s.reach
      if e.ended.isSome then e
      else if reached == s.others then
        match s.edit with
        | .block behind => run x bound behind e
        | _ => run x bound (step + 1) e
      else
        let (turn, e) := e.perform x step s.edit
        if e.ended.isSome then e
        else
          match turn with
          | .on => run x bound (step + 1) e
          | .to step => run x bound step e
          | .round => nextRound e
          | .again => run x bound 0 e
          | .stop => e

/-- The steps whose lines begin in front of the first one. -/
def opened (x : Room) (e : Editor) : Editor :=
  let starts := x.script.steps.toList.zipIdx.filterMap fun (s, i) =>
    match s.reach with
    | .from (.line 0) _ => some (i, Span.toAddress)
    | _ => none
  { e with spans := starts }

/-- Runs a script on all lines, with a bound on the number of its steps. -/
def runAll (x : Room) (bound : Nat) (e : Editor) : Editor :=
  match (e.opened x).take x none with
  | some first => run x bound 0 first
  | none => e

/-- What was written to a file. -/
def textOf (e : Editor) (files : List Bytes) : Bytes :=
  (e.written.reverse.filter fun (file, _) => files.contains file).flatMap Prod.snd

end Editor

end MojoToolchain.Shell.Editing
