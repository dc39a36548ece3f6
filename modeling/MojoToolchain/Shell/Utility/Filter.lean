import MojoToolchain.Shell.Expression
import MojoToolchain.Shell.Utility.Basic

/-!
# Filters

Utilities that write the texts that they read, as they are, with marks, or the other way round.
-/

namespace MojoToolchain.Shell

/-- A text filled up to a width, with spaces in front. -/
def filled (width : Nat) (text : Bytes) : Bytes :=
  List.replicate (width - text.length) ' ' ++ text

/-! ### Marks -/

/-- How lines are shown. -/
structure Marks where
  /-- All lines have numbers, or those that are not empty. -/
  numbers : Bool
  filledNumbers : Bool
  /-- Empty lines do not follow one another. -/
  squeezes : Bool
  ends : Bool
  tabs : Bool
  /-- Bytes that are not seen are written out. -/
  unseen : Bool

namespace Marks

/-- A byte that can be seen. -/
def visible (c : Char) : Bytes :=
  let low (c : Char) : Bytes :=
    if c.toNat < 32 then ['^', Char.ofNat (c.toNat + 64)]
    else if c.toNat == 127 then ['^', '?']
    else [c]
  if c == '\n' || c == '\t' then [c]
  else if c.toNat < 128 then low c
  else 'M' :: '-' :: low (Char.ofNat (c.toNat - 128))

/-- A line as it is shown. -/
def shown (x : Marks) (line : Bytes) : Bytes :=
  let row := bare line
  let ended := row.length < line.length
  let text :=
    if x.unseen then row.flatMap visible
    else if x.ends && ended && row.getLast? == some '\r' then row.dropLast ++ ['^', 'M']
    else row
  let text := if x.tabs then text.flatMap fun c => if c == '\t' then ['^', 'I'] else [c] else text
  text ++ (if x.ends && ended then ['$'] else []) ++ if ended then ['\n'] else []

/-- Nothing but the bytes themselves is shown. -/
def isPlain (x : Marks) : Bool :=
  !(x.numbers || x.filledNumbers || x.squeezes || x.ends || x.tabs || x.unseen)

end Marks

/-- Where a pass over lines has come to: the number of the last line, whether it was empty, and
whether it has not ended yet. -/
structure Passage where
  number : Nat
  empty : Bool
  open_ : Bool

/-- The lines of a text as they are shown, behind those of others. -/
def Marks.pass (x : Marks) : Passage → List Bytes → Passage × List Bytes
  | p, [] => (p, [])
  | p, line :: rest =>
    let ended := line.getLast? == some '\n'
    if p.open_ then
      let (p, more) := pass x ⟨p.number, false, !ended⟩ rest
      (p, x.shown line :: more)
    else
      let empty := line == ['\n']
      if x.squeezes && empty && p.empty then pass x p rest
      else
        let counts := if x.filledNumbers then !empty else x.numbers
        let number := if counts then p.number + 1 else p.number
        let front := if counts then filled 6 (Nat.toDigits 10 number) ++ ['\t'] else []
        let (p, more) := pass x ⟨number, empty, !ended⟩ rest
        (p, (front ++ x.shown line) :: more)

/-- The file to which a stream leads. -/
def fileBehind (s : State) (stream : Nat) : Option Host.Place :=
  match s.sinks.lookup stream with
  | some (.file place) => some place
  | _ => none

/-- Writes the input, or files. -/
def cat : Utility :=
  withOptions 1
    { flags := "AbeEnstTuv"
      valued := ""
      names := [("number-nonblank", 'b'), ("number", 'n'), ("squeeze-blank", 's'),
        ("show-nonprinting", 'v'), ("show-ends", 'E'), ("show-tabs", 'T'), ("show-all", 'A')] }
    fun call s =>
    let has (letters : String) : Bool := letters.toList.any call.has
    let x : Marks :=
      ⟨call.has 'n', call.has 'b', call.has 's', has "EAe", has "TAt", has "vAet"⟩
    let written (p : Passage) (file text : Bytes) (s : State) : Passage × State :=
      let place :=
        match s.disk.locate (pathOf file) with
        | .ok place => some place
        | .error _ => none
      if file != ['-'] && place.isSome && place == fileBehind s 1 && !text.isEmpty then
        (p, s.report 1 (Quoting.asNeeded file ++ ": input file is output file"))
      else if x.isPlain then (p, s.emit 1 text)
      else
        let (p, lines) := x.pass p (linesOf text)
        (p, s.emit 1 lines.flatten)
    (foldTexts (.plain 1) call.operands written ⟨0, false, false⟩ s).2

/-- Writes the input, and writes it to files too. -/
def tee : Utility :=
  withOptions 1
    { flags := "aip"
      valued := ""
      names := [("append", 'a'), ("ignore-interrupts", 'i'), ("output-error", 'p')]
      loose := "p" } fun call s =>
    let (text, s) := drain s
    -- files are opened before anything is written
    let opened := call.operands.foldl (fun s file =>
      match saveText file [] (call.has 'a') s with
      | .ok s => s
      | .error fault => s.report 1 (Quoting.asNeeded file ++ ": " ++ reasonOf fault))
      (s.withStatus 0)
    call.operands.foldl (fun s file =>
      match saveText file text (call.has 'a') s with
      | .ok s => s
      | .error _ => s) (opened.emit 1 text)

/-! ### The other way round -/

/-- Writes each line from its end to its start. -/
def rev : Utility := fun args s =>
  let files := args.filter fun arg => arg != ['-', '-']
  match files.find? fun arg => 1 < arg.length && arg.head? == some '-' with
  | some arg =>
    let reason :=
      if ['-', '-'].isPrefixOf arg then "unrecognized option '" ++ String.ofList arg ++ "'"
      else "invalid option -- '" ++ String.ofList (arg.drop 1 |>.take 1) ++ "'"
    s.report 1 (reason ++ "\nTry 'rev --help' for more information.")
  | none =>
    let named := { s with program := "rev" }
    let wording (file : Bytes) (fault : Host.Fault) : String :=
      "cannot open " ++ String.ofList file ++ ": " ++ reasonOf fault
    forTexts ⟨1, wording⟩ files (fun _ text s =>
      s.emit 1 ((linesOf text).flatMap fun line =>
        (bare line).reverse ++ line.drop (bare line).length)) named

/-- Where marks stand in a text, the last one first: how much is in front of each and behind it. -/
def marksFromEnd (mark : Bytes) : Nat → Bytes → List (Nat × Nat)
  | 0, _ => []
  | bound + 1, reversed =>
    if mark.isPrefixOf reversed then
      let rest := reversed.drop mark.length
      (rest.length, reversed.length) :: marksFromEnd mark bound rest
    else
      match reversed with
      | [] => []
      | _ :: rest => marksFromEnd mark bound rest

/-- Where an expression finds something in a text, the last place first. -/
def findsFromEnd (e : Expression) (text : Bytes) : Nat → Nat → List (Nat × Nat)
  | 0, _ => []
  | bound + 1, limit =>
    let front := text.take limit
    let found := (List.range limit).reverse.findSome? fun i =>
      let before := if i == 0 then none else front[i - 1]?
      (e.longest? Expression.exactly before (front.drop i)).map fun m => (i, limit - m.left)
    match found with
    | some (start, stop) => (start, stop) :: findsFromEnd e text bound start
    | none => []

/-- The pieces of a text, the last one first, cut at places that come in that order. -/
def piecesFromEnd (text : Bytes) (stop : Nat) : List Nat → List Bytes
  | [] => [text.take stop]
  | place :: rest => (text.take stop).drop place :: piecesFromEnd text place rest

/-- Writes lines, the last one first. -/
def tac : Utility :=
  withOptions 1
    { flags := "br"
      valued := "s"
      names := [("before", 'b'), ("regex", 'r'), ("separator", 's')] } fun call s =>
    let mark := (call.value? 's').getD ['\n']
    let mark := if mark.isEmpty then ['\x00'] else mark
    let wording (file : Bytes) (fault : Host.Fault) : String :=
      if fault == .isDirectory then Quoting.asNeeded file ++ ": read error: Invalid argument"
      else "failed to open " ++ Quoting.always file ++ " for reading: " ++ reasonOf fault
    let reversed (find : Bytes → List (Nat × Nat)) (s : State) : State :=
      forTexts ⟨1, wording⟩ call.operands (fun _ text s =>
        let found := find text
        let places := found.map fun (start, stop) => if call.has 'b' then start else stop
        let places := if call.has 'b' then places else places.dropWhile (· == text.length)
        s.emit 1 (piecesFromEnd text text.length places).flatten) s
    if !call.has 'r' then
      if call.has 'b' || mark != ['\n'] then
        reversed (fun text => marksFromEnd mark.reverse (text.length + 1) text.reverse) s
      else
        forTexts ⟨1, wording⟩ call.operands (fun _ text s =>
          s.emit 1 (linesOf text).reverse.flatten) s
    else
      match Expression.parse (Expression.form false) mark with
      | .error reason => s.report 1 reason
      | .ok (e, _) => reversed (fun text => findsFromEnd e text (text.length + 1) text.length) s

/-- The utilities that filter. -/
def filters : Utilities := [("cat", cat), ("tee", tee), ("rev", rev), ("tac", tac)]

end MojoToolchain.Shell
