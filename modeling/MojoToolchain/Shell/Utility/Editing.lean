import MojoToolchain.Shell.Editing.Reader
import MojoToolchain.Shell.Editing.Run
import MojoToolchain.Shell.Utility.Filter

/-!
# Editing

`sed` edits lines as a script says: those of the input or of files, which it writes to the output
or puts back into the files.
-/

namespace MojoToolchain.Shell

open Editing (Editor Room Row Script)

/-! ### Calls -/

/-- The options of `sed`. -/
def editingForms : OptionForms where
  flags := "nErszu"
  valued := "efli"
  names :=
    [("quiet", 'n'), ("silent", 'n'), ("expression", 'e'), ("file", 'f'), ("in-place", 'i'),
     ("line-length", 'l'), ("regexp-extended", 'E'), ("separate", 's'), ("unbuffered", 'u'),
     ("null-data", 'z')]

/-- The option to edit files in place may have a value right behind it, and has none elsewhere;
here it is written so that it always has one. -/
def withPlace (args : List Bytes) : List Bytes :=
  args.flatMap fun arg =>
    match arg with
    | '-' :: letters =>
      let front := letters.takeWhile "nErszu".toList.contains
      match letters.drop front.length with
      | 'i' :: suffix =>
        let place := "--in-place=".toList ++ suffix
        if front.isEmpty then [place] else ['-' :: front, place]
      | _ => if arg == "--in-place".toList then ["--in-place=".toList] else [arg]
    | arg => [arg]

/-- A part of a script: its text, and how it is called. -/
structure ScriptPart where
  text : Bytes
  /-- The file that it comes from. -/
  file : Option Bytes

/-- The parts of the script that a call names, and the files that are edited. -/
def scriptParts (call : Call) (s : State) :
    Except (Option String) (List ScriptPart × List Bytes) := do
  let named := call.options.filter fun (c, _) => c == 'e' || c == 'f'
  if named.isEmpty then
    match call.operands with
    | [] => .error none
    | script :: files => .ok ([⟨script, none⟩], files)
  else
    let parts ← named.mapM fun (letter, value) =>
      if letter == 'e' then .ok (ScriptPart.mk value none)
      else
        match (fileText value s).1 with
        | .ok text =>
          .ok ⟨if text.getLast? == some '\n' then text.dropLast else text, some value⟩
        | .error fault =>
          .error (some ("couldn't open file " ++ String.ofList value ++ ": " ++ reasonOf fault))
    .ok (parts, call.operands)

/-- Where so much of a script has been read: its part, and the place in it. -/
def placeIn (number : Nat) (read : Nat) : List ScriptPart → String
  | [] => "-e expression #1, char 0"
  | part :: rest =>
    let expression := part.file.isNone
    if part.text.length < read && !rest.isEmpty then
      placeIn (if expression then number + 1 else number) (read - part.text.length - 1) rest
    else
      match part.file with
      | none => "-e expression #" ++ toString number ++ ", char " ++ toString read
      | some file =>
        let row := 1 + (part.text.take (read - 1)).count '\n'
        "file " ++ String.ofList file ++ " line " ++ toString row

/-- What is written when `sed` has no script. -/
def editingUsage : String :=
  "Usage: sed [OPTION]... \x7bscript-only-if-no-other-script\x7d [input-file]..."

/-- The wording of why a text is no script, and the exit code. -/
def Editing.Fault.message (parts : List ScriptPart) (size : Nat) : Editing.Fault → String × Nat
  | .at reason left => (placeIn 1 (size - left) parts ++ ": " ++ reason, 1)
  | .openBlock => ("-e expression #1, char 0: unmatched `\x7b'", 1)
  | .noLabel label => ("can't find label for jump to `" ++ String.ofList label ++ "'", 4)

/-! ### Texts -/

/-- The lines of a text, with the mark that ends them. -/
def rowsWith (separator : Char) : Bytes → List Row
  | [] => []
  | c :: r =>
    if c == separator then ⟨[], true⟩ :: rowsWith separator r
    else
      match rowsWith separator r with
      | [] => [⟨[c], false⟩]
      | row :: more => { row with text := c :: row.text } :: more

/-- How many steps a script may take. -/
def stepsOfEditing : Nat := 10000000

/-- The files that a script writes to. -/
def filesWritten (script : Script) : List Bytes :=
  (script.steps.toList.filterMap fun step =>
    match step.edit with
    | .writeFile file => some file
    | .writeFirst file => some file
    | .replace r => r.file
    | _ => none).eraseDups

/-- Puts what an editor has written to files there. -/
def deliver (files : List Bytes) (e : Editor) (s : State) : State :=
  files.foldl (fun s file =>
    let text := e.textOf [file]
    if file == "/dev/stdout".toList then s
    else if file == "/dev/stderr".toList then s.emit 2 text
    else if file == "/dev/null".toList then s
    else
      match s.disk.write (pathOf file) (toByteArray text) with
      | .ok disk => { s with disk := disk }
      | .error fault =>
        s.report 4 ("couldn't open file " ++ String.ofList file ++ ": " ++ reasonOf fault)) s

/-- The state behind an editor. -/
def behindEditor (e : Editor) (s : State) : State :=
  if e.lost then s.report 1 "-e expression #1, char 0: no previous regular expression"
  else s.withStatus (e.ended.getD s.status)

/-- How files that cannot be read are reported. -/
def unreadable : Reports :=
  ⟨2, fun file fault => "can't read " ++ String.ofList file ++ ": " ++ reasonOf fault⟩

/-- A directory ends the editing. -/
def stopAt (file : Bytes) (s : State) : State :=
  s.report 4 ("read error on " ++ String.ofList file ++ ": Is a directory")

/-- Edits texts as one. -/
def editTogether (x : Room) (files : List Bytes) (s : State) : State :=
  let isReadable (file : Bytes) : Bool := s.kindAt file != some .directory
  let (texts, read) := textsOf unreadable (files.takeWhile isReadable) s
  let texts := if files.isEmpty || files.head?.any isReadable then texts else []
  let rows := texts.flatMap fun (file, text) =>
    (rowsWith x.separator text).map fun row => (file, row)
  let e := Editor.runAll x stepsOfEditing (.start rows)
  -- what the script leaves of an input that is a file stays there
  let left := if files.isEmpty && e.ended.isSome then e.rest else []
  let size := left.foldl (fun n (_, row) => n + row.text.length + if row.closed then 1 else 0) 0
  let used := if files.isEmpty then s.consume (s.input.length - size) 4096 else read
  let s := { read with input := used.input }
  let s := s.emit 1 (e.textOf [[], "/dev/stdout".toList])
  let s := behindEditor e (deliver (filesWritten x.script) e s)
  match files.find? fun file => !isReadable file with
  | some file => if e.ended.isSome then s else stopAt file s
  | none => s

/-- Edits one file after the other, in place when there is a suffix; a suffix that is not empty
names the copy that is kept. -/
def editApart (x : Room) (suffix : Option Bytes) : List Bytes → Editor → State → Editor × State
  | [], e, s => (e, s)
  | file :: rest, e, s =>
    if e.ended.isSome then (e, s)
    else
      match fileText file s with
      | (.error fault, s) =>
        if fault != .isDirectory then
          editApart x suffix rest e (s.report unreadable.code (unreadable.wording file fault))
        else if suffix.isNone then (e, stopAt file s)
        else
          editApart x suffix rest e
            (s.report 4 ("couldn't edit " ++ String.ofList file ++ ": not a regular file"))
      | (.ok text, s) =>
        let rows := (rowsWith x.separator text).map fun row => (file, row)
        let fresh : Editor := { Editor.start rows with
          held := e.held
          finder := e.finder
          sources := e.sources }
        let ran := Editor.runAll x stepsOfEditing fresh
        match suffix with
        | none =>
          let owed : Bytes := if e.owing.contains [] && !ran.written.isEmpty then ['\n'] else []
          let ran := { ran with written := ran.written ++ ([], owed) :: e.written }
          editApart x suffix rest ran s
        | some suffix =>
          let copy (disk : Host.Disk) : Host.Disk :=
            if suffix.isEmpty then disk
            else
              (disk.write (pathOf (file ++ suffix)) (toByteArray text)).toOption.getD disk
          let s :=
            match (copy s.disk).write (pathOf file) (toByteArray (ran.textOf [[]])) with
            | .ok disk => { s with disk := disk }
            | .error fault =>
              s.report 4 ("couldn't open file " ++ String.ofList file ++ ": " ++ reasonOf fault)
          let others := ran.written.filter fun (name, _) => !name.isEmpty
          editApart x (some suffix) rest { ran with written := others ++ e.written } s

/-- Edits lines as a script says. -/
def sed : Utility := fun args s =>
  match Call.read editingForms (withPlace args) with
  | .error reason => s.report 1 (reason ++ "\n" ++ editingUsage)
  | .ok call =>
    match scriptParts call s with
    | .error none => s.fail 1 editingUsage
    | .error (some reason) => s.report 1 reason
    | .ok (parts, files) =>
      let text := ['\n'].intercalate (parts.map ScriptPart.text)
      match Editing.read (call.has 'E' || call.has 'r') text with
      | .error fault =>
        let (reason, code) := fault.message parts text.length
        s.report code reason
      | .ok script =>
        let look (file : Bytes) : Option Bytes :=
          if file == "/dev/stdin".toList then some s.input
          else (s.disk.read (pathOf file)).toOption.map ofByteArray
        let width := (((call.value? 'l').bind numberOf).map Int.toNat).getD 70
        let separator := if call.has 'z' then '\x00' else '\n'
        let x : Room := ⟨script, call.has 'n' || script.quiet, separator, width, look⟩
        match call.value? 'i', files with
        | some _, [] => s.report 4 "no input files"
        | some suffix, files =>
          let (e, s) := editApart x (some suffix) files (.start []) (s.withStatus 0)
          behindEditor e (deliver (filesWritten script) e s)
        | none, files =>
          if call.has 's' && !files.isEmpty then
            let (e, s) := editApart x none files (.start []) (s.withStatus 0)
            let s := s.emit 1 (e.textOf [[], "/dev/stdout".toList])
            behindEditor e (deliver (filesWritten script) e s)
          else editTogether x files (s.withStatus 0)

end MojoToolchain.Shell
