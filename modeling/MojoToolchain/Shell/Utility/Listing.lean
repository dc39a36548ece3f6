import MojoToolchain.Shell.Expansion
import MojoToolchain.Shell.Permissions
import MojoToolchain.Shell.Utility.Collation
import MojoToolchain.Shell.Utility.Naming
import MojoToolchain.Shell.Utility.Test

/-!
# Listing

`ls` lists files and what is in directories.  A `Listing` says which names are listed, in which
order, and how they are laid out.
-/

namespace MojoToolchain.Shell

open Host (Node Place)

/-! ### Entries -/

/-- What a list says of something. -/
structure Entry where
  name : Bytes
  isDirectory : Bool
  executable : Bool
  size : Nat
  /-- How many directories have it in them, itself included. -/
  links : Nat

namespace Entry

/-- The size of a directory. -/
def directorySize : Nat := 4096

/-- What a disk gives files room by. -/
def blockSize : Nat := 4096

/-- What stands at a path, under a name. -/
def at_ (s : State) (name path : Bytes) : Entry :=
  match s.disk.nodeAt (pathOf path) with
  | .ok (.file bytes executable) => ⟨name, false, executable, bytes.size, 1⟩
  | .ok .directory =>
    let inner := (namesIn s path).filter fun n => s.kindAt (inside path n) == some .directory
    ⟨name, true, true, directorySize, 2 + inner.length⟩
  | .error _ => ⟨name, false, isSystemPath s.disk path, 0, 1⟩

/-- The room that a disk gives something. -/
def room (e : Entry) : Nat := (e.size + blockSize - 1) / blockSize * blockSize

/-- What may be done with something, as letters. -/
def mode (e : Entry) : Bytes :=
  (if e.isDirectory then 'd' else '-') :: Permissions.row (Permissions.usual e.executable)

end Entry

/-- A size with a letter for its unit, rounded up. -/
def shownSize (unit : Nat) : Nat → Nat → List Char → Bytes
  | 0, n, _ => Nat.toDigits 10 n
  | _ + 1, n, [] => Nat.toDigits 10 n
  | bound + 1, n, letter :: letters =>
    -- `n` counts tenths of what the letter stands for, times the unit
    let tenths := (n + unit - 1) / unit
    if tenths < 100 then
      Nat.toDigits 10 (tenths / 10) ++ '.' :: Nat.toDigits 10 (tenths % 10) ++ [letter]
    else
      let whole := (n + 10 * unit - 1) / (10 * unit)
      if whole < unit then Nat.toDigits 10 whole ++ [letter]
      else shownSize unit bound ((n + unit - 1) / unit) letters

/-- A size that people read. -/
def readableSize (unit n : Nat) : Bytes :=
  if n < unit then Nat.toDigits 10 n
  else
    shownSize unit 9 (10 * n) (if unit == 1000 then "kMGTPEZYRQ".toList else "KMGTPEZYRQ".toList)

/-! ### Ways to list -/

namespace Listing

/-- Which names that begin with a point are listed. -/
inductive Hidden where
  | no
  /-- All but those of a directory itself and of the one above it. -/
  | almost
  | all
  deriving DecidableEq, Repr

/-- How names are laid out. -/
inductive Layout where
  | oneByOne
  | long
  | commas
  /-- In columns, from above to below. -/
  | down
  /-- In columns, from left to right. -/
  | across
  deriving DecidableEq, Repr

/-- The order of names. -/
inductive Sequencing where
  | byName
  | bySize
  | byEnding
  | byVersion
  | byWidth
  /-- As they stand in the directory. -/
  | none
  deriving DecidableEq, Repr

/-- What is marked behind names. -/
inductive Marking where
  | nothing
  | directories
  | all
  deriving DecidableEq, Repr

/-- How sizes are written. -/
inductive SizeForm where
  | plain
  | readable (unit : Nat)

/-- A value of an option means nothing. -/
structure Misreading where
  /-- The exit code. -/
  code : Nat
  /-- There is a hint at where to read more. -/
  hints : Bool
  reason : String

end Listing

/-- What is listed, and how. -/
structure Listing where
  hidden : Listing.Hidden
  layout : Listing.Layout
  order : Listing.Sequencing
  reversed : Bool
  /-- Directories stand in front of files. -/
  directoriesFirst : Bool
  /-- Directories are listed as files are, and not with what is in them. -/
  flat : Bool
  /-- What is in the directories of directories is listed too. -/
  deep : Bool
  marking : Listing.Marking
  style : Quoting.Style
  /-- What a terminal does not show is replaced. -/
  veiled : Bool
  sizes : Listing.SizeForm
  /-- The room that files have is shown. -/
  rooms : Bool
  /-- The columns of a long list that are left out or shown as numbers. -/
  owner : Bool
  group : Bool
  numbers : Bool
  /-- The time of every file in a long list. -/
  time : Bytes
  width : Nat
  tab : Nat
  /-- The names that are not listed. -/
  ignored : List Bytes
  /-- The names that are listed only with the hidden ones. -/
  ignoredUsually : List Bytes
  mark : Char

namespace Listing

/-! ### Options -/

/-- The options of a call. -/
def forms : OptionForms where
  flags := "aAbBcCdDfFgGhHiklLmnNopqQrRsStuUvxXZ1αγδθζν"
  valued := "ITwβηφστψικ"
  names := [("all", 'a'), ("almost-all", 'A'), ("author", 'α'), ("escape", 'b'),
    ("block-size", 'β'), ("ignore-backups", 'B'), ("color", 'χ'), ("directory", 'd'),
    ("dired", 'D'), ("classify", 'ω'), ("file-type", 'δ'), ("format", 'φ'), ("full-time", 'θ'),
    ("group-directories-first", 'γ'), ("no-group", 'G'), ("human-readable", 'h'), ("si", 'ν'),
    ("dereference-command-line", 'H'), ("dereference-command-line-symlink-to-dir", 'H'),
    ("hide", 'η'), ("hyperlink", 'λ'), ("indicator-style", 'ι'), ("inode", 'i'),
    ("ignore", 'I'), ("kibibytes", 'k'), ("dereference", 'L'), ("numeric-uid-gid", 'n'),
    ("literal", 'N'), ("hide-control-chars", 'q'), ("show-control-chars", 'H'),
    ("quote-name", 'Q'), ("quoting-style", 'κ'), ("reverse", 'r'), ("recursive", 'R'),
    ("size", 's'), ("sort", 'σ'), ("time", 'τ'), ("time-style", 'ψ'), ("tabsize", 'T'),
    ("width", 'w'), ("context", 'Z'), ("zero", 'ζ')]
  loose := "χωλ"

/-- A list of names in order, one to a line. -/
def usual : Listing where
  hidden := .no
  layout := .oneByOne
  order := .byName
  reversed := false
  directoriesFirst := false
  flat := false
  deep := false
  marking := .nothing
  style := .literal
  veiled := false
  sizes := .plain
  rooms := false
  owner := true
  group := true
  numbers := false
  time := "Jan  1 00:00".toList
  width := 80
  tab := 8
  ignored := []
  ignoredUsually := []
  mark := '\n'

/-- The words for layouts. -/
def layouts : List (String × Layout) :=
  [("verbose", .long), ("commas", .commas), ("horizontal", .across), ("vertical", .down),
   ("single-column", .oneByOne)]

/-- The groups of words of like meaning for layouts. -/
def layoutWords : List (List String) :=
  [["verbose", "long"], ["commas"], ["horizontal", "across"], ["vertical"], ["single-column"]]

/-- The words for orders; times are not known. -/
def orders : List (String × Sequencing) :=
  [("none", .none), ("time", .byName), ("size", .bySize), ("extension", .byEnding),
   ("version", .byVersion), ("width", .byWidth)]

/-- The words for what is marked. -/
def markings : List (String × Marking) :=
  [("none", .nothing), ("slash", .directories), ("file-type", .directories), ("classify", .all)]

/-- The words for when something is done. -/
def times : List (List String) :=
  [["always", "yes", "force"], ["never", "no", "none"], ["auto", "tty", "if-tty"]]

/-- The words for which time is shown. -/
def clocks : List (List String) :=
  [["atime", "access", "use"], ["ctime", "status"], ["mtime", "modification"],
   ["birth", "creation"]]

/-- The word of a list that the value of an option stands for, with what it means. -/
def among (option : String) (words : List (String × α)) (value : Bytes) (other : α) :
    Except Misreading α :=
  match choose option (words.map Prod.fst) value with
  | .ok word => .ok ((words.lookup word).getD other)
  | .error reason => .error ⟨1, true, reason⟩

/-- One of some words stands for the value of an option. -/
def check (option : String) (groups : List (List String)) (value : Bytes) :
    Except Misreading String :=
  (chooseAmong option groups value).mapError fun reason => ⟨1, true, reason⟩

/-- A layout without the columns of a long list. -/
def short (x : Listing) (layout : Layout) : Listing := { x with layout := layout }

/-- The time of files as a style shows it. -/
def timeIn (value : Bytes) : Except Misreading Bytes :=
  match value with
  | '+' :: text => .ok text
  | value =>
    let name := String.ofList value
    if ["full-iso", "posix-full-iso"].contains name then
      .ok "1970-01-01 00:00:00.000000000 +0000".toList
    else if ["long-iso", "posix-long-iso"].contains name then .ok "1970-01-01 00:00".toList
    else if ["iso", "posix-iso"].contains name then .ok "1970-01-01 ".toList
    else if ["locale", "posix-locale"].contains name then .ok usual.time
    else
      .error ⟨2, true, "invalid argument " ++ Quoting.plain value ++ " for 'time style'\n"
        ++ "Valid arguments are:\n  - [posix-]full-iso\n  - [posix-]long-iso\n  - [posix-]iso\n"
        ++ "  - [posix-]locale\n  - +FORMAT (e.g., +%H:%M) for a 'date'-style format"⟩

/-- What an option changes. -/
def add (x : Listing) (letter : Char) (value : Bytes) : Except Misreading Listing :=
  match letter with
  | 'a' => .ok { x with hidden := .all }
  | 'A' => .ok { x with hidden := .almost }
  | 'b' => .ok { x with style := .escape }
  | 'B' => .ok { x with ignored := "*~".toList :: ".*~".toList :: x.ignored }
  | 'I' => .ok { x with ignored := value :: x.ignored }
  | 'η' => .ok { x with ignoredUsually := value :: x.ignoredUsually }
  | 'C' => .ok (x.short .down)
  | 'x' => .ok (x.short .across)
  | 'm' => .ok (x.short .commas)
  | '1' => .ok (if x.layout == .long then x else x.short .oneByOne)
  | 'l' => .ok (x.short .long)
  | 'g' => .ok { x.short .long with owner := false }
  | 'o' => .ok { x.short .long with group := false }
  | 'n' => .ok { x.short .long with numbers := true }
  | 'G' => .ok { x with group := false }
  | 'd' => .ok { x with flat := true }
  | 'R' => .ok { x with deep := true }
  | 'r' => .ok { x with reversed := true }
  | 'f' =>
    .ok { x with
      hidden := .all
      order := .none
      rooms := false
      layout := if x.layout == .long then .oneByOne else x.layout }
  | 'F' => .ok { x with marking := .all }
  | 'ω' => do
    let word ← check "--classify" times (if value.isEmpty then ['a', 'l'] else value)
    .ok { x with marking := if word == "always" then .all else x.marking }
  | 'p' | 'δ' => .ok { x with marking := .directories }
  | 'ι' => return { x with marking := ← among "--indicator-style" markings value .nothing }
  | 'h' => .ok { x with sizes := .readable 1024 }
  | 'ν' => .ok { x with sizes := .readable 1000 }
  | 'k' => .ok { x with sizes := .plain }
  | 's' => .ok { x with rooms := true }
  | 'S' => .ok { x with order := .bySize }
  | 'X' => .ok { x with order := .byEnding }
  | 'v' => .ok { x with order := .byVersion }
  | 'U' => .ok { x with order := .none }
  | 'σ' => return { x with order := ← among "--sort" orders value .byName }
  | 'τ' => do
    let _ ← check "--time" clocks value
    .ok x
  | 'ψ' => return { x with time := ← timeIn value }
  | 'θ' => return { x.short .long with time := ← timeIn "full-iso".toList }
  | 'φ' => do
    let word ← check "--format" layoutWords value
    .ok { x with layout := (layouts.lookup word).getD .oneByOne }
  | 'N' => .ok { x with style := .literal }
  | 'Q' => .ok { x with style := .c }
  | 'κ' => return { x with style := ← among "--quoting-style" Quoting.Style.words value .literal }
  | 'q' => .ok { x with veiled := true }
  | 'χ' => do
    let _ ← check "--color" times (if value.isEmpty then ['a', 'l'] else value)
    .ok x
  | 'γ' => .ok { x with directoriesFirst := true }
  | 'ζ' =>
    .ok { x with
      mark := '\x00'
      style := .literal
      layout := if x.layout == .long then .long else .oneByOne }
  | 'w' =>
    match naturalOf value with
    | some width => .ok { x with width := width }
    | none => .error ⟨2, false, "invalid line width: " ++ Quoting.plain value⟩
  | 'T' =>
    match naturalOf value with
    | some tab => .ok { x with tab := tab }
    | none => .error ⟨2, false, "invalid tab size: " ++ Quoting.plain value⟩
  | _ => .ok x

/-- What a call asks for; a variable may say how wide lines are. -/
def ofCall (call : Call) (s : State) : Except Misreading Listing :=
  let given := (if s.exported.contains "COLUMNS".toList then s.value? "COLUMNS".toList else none)
  let width := (given.bind naturalOf).getD usual.width
  call.options.foldlM (fun x (letter, value) => x.add letter value) { usual with width := width }

/-! ### Order -/

/-- A name as it is shown. -/
def shown (x : Listing) (name : Bytes) : Bytes :=
  let veil (c : Char) : Char := if x.veiled && !Quoting.isSeen c then '?' else c
  ((x.style.show_ name).toList).map veil

/-- The ending of a name, with its point. -/
def endingOf (name : Bytes) : Bytes :=
  if name.contains '.' then '.' :: (name.splitOn '.').getLastD [] else []

/-- Compares entries. -/
def compareEntries (x : Listing) (a b : Entry) : Ordering :=
  let byName := compare a.name b.name
  match x.order with
  | .byName | .none => byName
  | .bySize => (compare b.size a.size).then byName
  | .byEnding => (compare (endingOf a.name) (endingOf b.name)).then byName
  | .byVersion => (Collation.byVersion a.name b.name).then byName
  | .byWidth => (compare (x.shown a.name).length (x.shown b.name).length).then byName

/-- The entries in order. -/
def arranged (x : Listing) (entries : List Entry) : List Entry :=
  let rows :=
    if x.order == .none then entries
    else
      entries.mergeSort fun a b =>
        (if x.reversed then x.compareEntries b a else x.compareEntries a b).isLE
  if x.directoriesFirst && x.order != .none then
    rows.filter (·.isDirectory) ++ rows.filter (!·.isDirectory)
  else rows

/-- A name is described by one of some patterns; only one that starts with a point describes a
hidden name. -/
def isAmong (patterns : List Bytes) (name : Bytes) : Bool :=
  patterns.any fun text =>
    (name.head? != some '.' || text.head? == some '.')
      && (Marked.ofBytes false text).pattern.describes name

/-- A name of a directory is listed. -/
def lists (x : Listing) (name : Bytes) : Bool :=
  let isShown :=
    match x.hidden with
    | .no => name.head? != some '.' && !isAmong x.ignoredUsually name
    | .almost | .all => true
  isShown && !isAmong x.ignored name

/-- The entries of a directory, in order. -/
def entriesIn (x : Listing) (s : State) (dir : Bytes) : List Entry :=
  let own := if x.hidden == .all then [['.'], ['.', '.']] else []
  let names :=
    match s.disk.locate (pathOf dir) with
    | .ok place => (s.disk.namesIn place).map fun name => ofText (String.ofList name)
    | .error _ => []
  let names := own ++ names
  x.arranged ((names.filter x.lists).map fun name => .at_ s name (inside dir name))

/-! ### Layout -/

/-- The mark behind a name. -/
def markOf (x : Listing) (e : Entry) : Bytes :=
  match x.marking, e.isDirectory, e.executable with
  | .directories, true, _ => ['/']
  | .all, true, _ => ['/']
  | .all, false, true => ['*']
  | _, _, _ => []

/-- A text at the right end of so many columns. -/
def atRight (width : Nat) (text : Bytes) : Bytes :=
  List.replicate (width - text.length) ' ' ++ text

/-- A size of a file. -/
def sizeText (x : Listing) (n : Nat) : Bytes :=
  match x.sizes with
  | .plain => Nat.toDigits 10 n
  | .readable unit => readableSize unit n

/-- The room of files. -/
def roomText (x : Listing) (n : Nat) : Bytes :=
  match x.sizes with
  | .plain => Nat.toDigits 10 (n / 1024)
  | .readable unit => readableSize unit n

/-- The width of the widest of some texts. -/
def widest (texts : List Bytes) : Nat := (texts.map List.length).foldl max 0

/-- A name with its mark, behind the room that a file has. -/
def label (x : Listing) (roomWidth : Nat) (e : Entry) : Bytes :=
  let room := if x.rooms then atRight roomWidth (x.roomText e.room) ++ [' '] else []
  room ++ x.shown e.name ++ x.markOf e

/-- The columns of a long list in front of the names. -/
def longRows (x : Listing) (entries : List Entry) : List Bytes :=
  let links := entries.map fun e => Nat.toDigits 10 e.links
  let sizes := entries.map fun e => x.sizeText e.size
  let rooms := widest (entries.map fun e => x.roomText e.room)
  let user := if x.numbers then ['0'] else "root".toList
  let owners := (if x.owner then [user] else []) ++ if x.group then [user] else []
  (entries.zip (links.zip sizes)).map fun (e, links', size) =>
    let room := if x.rooms then [atRight rooms (x.roomText e.room)] else []
    [' '].intercalate (room ++ [e.mode, atRight (widest links) links'] ++ owners
      ++ [atRight (widest sizes) size, x.time, x.shown e.name ++ x.markOf e])

/-- Blanks from one column to another, with tabs where they reach. -/
def gap (tab : Nat) : Nat → Nat → Nat → Bytes
  | 0, _, _ => []
  | bound + 1, column, goal =>
    if goal ≤ column then []
    else if tab != 0 && (column + 1) / tab < goal / tab then
      '\t' :: gap tab bound (column + tab - column % tab) goal
    else ' ' :: gap tab bound (column + 1) goal

/-- The widths of columns into which labels fall, each with its column. -/
def columnWidths (count : Nat) (labels : List (Nat × Bytes)) : List Nat :=
  (List.range count).map fun column =>
    let behind := if column + 1 == count then 0 else 2
    (labels.filter fun (c, _) => c == column).foldl (fun width (_, text) =>
      max width (text.length + behind)) 3

/-- Labels in as many columns as a line has room for. -/
def inColumns (x : Listing) (down : Bool) (labels : List Bytes) : Bytes :=
  let size := labels.length
  let rowsOf (count : Nat) : Nat := (size + count - 1) / count
  let placed (count : Nat) : List (Nat × Bytes) :=
    labels.zipIdx.map fun (text, i) => (if down then i / rowsOf count else i % count, text)
  let fits (count : Nat) : Bool :=
    (columnWidths count (placed count)).foldl (· + ·) 0 < x.width
  let most := min size ((x.width + 2) / 3)
  let counts := ((List.range most).map (· + 1)).reverse
  let count := (counts.find? fits).getD 1
  let widths := columnWidths count (placed count)
  let row (texts : List Bytes) : Bytes :=
    let write : Bytes × Nat × Nat → Bytes × Nat → Bytes × Nat × Nat :=
      fun (line, start, used) (text, width) =>
        (line ++ gap x.tab x.width.succ used start ++ text, start + width, start + text.length)
    ((texts.zip widths).foldl write ([], 0, 0)).1 ++ [x.mark]
  let lines :=
    if down then
      (List.range (rowsOf count)).map fun i =>
        (labels.zipIdx.filter fun (_, k) => k % rowsOf count == i).map Prod.fst
    else partsOf count size labels
  lines.flatMap row

/-- Labels behind one another with something between them, in lines. -/
def inLines (x : Listing) (between : Bytes) (labels : List Bytes) : Bytes :=
  let write : Bytes × Nat → Bytes × Bool → Bytes × Nat := fun (text, column) (label, first) =>
    if first then (text ++ label, label.length)
    else if x.width == 0 || column + label.length + 2 < x.width then
      (text ++ between ++ ' ' :: label, column + label.length + 2)
    else (text ++ between ++ x.mark :: label, label.length)
  let firsts := true :: List.replicate labels.length false
  ((labels.zip firsts).foldl write ([], 0)).1 ++ [x.mark]

/-- Entries as text. -/
def text (x : Listing) (entries : List Entry) : Bytes :=
  let roomWidth :=
    if x.layout == .commas then 0 else widest (entries.map fun e => x.roomText e.room)
  let labels := entries.map (x.label roomWidth)
  if entries.isEmpty then []
  else
    match x.layout with
    | .oneByOne => labels.flatMap (· ++ [x.mark])
    | .long => (x.longRows entries).flatMap (· ++ [x.mark])
    | .commas => x.inLines [','] labels
    | .down => if x.width == 0 then x.inLines [' '] labels else x.inColumns true labels
    | .across => if x.width == 0 then x.inLines [' '] labels else x.inColumns false labels

/-- What is in a directory as text, under its name if it has a title. -/
def directoryText (x : Listing) (titled : Bool) (s : State) (dir : Bytes) : Bytes :=
  let entries := x.entriesIn s dir
  let title := if titled then x.shown dir ++ [':', '\n'] else []
  let total := (entries.map Entry.room).foldl (· + ·) 0
  let front :=
    if x.rooms || x.layout == .long then "total ".toList ++ x.roomText total ++ [x.mark] else []
  title ++ front ++ x.text entries

/-- A directory and those below it, in order. -/
def dirsBelow (x : Listing) (s : State) : Nat → Bytes → List Bytes
  | 0, dir => [dir]
  | bound + 1, dir =>
    let inner := (x.entriesIn s dir).filter fun e =>
      e.isDirectory && !([['.'], ['.', '.']].contains e.name)
    dir :: inner.flatMap fun e => dirsBelow x s bound (inside dir e.name)

/-- Lists what arguments name. -/
def run (x : Listing) (paths : List Bytes) (s : State) : State :=
  let paths := if paths.isEmpty then [['.']] else paths
  let s := paths.foldl (fun s path =>
    match s.disk.kindOf (pathOf path) with
    | .ok _ => s
    | .error fault =>
      if isThere s path then s
      else s.report 2 (aboutFile "cannot access" path (reasonOf fault))) (s.withStatus 0)
  let entries := x.arranged ((paths.filter (isThere s)).map fun path => .at_ s path path)
  let files := entries.filter fun e => x.flat || !e.isDirectory
  let dirs := if x.flat then [] else (entries.filter (·.isDirectory)).map (·.name)
  let dirs := if x.deep then dirs.flatMap (x.dirsBelow s s.disk.nodes.length) else dirs
  let titled := 1 < paths.length || x.deep
  let blocks := (if files.isEmpty then [] else [x.text files])
    ++ dirs.map (x.directoryText titled s)
  s.emit 1 (['\n'].intercalate blocks)

end Listing

/-- Lists directories and files. -/
def ls : Utility :=
  withOptions 2 Listing.forms fun call s =>
    match Listing.ofCall call s with
    | .error fault =>
      if fault.hints then misused fault.code fault.reason s
      else s.report fault.code fault.reason
    | .ok x => x.run call.operands s

/-- The utilities that list files. -/
def listUtilities : Utilities := [("ls", ls)]

end MojoToolchain.Shell
