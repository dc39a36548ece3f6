import MojoToolchain.Shell.Arguments
import MojoToolchain.Shell.Expression

/-!
# Finding files

`find` goes through directories and asks a condition of all that it comes to.  A condition is read
once, with the `Scope` of the search; what it does when it is asked, such as writing a path, is a
part of it.
-/

namespace MojoToolchain.Shell

open Host (Node Place)

namespace Finding

/-! ### Conditions -/

/-- How a number is compared with another one. -/
inductive Relation where
  | less
  | equal
  | more
  deriving DecidableEq, Repr

/-- A number stands in a relation to another one. -/
def Relation.holds : Relation → Nat → Nat → Bool
  | less, n, bound => n < bound
  | equal, n, bound => n == bound
  | more, n, bound => bound < n

/-- How permissions are compared with others. -/
inductive Sharing where
  | exactly
  | all
  | any
  deriving DecidableEq, Repr

/-- What is asked of a file, and what is done with it. -/
inductive Condition where
  | always (holds : Bool)
  /-- The name is described by a pattern, or the whole path; letters may count without case. -/
  | named (pattern : Bytes) (folds whole : Bool)
  /-- The whole path is described by an expression. -/
  | written (expression : Expression) (folds : Bool)
  | kind (letters : Bytes)
  | empty
  /-- The size in units, rounded up. -/
  | size (relation : Relation) (bound unit : Nat)
  | mode (sharing : Sharing) (bits : Nat)
  | executable
  | links (relation : Relation) (bound : Nat)
  /-- It stands at the place of another path. -/
  | same (path : Bytes)
  /-- Writes the path with a mark behind it, perhaps into a file. -/
  | print (mark : Char) (file : Option Bytes)
  /-- Writes what a format says. -/
  | write (format : Bytes)
  /-- Calls a command for the path, from its directory if `inside`. -/
  | call (command : List Bytes) (inside asks : Bool)
  /-- Remembers the path for calls of a command with many of them. -/
  | collect (number : Nat) (command : List Bytes) (inside : Bool)
  | delete
  | prune
  | quit
  | not (a : Condition)
  | both (a b : Condition)
  | either (a b : Condition)
  | behind (a b : Condition)

/-- A condition does something with files, so that their paths need not be written. -/
def Condition.acts : Condition → Bool
  | .print _ _ | .write _ | .call _ _ _ | .collect _ _ _ | .delete => true
  | .not a => a.acts
  | .both a b => a.acts || b.acts
  | .either a b => a.acts || b.acts
  | .behind a b => a.acts || b.acts
  | _ => false

/-! ### Reading -/

/-- What is searched, and how. -/
structure Scope where
  /-- What is in a directory comes before the directory itself. -/
  upward : Bool
  /-- How deep files have to be for the condition to be asked. -/
  least : Nat
  most : Option Nat
  /-- The form of expressions; without one they are written in a form of their own. -/
  form : Option Expression.Form
  /-- The last word of the condition so far. -/
  last : Bytes

/-- A condition that has been read, with what is left of the arguments. -/
abbrev Reading := Except String (Condition × Scope × List Bytes)

/-- The words between backquotes and quotes. -/
def quoted (text : Bytes) : String := "\x60" ++ String.ofList text ++ "'"

/-- A relation and a number, such as `+3`. -/
def bounded? (text : Bytes) : Option (Relation × Nat) :=
  match text with
  | '+' :: digits => (naturalOf digits).map fun n => (.more, n)
  | '-' :: digits => (naturalOf digits).map fun n => (.less, n)
  | digits => (naturalOf digits).map fun n => (.equal, n)

/-- The units of sizes, by their letters. -/
def units : List (Char × Nat) :=
  [('b', 512), ('c', 1), ('w', 2), ('k', 1024), ('M', 1048576), ('G', 1073741824)]

/-- The size that a text such as `+3k` asks for. -/
def readSize (text : Bytes) : Except String Condition :=
  let letter := (text.getLast?).filter fun c => !c.isDigit
  let unit := (letter.map fun c => units.lookup c).getD (some 512)
  if text.isEmpty then .error "invalid null argument to -size"
  else
    match unit, bounded? (if letter.isSome then text.dropLast else text) with
    | some unit, some (relation, n) => .ok (.size relation n unit)
    | some _, none => .error ("Invalid argument " ++ quoted text ++ " to -size")
    | none, _ => .error ("invalid -size type " ++ quoted letter.toList)

/-- The kinds of files that a text such as `f,d` asks for. -/
def readKinds (text : Bytes) : Except String Condition :=
  let parts := text.splitOn ','
  match text, parts.find? fun part => part.length != 1 with
  | [], _ => .error "Arguments to -type should contain at least one letter"
  | _, some (_ :: _) => .error "Must separate multiple arguments to -type using: ','"
  | _, some [] =>
    .error "Last file type in list argument to -type is missing, i.e., list is ending on: ','"
  | _, none =>
    match parts.flatten.find? fun c => !"bcdpflsD".toList.contains c with
    | some c => .error ("Unknown argument to -type: " ++ String.ofList [c])
    | none => .ok (.kind parts.flatten)

/-- The permissions that a text asks for. -/
def readMode (text : Bytes) : Except String Condition :=
  let (sharing, rest) : Sharing × Bytes :=
    match text with
    | '-' :: rest => (.all, rest)
    | '/' :: rest => (.any, rest)
    | rest => (.exactly, rest)
  match Permissions.ofText? 0 0 rest with
  | some bits => .ok (.mode sharing bits)
  | none => .error ("invalid mode " ++ Quoting.plain text)

/-- An expression in which `+` and `?` repeat without backslashes, in the basic form. -/
def basicText : Bytes → Bytes
  | [] => []
  | '\\' :: c :: r => if c == '+' || c == '?' then c :: basicText r else '\\' :: c :: basicText r
  | c :: r => if c == '+' || c == '?' then '\\' :: c :: basicText r else c :: basicText r

/-- The names of forms of expressions, each with its form. -/
def forms : List (String × Option Expression.Form) :=
  [("findutils-default", none), ("ed", some (Expression.form false)), ("emacs", none),
   ("gnu-awk", some (Expression.form true)), ("grep", some (Expression.form false)),
   ("posix-awk", some (Expression.form true)), ("awk", some (Expression.form true)),
   ("posix-basic", some (Expression.form false)), ("posix-egrep", some (Expression.form true)),
   ("egrep", some (Expression.form true)), ("posix-extended", some (Expression.form true)),
   ("posix-minimal-basic", some (Expression.form false)), ("sed", some (Expression.form false))]

/-- The expression that describes whole paths. -/
def readExpression (x : Scope) (folds : Bool) (text : Bytes) : Except String Condition := do
  let (form, text) := match x.form with
    | some form => (form, text)
    | none => (Expression.form false, basicText text)
  let (e, _) ← Expression.parse form text
  return .written e folds

/-- The place for a path in a command. -/
def place : Bytes := ['\x7b', '\x7d']

/-- An argument with a path in its places. -/
def filled (path arg : Bytes) : Bytes :=
  ArgumentsCall.replaced place path (arg.length + 1) arg

/-- The words of a command up to its end; the flag says that many paths go into a call. -/
def readCommand (option : Bytes) (command : List Bytes) :
    List Bytes → Except String (List Bytes × Bool × List Bytes)
  | [] => .error ("missing argument to " ++ quoted option)
  | arg :: rest =>
    if arg == [';'] then .ok (command.reverse, false, rest)
    else if arg == ['+'] && command.head? == some place then
      .ok (command.reverse, true, rest)
    else readCommand option (arg :: command) rest

/-- The conditions without an argument. -/
def plainConditions : List (String × Condition) :=
  [("-true", .always true), ("-false", .always false), ("-empty", .empty),
   ("-executable", .executable), ("-readable", .always true), ("-writable", .always true),
   ("-nouser", .always false), ("-nogroup", .always false), ("-print", .print '\n' none),
   ("-print0", .print '\x00' none), ("-delete", .delete), ("-prune", .prune), ("-quit", .quit),
   ("-noleaf", .always true), ("-mount", .always true), ("-xdev", .always true),
   ("-follow", .always true), ("-daystart", .always true), ("-warn", .always true),
   ("-nowarn", .always true), ("-ignore_readdir_race", .always true),
   ("-noignore_readdir_race", .always true)]

/-- The options that compare the age of a file, which is nothing. -/
def ages : List String := ["-mtime", "-atime", "-ctime", "-mmin", "-amin", "-cmin", "-used"]

/-- The condition of an option with an argument. -/
def conditionOf (x : Scope) (s : State) (option : String) (value : Bytes) :
    Option (Except String Condition) :=
  let number (f : Relation → Nat → Condition) : Except String Condition :=
    match bounded? value with
    | some (relation, n) => .ok (f relation n)
    | none => .error ("invalid argument " ++ quoted value ++ " to " ++ quoted option.toList)
  let isRoot := value == "root".toList || value == ['0']
  let owned (reason : String) : Except String Condition :=
    if isRoot then .ok (.always true)
    else if (naturalOf value).isSome then .ok (.always false)
    else .error (Quoting.plain value ++ reason)
  let there (c : Condition) : Except String Condition :=
    if isThere s value then .ok c
    else .error (Quoting.always value ++ ": No such file or directory")
  match option with
  | "-name" => some (.ok (.named value false false))
  | "-iname" => some (.ok (.named value true false))
  | "-path" | "-wholename" => some (.ok (.named value false true))
  | "-ipath" | "-iwholename" => some (.ok (.named value true true))
  | "-regex" => some (readExpression x false value)
  | "-iregex" => some (readExpression x true value)
  | "-type" | "-xtype" => some (readKinds value)
  | "-size" => some (readSize value)
  | "-perm" => some (readMode value)
  | "-links" => some (number fun relation n => .links relation n)
  | "-uid" | "-gid" => some (number fun relation n => .always (relation.holds 0 n))
  | "-inum" => some (number fun _ _ => .always false)
  | "-user" => some (owned " is not the name of a known user")
  | "-group" => some (owned " is not the name of an existing group")
  | "-newer" | "-anewer" | "-cnewer" => some (there (.always false))
  | "-newermt" => some (.ok (.always true))
  | "-samefile" => some (there (.same value))
  | "-fprint" => some (.ok (.print '\n' (some value)))
  | "-fprint0" => some (.ok (.print '\x00' (some value)))
  | "-printf" =>
    let percents := (value.reverse.takeWhile (· == '%')).length
    some (if percents % 2 == 1 then .error "error: % at end of format string"
      else .ok (.write value))
  | option =>
    if ages.contains option then
      some (number fun relation n => .always (relation.holds 0 n))
    else none

/-- Reads a condition that has no parts. -/
def readPlain (x : Scope) (s : State) (option : Bytes) (rest : List Bytes) : Reading :=
  let name := String.ofList option
  let x := { x with last := option }
  let missing : Reading := .error ("missing argument to " ++ quoted option)
  let setting (value : Bytes) (f : Nat → Scope) (rest : List Bytes) : Reading :=
    match naturalOf value with
    | some n => .ok (.always true, f n, rest)
    | none =>
      .error ("Expected a positive decimal integer argument to " ++ name ++ ", but got "
        ++ Quoting.plain value)
  match plainConditions.lookup name, rest with
  | some c, rest =>
    .ok (c, if name == "-delete" then { x with upward := true } else x, rest)
  | none, rest =>
    if name == "-depth" || name == "-d" then .ok (.always true, { x with upward := true }, rest)
    else if ["-exec", "-execdir", "-ok", "-okdir"].contains name then
      match rest with
      | [';'] :: _ => .error ("invalid argument " ++ quoted [';'] ++ " to " ++ quoted option)
      | rest => do
        let (command, many, left) ← readCommand option [] rest
        let places := (command.filter fun arg => filled [] arg != arg).length
        let inside := name == "-execdir" || name == "-okdir"
        if many && 1 < places then
          .error ("Only one instance of \x7b\x7d is supported with " ++ name ++ " ... +")
        else if many then .ok (.collect left.length command.dropLast inside, x, left)
        else .ok (.call command inside (name == "-ok" || name == "-okdir"), x, left)
    else
      match rest with
      | [] =>
        let isKnown := (conditionOf x s name []).isSome
          || ["-maxdepth", "-mindepth", "-regextype"].contains name
        if isKnown then missing else .error ("unknown predicate " ++ quoted option)
      | value :: rest =>
        match name, conditionOf x s name value with
        | "-maxdepth", _ => setting value (fun n => { x with most := some n }) rest
        | "-mindepth", _ => setting value (fun n => { x with least := n }) rest
        | "-regextype", _ =>
          match forms.lookup (String.ofList value) with
          | some form => .ok (.always true, { x with form := form }, rest)
          | none =>
            .error ("Unknown regular expression type " ++ Quoting.plain value
              ++ "; valid types are "
              ++ ", ".intercalate (forms.map fun (name, _) => "'" ++ name ++ "'") ++ ".")
        | _, some condition => condition.map fun c => (c, x, rest)
        | _, none => .error ("unknown predicate " ++ quoted option)

/-- The words that stand between two conditions. -/
def betweenWords : List Bytes :=
  ["-a".toList, "-and".toList, "-o".toList, "-or".toList, [',']]

mutual

/-- Reads a condition, a negation, or conditions between brackets. -/
def readOne (s : State) (bound : Nat) (x : Scope) (args : List Bytes) : Reading :=
  match bound with
  | 0 => .error "invalid expression"
  | bound + 1 =>
    match args with
    | [] => .error "invalid expression"
    | arg :: rest =>
      if arg == ['!'] || arg == "-not".toList then
        if rest.isEmpty then .error ("expected an expression after " ++ Quoting.plain arg)
        else do
          let (c, x, rest) ← readOne s bound { x with last := arg } rest
          return (.not c, x, rest)
      else if arg == ['('] then
        match rest with
        | [')'] :: _ => .error "invalid expression; empty parentheses are not allowed."
        | rest => do
          let (c, x, rest) ← readList s bound { x with last := arg } rest
          match rest with
          | [')'] :: rest => return (c, x, rest)
          | _ =>
            .error ("invalid expression; I was expecting to find a ')' somewhere but did not "
              ++ "see one.")
      else if arg == [')'] then
        if betweenWords.contains x.last then
          .error ("expected an expression between " ++ Quoting.plain x.last ++ " and ')'")
        else .error "you have too many ')'"
      else if betweenWords.contains arg then
        .error ("invalid expression; you have used a binary operator " ++ Quoting.plain arg
          ++ " with nothing before it.")
      else if arg.head? != some '-' || arg.length < 2 then
        let hint :=
          "\nfind: possible unquoted pattern after predicate " ++ quoted x.last ++ "?"
        .error ("paths must precede expression: " ++ quoted arg
          ++ if isThere s arg && !x.last.isEmpty then hint else "")
      else readPlain x s arg rest

/-- Reads conditions all of which have to hold. -/
def readBoth (s : State) (bound : Nat) (x : Scope) (args : List Bytes) : Reading :=
  match bound with
  | 0 => .error "invalid expression"
  | bound + 1 => do
    let (a, x, rest) ← readOne s bound x args
    match rest with
    | [] => return (a, x, [])
    | word :: more =>
      if word == "-a".toList || word == "-and".toList then
        if more.isEmpty then .error ("expected an expression after " ++ Quoting.plain word)
        else do
          let (b, x, rest) ← readBoth s bound { x with last := word } more
          return (.both a b, x, rest)
      else if word == [')'] || betweenWords.contains word then return (a, x, rest)
      else do
        let (b, x, rest) ← readBoth s bound x rest
        return (.both a b, x, rest)

/-- Reads conditions one of which has to hold. -/
def readEither (s : State) (bound : Nat) (x : Scope) (args : List Bytes) : Reading :=
  match bound with
  | 0 => .error "invalid expression"
  | bound + 1 => do
    let (a, x, rest) ← readBoth s bound x args
    match rest with
    | [] => return (a, x, [])
    | word :: more =>
      if word == "-o".toList || word == "-or".toList then
        if more.isEmpty then .error ("expected an expression after " ++ Quoting.plain word)
        else do
          let (b, x, rest) ← readEither s bound { x with last := word } more
          return (.either a b, x, rest)
      else return (a, x, rest)

/-- Reads conditions the last of which counts. -/
def readList (s : State) (bound : Nat) (x : Scope) (args : List Bytes) : Reading :=
  match bound with
  | 0 => .error "invalid expression"
  | bound + 1 => do
    let (a, x, rest) ← readEither s bound x args
    match rest with
    | [','] :: [] => .error ("expected an expression after " ++ Quoting.plain [','])
    | [','] :: more => do
      let (b, x, rest) ← readList s bound { x with last := [','] } more
      return (.behind a b, x, rest)
    | rest => return (a, x, rest)

end

/-- Reads a whole condition. -/
def readAll (s : State) (args : List Bytes) : Except String (Scope × Condition) := do
  let start : Scope := ⟨false, 0, none, none, []⟩
  if args.isEmpty then return (start, .print '\n' none)
  let (c, x, rest) ← readList s (4 * args.length + 4) start args
  if rest.isEmpty then return (x, if c.acts then c else .both c (.print '\n' none))
  else .error "you have too many ')'"

/-! ### Asking -/

/-- Something that a search comes to. -/
structure Item where
  path : Bytes
  /-- The path where the search started. -/
  start : Bytes
  depth : Nat

namespace Item

/-- The last name of the path. -/
def name (x : Item) : Bytes :=
  let bare := withoutSlashes x.path
  if bare.isEmpty then x.path.take 1 else (bare.splitOn '/').getLastD []

/-- The name with the slashes that stand behind it. -/
def nameAsWritten (x : Item) : Bytes :=
  let bare := withoutSlashes x.path
  if bare.isEmpty then x.path.take 1 else x.name ++ x.path.drop bare.length

/-- The path without its last name. -/
def above (x : Item) : Bytes :=
  let bare := withoutSlashes x.path
  if bare.contains '/' then
    let dir := withoutSlashes ((bare.reverse.dropWhile (· != '/')).reverse)
    if dir.isEmpty then ['/'] else dir
  else if bare.isEmpty then []
  else ['.']

/-- What stands in front of the last slash of the path. -/
def front (x : Item) : Bytes :=
  if x.path.contains '/' then ((x.path.reverse.dropWhile (· != '/')).drop 1).reverse else ['.']

/-- The path from the start on. -/
def below (x : Item) : Bytes := (x.path.drop x.start.length).dropWhile (· == '/')

end Item

/-- Where a search has come to. -/
structure Walk where
  s : State
  /-- What is in the directory that was asked about is left out. -/
  pruned : Bool
  stopped : Bool
  /-- Something could not be done. -/
  failed : Bool
  /-- The paths for calls with many of them, the last one first, by the numbers of the
  conditions. -/
  collected : List (Nat × List Bytes × Bool × List Bytes)

/-- What a letter of a format stands for. -/
def part? (x : Item) (s : State) (letter : Char) : Option Bytes :=
  let e := Entry.at_ s x.path x.path
  let number (n : Nat) : Option Bytes := some (Nat.toDigits 10 n)
  match letter with
  | 'p' => some x.path
  | 'f' => some x.nameAsWritten
  | 'h' => some x.front
  | 'P' => some x.below
  | 'H' => some x.start
  | 'd' => number x.depth
  | 's' => number e.size
  | 'k' => number (e.room / 1024)
  | 'b' => number (e.room / 512)
  | 'n' => number e.links
  | 'y' | 'Y' => some (if e.isDirectory then ['d'] else ['f'])
  | 'm' => some (Nat.toDigits 8 (Permissions.usual e.executable))
  | 'M' => some e.mode
  | 'u' | 'g' => some user
  | 'U' | 'G' | 'i' | 'D' => some ['0']
  | 'l' => some []
  | _ => none

/-- Writes a format. -/
def formatted (x : Item) (s : State) : Nat → Bytes → Bytes
  | 0, _ => []
  | _ + 1, [] => []
  | bound + 1, '\\' :: r =>
    match octalDigits r, r with
    | some (c, rest), _ => c :: formatted x s bound rest
    | none, 'c' :: _ => []
    | none, c :: rest =>
      match escapeOf c with
      | some d => d :: formatted x s bound rest
      | none => '\\' :: c :: formatted x s bound rest
    | none, [] => ['\\']
  | bound + 1, '%' :: '%' :: r => '%' :: formatted x s bound r
  | bound + 1, '%' :: r =>
    let flags := r.takeWhile fun c => "-+ #0".toList.contains c
    let digits := (r.drop flags.length).takeWhile Char.isDigit
    let width := (naturalOf digits).getD 0
    match r.drop (flags.length + digits.length) with
    | [] => '%' :: formatted x s bound r
    | c :: rest =>
      match part? x s c with
      | none => '%' :: formatted x s bound r
      | some text =>
        let gap := List.replicate (width - text.length) ' '
        (if flags.contains '-' then text ++ gap else gap ++ text) ++ formatted x s bound rest
  | bound + 1, c :: r => c :: formatted x s bound r

/-- What is said of a format before it is used. -/
def formatWarnings : Nat → Bytes → List String
  | 0, _ => []
  | _ + 1, [] => []
  | bound + 1, '\\' :: c :: r =>
    let isKnown := c == 'c' || (escapeOf c).isSome || isOctal c
    let rest := formatWarnings bound r
    if isKnown then rest else ("warning: unrecognized escape " ++ quoted ['\\', c]) :: rest
  | bound + 1, '%' :: '%' :: r => formatWarnings bound r
  | bound + 1, '%' :: r =>
    let rest := r.dropWhile fun c => "-+ #0".toList.contains c || c.isDigit
    match rest with
    | [] => []
    | c :: more =>
      if "pfhPHdskbnyYmMugUGiDlaActTFS".toList.contains c then formatWarnings bound more
      else
        ("warning: unrecognized format directive " ++ quoted ['%', c]) :: formatWarnings bound more
  | bound + 1, _ :: r => formatWarnings bound r

/-- The formats of a condition. -/
def Condition.formats : Condition → List Bytes
  | .write format => [format]
  | .not a => a.formats
  | .both a b => a.formats ++ b.formats
  | .either a b => a.formats ++ b.formats
  | .behind a b => a.formats ++ b.formats
  | _ => []

/-- The files into which a condition writes. -/
def Condition.files : Condition → List Bytes
  | .print _ (some file) => [file]
  | .not a => a.files
  | .both a b => a.files ++ b.files
  | .either a b => a.files ++ b.files
  | .behind a b => a.files ++ b.files
  | _ => []

/-- Calls a command where a directory is the start of relative paths. -/
def callIn (call : List Bytes → State → State) (dir : Option Bytes) (command : List Bytes)
    (s : State) : State :=
  match dir.map fun dir => s.disk.locate (pathOf dir) with
  | some (.ok place) =>
    let ran := call command { s with disk := { s.disk with here := place } }
    { ran with disk := { ran.disk with here := s.disk.here } }
  | _ => call command s

/-- The path of something from its own directory. -/
def fromInside (x : Item) : Bytes := if x.path == ['/'] then x.path else '.' :: '/' :: x.name

/-- Takes away what a search comes to; the flag says that it is gone. -/
def deleted (x : Item) (w : Walk) : Bool × Walk :=
  let failed (reason : String) : Bool × Walk :=
    (false, { w with
      s := w.s.report 1 (aboutFile "cannot delete" x.path reason)
      failed := true })
  if x.name == ['.'] then (true, w)
  else
    match w.s.disk.kindOf (pathOf x.path) with
    | .error fault => failed (reasonOf fault)
    | .ok kind =>
      if kind == .directory && !(namesIn w.s x.path).isEmpty then failed "Directory not empty"
      else (true, { w with s := { w.s with disk := w.s.disk.remove (pathOf x.path) } })

/-- Asks a condition of something, and does what it says. -/
def ask (call : List Bytes → State → State) (x : Item) : Condition → Walk → Bool × Walk
  | .always holds, w => (holds, w)
  | .named pattern folds whole, w =>
    let fold (text : Bytes) : Bytes := if folds then text.map Char.toLower else text
    let text := if whole then x.path else x.name
    ((Marked.ofBytes false (fold pattern)).pattern.describes (fold text), w)
  | .written e folds, w =>
    ((e.longest? (Expression.manner folds) none x.path).any (·.left == 0), w)
  | .kind letters, w =>
    let letter := if w.s.kindAt x.path == some .directory then 'd' else 'f'
    (letters.contains letter, w)
  | .empty, w =>
    (if w.s.kindAt x.path == some .directory then (namesIn w.s x.path).isEmpty
      else !isFilled w.s x.path, w)
  | .size relation bound unit, w =>
    let size := (Entry.at_ w.s x.path x.path).size
    (relation.holds ((size + unit - 1) / unit) bound, w)
  | .mode sharing bits, w =>
    let own := Permissions.usual (isExecutable w.s x.path)
    let holds :=
      match sharing with
      | .exactly => own == bits
      | .all => own &&& bits == bits
      | .any => bits == 0 || own &&& bits != 0
    (holds, w)
  | .executable, w => (isExecutable w.s x.path, w)
  | .links relation bound, w => (relation.holds (Entry.at_ w.s x.path x.path).links bound, w)
  | .same path, w => (isSamePlace w.s x.path path, w)
  | .print mark none, w => (true, { w with s := w.s.emit 1 (x.path ++ [mark]) })
  | .print mark (some file), w =>
    match saveText file (x.path ++ [mark]) true w.s with
    | .ok s => (true, { w with s := s })
    | .error _ => (true, w)
  | .write format, w =>
    (true, { w with s := w.s.emit 1 (formatted x w.s (format.length + 1) format) })
  | .call command inside asks, w =>
    let path := if inside then fromInside x else x.path
    let question := "< " ++ String.ofList (command.headD []) ++ " ... " ++ String.ofList x.path
      ++ " > ? "
    let (allowed, s) :=
      if asks then
        let s := w.s.emit 2 question.toList
        let answer := s.input.takeWhile (· != '\n')
        (answer.head?.any fun c => c == 'y' || c == 'Y',
          { s with input := s.input.drop (answer.length + 1) })
      else (true, w.s)
    if !allowed then (false, { w with s := s })
    else
      let s := callIn call (if inside then some x.above else none) (command.map (filled path)) s
      (s.status == 0, { w with s := s })
  | .collect number command inside, w =>
    let (path, command) := (if inside then fromInside x else x.path, command)
    let old := ((w.collected.lookup number).map fun (_, _, paths) => paths).getD []
    let others := w.collected.filter (·.1 != number)
    (true, { w with collected := others ++ [(number, command, inside, path :: old)] })
  | .delete, w => deleted x w
  | .prune, w => (true, { w with pruned := true })
  | .quit, w => (true, { w with stopped := true })
  | .not a, w =>
    let (holds, w) := ask call x a w
    (!holds, w)
  | .both a b, w =>
    let (holds, w) := ask call x a w
    if holds && !w.stopped then ask call x b w else (holds, w)
  | .either a b, w =>
    let (holds, w) := ask call x a w
    if holds || w.stopped then (holds, w) else ask call x b w
  | .behind a b, w =>
    let (holds, w) := ask call x a w
    if w.stopped then (holds, w) else ask call x b w

/-! ### The search -/

/-- Goes through what stands at a path, and all that is below it. -/
def visit (call : List Bytes → State → State) (scope : Scope) (c : Condition) :
    Nat → Item → Walk → Walk
  | 0, _, w => w
  | bound + 1, x, w =>
    if w.stopped then w
    else
      let asked (w : Walk) : Walk :=
        if w.stopped || x.depth < scope.least then w else (ask call x c w).2
      let inside (w : Walk) : Walk :=
        let isDirectory := w.s.kindAt x.path == some .directory
        if !isDirectory || w.stopped || w.pruned || scope.most.any (· ≤ x.depth) then w
        else
          let names :=
            match w.s.disk.locate (pathOf x.path) with
            | .ok place => (w.s.disk.namesIn place).map fun name => ofText (String.ofList name)
            | .error _ => []
          names.foldl (fun w name =>
            visit call scope c bound ⟨MojoToolchain.Shell.inside x.path name, x.start, x.depth + 1⟩
              { w with pruned := false }) w
      if scope.upward then asked { inside w with pruned := false }
      else inside (asked { w with pruned := false })

/-- Goes through what stands at a path where a search starts. -/
def visitStart (call : List Bytes → State → State) (scope : Scope) (c : Condition) (w : Walk)
    (path : Bytes) : Walk :=
  if w.stopped then w
  else
    match w.s.disk.kindOf (pathOf path) with
    | .error fault =>
      if isThere w.s path then (ask call ⟨path, path, 0⟩ c w).2
      else
        { w with
          s := w.s.report 1 (Quoting.always path ++ ": " ++ reasonOf fault)
          failed := true }
    | .ok _ => visit call scope c w.s.disk.nodes.length.succ ⟨path, path, 0⟩ w

/-- Calls the commands for which paths have been remembered. -/
def callCollected (call : List Bytes → State → State) (w : Walk) : Walk :=
  w.collected.foldl (fun w (_, command, _, paths) =>
    let s := call (command ++ paths.reverse) w.s
    { w with s := s, failed := w.failed || s.status != 0 }) w

/-- The options in front of the paths, dropped. -/
def dropOptions : List Bytes → List Bytes
  | [] => []
  | arg :: rest =>
    if ["-H".toList, "-L".toList, "-P".toList, ['-', '-']].contains arg || arg.take 2 == ['-', 'O']
    then dropOptions rest
    else arg :: rest

/-- An argument starts the condition. -/
def startsCondition (arg : Bytes) : Bool :=
  (arg.head? == some '-' && 1 < arg.length) || arg == ['('] || arg == ['!']

end Finding

/-- Looks for files; `call` runs commands. -/
def find (call : List Bytes → State → State) : Utility := fun args s =>
  let args := Finding.dropOptions args
  let paths := args.takeWhile fun arg => !Finding.startsCondition arg
  match Finding.readAll s (args.drop paths.length) with
  | .error reason => s.report 1 reason
  | .ok (scope, c) =>
    let said := c.formats.flatMap fun format => Finding.formatWarnings (format.length + 1) format
    let s := said.foldl (fun s reason => s.report 0 reason) (s.withStatus 0)
    let s := c.files.foldl (fun s file =>
      match saveText file [] false s with
      | .ok s => s
      | .error _ => s) s
    let paths := if paths.isEmpty then [['.']] else paths
    let w := paths.foldl (Finding.visitStart call scope c) ⟨s, false, false, false, []⟩
    let w := Finding.callCollected call w
    w.s.withStatus (if w.failed then 1 else 0)

end MojoToolchain.Shell
