import MojoToolchain.Shell.Awk.Scanner
import MojoToolchain.Shell.Awk.Value

/-!
# The state of an awk program

A `Machine` has variables in slots, a record with its fields, the input that is still to be read,
and what has been written.
-/

namespace MojoToolchain.Shell.Awk

/-- What a variable holds. -/
inductive Slot where
  | unset
  | scalar (v : Value)
  | table (t : Table)
  /-- The table of another slot, if it is used as one. -/
  | like (slot : Nat)

/-- How a command is run in a state of the shell. -/
abbrev RunCommand := Bytes → State → State

/-- The state of a program that runs. -/
structure Machine where
  s : State
  /-- What has been written and not yet been let out, the last in front. -/
  out : Bytes
  slots : Array Slot
  globals : List (Bytes × Nat)
  /-- The parameters of the function that runs. -/
  frame : List (Bytes × Nat)
  /-- How many values are held, for operations that have begun and for functions that run. -/
  held : Nat
  /-- How many calls of functions are under way. -/
  calls : Nat
  record : Bytes
  fields : List Value
  /-- What is left of the input that is read. -/
  input : Option Bytes
  /-- The number of the next argument. -/
  argument : Nat
  /-- An argument has named a file. -/
  anyFile : Bool
  /-- The arguments are used up. -/
  exhausted : Bool
  /-- What is left of files and of what commands have written, by their names. -/
  sources : List (Bytes × Bytes)
  /-- What has been written to files and to commands, the last in front; the flag is true for
  commands. -/
  sinks : List (Bytes × Bool × Bytes)
  /-- The rules that have begun with their records. -/
  spans : List Nat
  /-- The expressions that have been read. -/
  compiled : List (Bytes × Expression)
  /-- The last seed, and where the numbers that it gives stand. -/
  seed : Double × Nat
  /-- The exit code that was asked for last. -/
  code : Nat
  /-- The exit code, at the end. -/
  ended : Option Nat
  /-- The end came because something went wrong. -/
  broken : Bool

namespace Machine

/-! ### Variables -/

/-- The slot of a name, which is a new one when there is none. -/
def slotOf (m : Machine) (name : Bytes) : Nat × Machine :=
  match m.frame.lookup name <|> m.globals.lookup name with
  | some n => (n, m)
  | none =>
    let n := m.slots.size
    (n, { m with slots := m.slots.push .unset, globals := (name, n) :: m.globals })

/-- The slot in which the table of a slot is. -/
def baseOf (m : Machine) : Nat → Nat → Nat
  | 0, n => n
  | bound + 1, n =>
    match m.slots[n]? with
    | some (.like other) => baseOf m bound other
    | _ => n

/-- The table of a name. -/
def tableOf (m : Machine) (name : Bytes) : Nat × Table × Machine :=
  let (n, m) := m.slotOf name
  let n := m.baseOf (n + 1) n
  match m.slots[n]? with
  | some (.table t) => (n, t, m)
  | _ => (n, .empty, m)

/-- Puts a table into a slot. -/
def putTable (m : Machine) (n : Nat) (t : Table) : Machine :=
  { m with slots := m.slots.setIfInBounds n (.table t) }

/-- The value of a variable. -/
def get (m : Machine) (name : Bytes) : Value :=
  if name == ['N', 'F'] then .ofNat m.fields.length
  else
    match m.frame.lookup name <|> m.globals.lookup name with
    | some n =>
      match m.slots[n]? with
      | some (.scalar v) => v
      | _ => .unset
    | none => .unset

/-- Sets a variable that has nothing to do with the record. -/
def put (m : Machine) (name : Bytes) (v : Value) : Machine :=
  let (n, m) := m.slotOf name
  { m with slots := m.slots.setIfInBounds n (.scalar v) }

/-- The text of a variable. -/
def textOf (m : Machine) (name : String) : Bytes := (m.get name.toList).toText "%.6g".toList

/-- The text of a value. -/
def shown (m : Machine) (v : Value) : Bytes :=
  match v with
  | .number x => numberText (m.textOf "CONVFMT") x
  | v => v.toText []

/-- The key of a table that values give. -/
def keyOf (m : Machine) (vs : List Value) : Bytes :=
  (m.textOf "SUBSEP").intercalate (vs.map m.shown)

/-- Looks for a key in a table; a new one gets a place when it is asked for. -/
def touch (m : Machine) (name : Bytes) (vs : List Value) (create : Bool) :
    Bytes × Table × Nat × Machine :=
  let (n, t, m) := m.tableOf name
  let key := m.keyOf vs
  let t :=
    match vs with
    | [.number x] =>
      if isSmallWhole x then t.touchInt x.whole create else t.touch key create
    | _ => t.touch key create
  (key, t, n, m.putTable n t)

/-! ### Ending -/

/-- Lets out what has been written. -/
def letOut (m : Machine) : Machine :=
  { m with s := m.s.emit 1 m.out.reverse, out := [] }

/-- A text with marks around it, as messages have it. -/
def inMarks (s : Bytes) : String := "\"" ++ String.ofList s ++ "\""

/-- The program ends because of something that went wrong. -/
def abort (m : Machine) (message : String) : Machine :=
  let place := "\tFILENAME=" ++ inMarks (m.textOf "FILENAME") ++ " FNR="
    ++ String.ofList (m.textOf "FNR") ++ " NR=" ++ String.ofList (m.textOf "NR")
  { m with
    s := m.s.fail 2 ("awk: run time error: " ++ message ++ "\n" ++ place)
    ended := some 2
    broken := true }

/-- The number of values that a machine has room for. -/
def mostHeld : Nat := 1007

/-- The program ends because it holds too many values. -/
def overflow (m : Machine) : Machine :=
  if m.broken then m
  else
    { m with
      s := m.s.fail 2 "awk: program limit exceeded: eval stack size=1024"
      ended := some 2
      broken := true }

/-- How deep calls of functions may be nested that hold nothing. -/
def deepestCall : Nat := 40000

/-- The program ends by a signal, because of calls of functions without end; what it has not let out
is lost. -/
def crash (m : Machine) : Machine :=
  { m with
    s := { m.s with ended := some (.signal 11) }
    out := []
    ended := some 2
    broken := true }

/-- Does something while so many more values are held. -/
def holding (n : Nat) (f : Machine → α × Machine) (m : Machine) : α × Machine :=
  let (v, after) := f { m with held := m.held + n }
  (v, { after with held := m.held })

/-! ### Expressions -/

/-- The expression that a text is. -/
def compile (m : Machine) (text : Bytes) : Option Expression × Machine :=
  match m.compiled.lookup text with
  | some e => (some e, m)
  | none =>
    let plain := plainRegex readEscape (text.length + 1) text
    match Expression.parse Expression.escapedForm plain with
    | .ok (e, _) => (some e, { m with compiled := (text, e) :: m.compiled })
    | .error reason =>
      let start := "regular expression compile failed (" ++ reason ++ ")\n"
      (none, m.abort (start ++ String.ofList text))

/-- The expression that a separator is: one character that means nothing special, or a regular
expression. -/
def separator (m : Machine) (text : Bytes) : Option Expression × Machine :=
  match text with
  | [c] => (some (.append (.char c) .empty), m)
  | text => m.compile text

/-- The pieces of a text. -/
def split (m : Machine) (text : Bytes) (separator : Bytes) : List Bytes × Machine :=
  if separator == [' '] then (splitWords text, m)
  else if text.isEmpty then ([], m)
  else if separator.isEmpty then (text.map fun c => [c], m)
  else
    match m.separator separator with
    | (some e, m) => (splitBy e (text.length + 1) none text, m)
    | (none, m) => ([], m)

/-! ### Records -/

/-- Sets the record, and cuts it into fields. -/
def setRecord (m : Machine) (record : Bytes) : Machine :=
  let fs := m.textOf "FS"
  let byBlocks := (m.textOf "RS").isEmpty && fs != [' ']
  let pieces : List Bytes × Machine :=
    if byBlocks then
      let rows := record.splitOn '\n'
      rows.foldl (fun (all, m) row =>
        let (pieces, m) := m.split row fs
        (all ++ pieces, m)) ([], m)
    else m.split record fs
  { pieces.2 with record := record, fields := pieces.1.map Value.ofInput }

/-- Makes the record anew of its fields. -/
def joinFields (m : Machine) (fields : List Value) : Machine :=
  { m with
    fields := fields
    record := (m.textOf "OFS").intercalate (fields.map m.shown) }

/-- Sets a variable. -/
def set (m : Machine) (name : Bytes) (v : Value) : Machine :=
  if name == ['N', 'F'] then
    let n := v.toInt.toNat
    let more := List.replicate (n - m.fields.length) (Value.text [])
    m.joinFields (m.fields.take n ++ more)
  else m.put name v

/-- The value of a field. -/
def field (m : Machine) (n : Nat) : Value :=
  if n == 0 then .ofInput m.record else (m.fields[n - 1]?).getD .unset

/-- Sets a field. -/
def setField (m : Machine) (n : Nat) (v : Value) : Machine :=
  if n == 0 then m.setRecord (m.shown v)
  else
    let more := List.replicate (n - m.fields.length) (Value.text [])
    m.joinFields ((m.fields ++ more).set (n - 1) v)

/-- The first record of a text, by the separator of records, and what is left. -/
def cut (m : Machine) (text : Bytes) : Option (Bytes × Bytes) × Machine :=
  let rs := m.textOf "RS"
  if rs.isEmpty then
    let text := text.dropWhile (· == '\n')
    if text.isEmpty then (none, m)
    else
      let (record, rest) := paragraph text
      (some (record, rest.dropWhile (· == '\n')), m)
  else if text.isEmpty then (none, m)
  else if rs == ['\n'] then
    let record := text.takeWhile (· != '\n')
    (some (record, text.drop (record.length + 1)), m)
  else
    match m.separator rs with
    | (none, m) => (none, m)
    | (some e, m) =>
      match e.find? Expression.exactly none text with
      | some (front, _ :: _, found) => (some (front, found.rest), m)
      | _ => (some (text, []), m)
where
  /-- The lines up to an empty one. -/
  paragraph : Bytes → Bytes × Bytes
    | [] => ([], [])
    | ['\n'] => ([], [])
    | '\n' :: '\n' :: r => ([], r)
    | c :: r =>
      let (record, rest) := paragraph r
      (c :: record, rest)

/-! ### Input -/

/-- An argument sets a variable. -/
def assignmentIn (arg : Bytes) : Option (Bytes × Bytes) :=
  let name := arg.takeWhile fun c => c.isAlphanum || c == '_'
  match arg.drop name.length with
  | '=' :: value =>
    if name.head?.any fun c => c.isAlpha || c == '_' then some (name, value) else none
  | _ => none

/-- Sets a variable as an argument says. -/
def assignFrom (m : Machine) (name value : Bytes) : Machine :=
  m.set name (.ofInput (unescapeText (value.length + 1) value))

/-- What a file holds, or the input of the shell; it is used up. -/
def openSource (m : Machine) (file : Bytes) : Except String Bytes × Machine :=
  if file == ['-'] || file == "/dev/stdin".toList then
    (.ok m.s.input, { m with s := { m.s with input := [] } })
  else
    let (text, s) := fileText file m.s
    (text.mapError reasonOf, { m with s := s })

/-- Opens what is read next: the next argument that names a file, or the input of the shell when
none does. -/
def openNext (m : Machine) : Nat → Machine
  | 0 => { m with exhausted := true }
  | bound + 1 =>
    let (_, args, m) := m.tableOf "ARGV".toList
    let count := (m.get "ARGC".toList).toInt.toNat
    if count ≤ m.argument then
      if m.anyFile then { m with exhausted := true, input := none }
      else
        let (text, m) := m.openSource ['-']
        let text := text.toOption.getD []
        { m.put "FILENAME".toList (.text ['-']) with input := some text, exhausted := true }
    else
      let arg := m.shown (args.get (Table.keyOf m.argument))
      let m := { m with argument := m.argument + 1 }
      match arg, assignmentIn arg with
      | [], _ => openNext m bound
      | _, some (name, value) => openNext (m.assignFrom name value) bound
      | arg, none =>
        let m := m.put "FILENAME".toList (.text arg)
        let m := m.put "FNR".toList (.ofNat 0)
        match m.openSource arg with
        | (.ok text, m) => { m with input := some text, anyFile := true }
        | (.error reason, m) =>
          { m with
            s := m.s.fail 2 ("awk: cannot open " ++ inMarks arg ++ " (" ++ reason ++ ")")
            ended := some 2
            broken := true }

/-- The next record of the input. -/
def nextRecord (m : Machine) : Nat → Option Bytes × Machine
  | 0 => (none, m)
  | bound + 1 =>
    if m.ended.isSome then (none, m)
    else
      match m.input with
      | some text =>
        match m.cut text with
        | (some (record, rest), m) => (some record, { m with input := some rest })
        | (none, m) => nextRecord { m with input := none } bound
      | none =>
        if m.exhausted then (none, m)
        else
          let m := m.openNext (bound + 1)
          match m.input with
          | some _ => nextRecord m bound
          | none => (none, m)

/-- One more record has been read. -/
def count (m : Machine) (names : List String) : Machine :=
  names.foldl (fun m name =>
    m.put name.toList (.number ((m.get name.toList).toNumber.add (.ofNat 1)))) m

/-! ### Output -/

/-- Appends to a file. -/
def appendFile (s : State) (file text : Bytes) : State :=
  let old : Bytes :=
    match s.disk.read (pathOf file) with
    | .ok bytes => ofByteArray bytes
    | .error _ => []
  match s.disk.write (pathOf file) (toByteArray (old ++ text)) with
  | .ok disk => { s with disk := disk }
  | .error _ => s

/-- Opens a file to write to, unless it is open. -/
def openSink (m : Machine) (name : Bytes) (isCommand append : Bool) : Machine :=
  if m.sinks.any fun (n, c, _) => n == name && c == isCommand then m
  else
    let opened := { m with sinks := m.sinks ++ [(name, isCommand, [])] }
    if isCommand || append then opened
    else
      match m.s.disk.write (pathOf name) ⟨#[]⟩ with
      | .ok disk => { opened with s := { m.s with disk := disk } }
      | .error fault =>
        { m with
          s := m.s.fail 2 ("awk: cannot open " ++ inMarks name ++ " for output ("
            ++ reasonOf fault ++ ")")
          ended := some 2
          broken := true }

/-- Writes to a file or a command. -/
def writeTo (m : Machine) (name : Bytes) (isCommand append : Bool) (text : Bytes) : Machine :=
  if !isCommand && (name == ['-'] || name == "/dev/stdout".toList) then
    { m with out := text.reverseAux m.out }
  else if !isCommand && name == "/dev/stderr".toList then { m with s := m.s.emit 2 text }
  else if !isCommand && name == "/dev/null".toList then m
  else
    let m := m.openSink name isCommand append
    { m with
      sinks := m.sinks.map fun (n, c, old) =>
        if n == name && c == isCommand then (n, c, text.reverseAux old) else (n, c, old) }

/-- Lets out what has been written to files. -/
def letOutFiles (m : Machine) : Machine :=
  m.sinks.foldl (fun m (name, isCommand, text) =>
    if isCommand || text.isEmpty then m
    else
      { m with
        s := appendFile m.s name text.reverse
        sinks := m.sinks.map fun (n, c, old) =>
          if n == name && c == isCommand then (n, c, []) else (n, c, old) })
    m.letOut

/-- Runs a command with an input of its own. -/
def runOn (run : RunCommand) (m : Machine) (command input : Bytes) : Machine :=
  let m := m.letOutFiles
  let ran := run command { m.s with input := input, rewinds := false }
  { m with s := { ran with input := m.s.input, rewinds := m.s.rewinds } }

/-- Closes a file or a command; the number says whether it was open. -/
def close (run : RunCommand) (m : Machine) (name : Bytes) : Int × Machine :=
  let open_ := m.sinks.filter fun (n, _, _) => n == name
  let known := !open_.isEmpty || (m.sources.lookup name).isSome
  let m := m.letOutFiles
  let m := open_.foldl (fun m (_, isCommand, text) =>
    if isCommand then m.runOn run name text.reverse else m) m
  let code : Int := if open_.any fun (_, c, _) => c then m.s.status else 0
  (if known then code else -1,
    { m with
      sinks := m.sinks.filter fun (n, _, _) => n != name
      sources := m.sources.filter fun (n, _) => n != name })

/-- What a command writes. -/
def outputOf (run : RunCommand) (m : Machine) (command : Bytes) : Bytes × Machine :=
  let m := m.letOutFiles
  let (text, s) := m.s.drained (run command m.s.openPipe)
  (text, { m with s := s })

/-- The next record of a file or of what a command writes: 1 when there is one, 0 at the end, and
-1 when the file cannot be read. -/
def recordFrom (run : RunCommand) (m : Machine) (ofCommand : Bool) (name : Bytes) :
    Int × Bytes × Machine :=
  let opened : Except String Bytes × Machine :=
    match m.sources.lookup name with
    | some text => (.ok text, m)
    | none =>
      if ofCommand then
        let (text, m) := m.outputOf run name
        (.ok text, m)
      else m.letOutFiles.openSource name
  match opened with
  | (.error _, m) => (-1, [], m)
  | (.ok text, m) =>
    let keep (m : Machine) (rest : Bytes) : Machine :=
      { m with sources := (name, rest) :: m.sources.filter fun (n, _) => n != name }
    match m.cut text with
    | (some (record, rest), m) => (1, record, keep m rest)
    | (none, m) => (0, [], keep m [])

/-- Lets out and closes everything. -/
def finish (run : RunCommand) (m : Machine) : Machine :=
  let m := m.letOutFiles
  m.sinks.foldl (fun m (name, isCommand, text) =>
    if isCommand then m.runOn run name text.reverse else m) m

end Machine

end MojoToolchain.Shell.Awk
