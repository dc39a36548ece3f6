import MojoToolchain.Shell.Program

/-!
# Streams

Where the streams of a command lead: to files and devices, to other streams, or to where nothing
can be written.
-/

namespace MojoToolchain.Shell

open Host (Fault)

/-! ### Files and devices -/

/-- Opens a file to write to, which is emptied unless it is appended to; with `isNew` it must not
be there before. -/
def openFile (s : State) (file : Bytes) (append isNew : Bool) : Except String (Sink × State) :=
  match String.ofList file with
  | "/dev/null" => .ok (.nowhere, s)
  | "/dev/full" => .ok (.lost .full, s)
  | "/dev/stdout" => .ok ((s.sinks.lookup 1).getD .nowhere, s)
  | "/dev/stderr" => .ok ((s.sinks.lookup 2).getD .nowhere, s)
  | name =>
    let path := pathOf file
    let old : ByteArray :=
      match s.disk.read path with
      | .ok bytes => if append then bytes else ⟨#[]⟩
      | .error _ => ⟨#[]⟩
    match isNew && s.kindAt file == some .file, s.disk.write path old, s.disk.locateNew path with
    | true, _, _ => .error ("cannot create " ++ name ++ ": File exists")
    | false, .ok disk, .ok place => .ok (.file place, { s with disk := disk })
    | false, .error .isDirectory, _ => .error ("cannot create " ++ name ++ ": Is a directory")
    | false, _, _ => .error ("cannot create " ++ name ++ ": Directory nonexistent")

/-- The bytes that a file is read from. -/
def inputFrom (s : State) (file : Bytes) : Except String Bytes :=
  match String.ofList file with
  | "/dev/null" => .ok []
  | "/dev/zero" => .ok (List.replicate zerosRead '\x00')
  | "/dev/stdin" => .ok s.input
  | name =>
    match s.disk.read (pathOf file) with
    | .ok bytes => .ok (ofByteArray bytes)
    | .error .isDirectory => .ok []
    | .error _ => .error ("cannot open " ++ name ++ ": No such file")

/-- A text can name a stream, or say that there is none. -/
def isStreamName (text : Bytes) : Bool :=
  text == ['-'] || (text.length == 1 && text.all Char.isDigit)

/-- A stream goes where another one goes, or comes from where that one comes from; a hyphen closes
it. -/
def joinStream (s : State) (stream : Nat) (other : Bytes) : Except String State :=
  match other with
  | ['-'] => .ok (s.close stream)
  | ['0'] => .ok (s.feed stream s.input)
  | other =>
    let number := (naturalOf other).getD 0
    match s.sources.lookup number, s.sinks.lookup number with
    | some bytes, _ =>
      -- what can only be read takes nothing that is written
      let isOutput := stream == 1 || stream == 2
      .ok (if isOutput then s.direct stream (.lost .closed) else s.feed stream bytes)
    | none, some (.lost .closed) => .error (String.ofList other ++ ": Bad file descriptor")
    | none, some sink => .ok (if stream == 0 then s else s.direct stream sink)
    | none, none => .error (String.ofList other ++ ": Bad file descriptor")

/-- The streams of one state in another, behind a command with directions of its own; what it has
read from a stream that is not its own is read. -/
def restore (before : State) (directions : List Direction) (s : State) : State :=
  let own (stream : Nat) : Bool := directions.any fun (n, _) => n == stream
  let kept := s.sources.filter fun (n, _) => !own n
  let sources := kept ++ before.sources.filter fun (n, _) => own n
  let lent := directions.filterMap fun (n, target) =>
    match n, target with
    | 0, .stream [.literal [c] _] =>
      let other := c.toNat - 48
      if before.sources.any (·.1 == other) then some other else none
    | _, _ => none
  let sources :=
    match lent.getLast? with
    | some other => (other, s.input) :: sources.filter (·.1 != other)
    | none => sources
  { s with
    sinks := before.sinks
    sources := sources
    input := if own 0 then before.input else s.input
    rewinds := if own 0 then before.rewinds else s.rewinds }

/-! ### What cannot be written -/

/-- A command of the shell says that something it wrote is lost. -/
def heard (name : String) (s : State) : State :=
  if s.lost.isNone then s
  else
    let said := { s with doing := name }.complain (s.status ||| 1) (name ++ ": I/O error")
    { said with doing := s.doing, lost := none }

/-- The exit codes and messages of programs that say in their own way that something they wrote is
lost. -/
def lossReports : List (String × Nat × (Loss → String)) :=
  [("cat", 1, fun loss =>
      (if loss == .closed then "standard output: " else "write error: ") ++ loss.message),
   ("yes", 1, fun loss => "standard output: " ++ loss.message),
   ("tee", 1, fun loss => "'standard output': " ++ loss.message),
   ("sort", 2, fun loss =>
      "fflush failed: 'standard output': " ++ loss.message ++ "\nsort: write error"
        ++ if loss == .closed then ": " ++ loss.message else ""),
   ("sed", 4, fun loss =>
      "couldn't " ++ (if loss == .closed then "close" else "flush") ++ " stdout: "
        ++ loss.message),
   ("expr", 3, fun loss => "write error: " ++ loss.message),
   ("env", 125, fun loss => "write error: " ++ loss.message)]
    ++ ["ls", "grep", "printenv"].map fun name =>
      (name, 2, fun loss => "write error: " ++ loss.message)

/-- A program says that something it wrote is lost. -/
def heardFrom (s : State) : State :=
  match s.lost, lossReports.lookup s.program with
  | none, _ => s
  | some loss, some (code, wording) => { s.report code (wording loss) with lost := none }
  | some loss, none =>
    { s.report (max s.status 1) ("write error: " ++ loss.message) with lost := none }

end MojoToolchain.Shell
