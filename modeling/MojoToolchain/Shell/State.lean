import MojoToolchain.Host.Disk
import MojoToolchain.Shell.Syntax
import MojoToolchain.Text.Utf8

/-!
# The state of a shell

A shell has arguments, variables, functions, an input, streams that lead somewhere, and a disk.
It ends with an exit code or by a signal.
-/

namespace MojoToolchain.Shell

open Host (Disk Place)

/-- Bytes of a file or stream. -/
def ofByteArray (b : ByteArray) : Bytes := b.toList.map fun b => Char.ofNat b.toNat

/-- Bytes for a file or stream. -/
def toByteArray (s : Bytes) : ByteArray := ⟨(s.map fun c => c.toNat.toUInt8).toArray⟩

/-- Text as bytes. -/
def ofText (s : String) : Bytes := ofByteArray s.toUTF8

/-- The path that bytes write. -/
def pathOf (s : Bytes) : Path := ⟨Text.decodeLossy (toByteArray s)⟩

/-- How a shell, or a part of it, comes to an end before all its commands have run. -/
inductive Ending where
  | exit (code : Nat)
  | signal (number : Nat)
  /-- A function comes back. -/
  | back
  /-- So many loops are left. -/
  | leave (loops : Nat)
  /-- All but one of so many loops are left, and that one goes on. -/
  | next (loops : Nat)
  /-- A signal has come to all processes of a group. -/
  | expired (number : Nat)
  deriving DecidableEq, Repr

/-- Why something cannot be written. -/
inductive Loss where
  /-- The stream is closed. -/
  | closed
  /-- The device has no room. -/
  | full
  deriving DecidableEq, Repr

/-- The wording of a loss. -/
def Loss.message : Loss → String
  | closed => "Bad file descriptor"
  | full => "No space left on device"

/-- Where a stream leads. -/
inductive Sink where
  | output
  | errors
  /-- Into the pipe of a number. -/
  | pipe (number : Nat)
  | file (place : Place)
  | nowhere
  /-- To where nothing can be written. -/
  | lost (loss : Loss)
  deriving DecidableEq, Repr

/-- Bytes that were written at a moment, by the shell itself or by a command that was left to
itself.  Moments are counted in millionths of a second. -/
structure Portion where
  moment : Nat
  /-- The number of the command that was left to itself; zero is the shell. -/
  writer : Nat
  /-- The bytes, the last one in front. -/
  bytes : Bytes

/-- A signal that a part of a shell sends to another process. -/
structure Notice where
  moment : Nat
  signal : Nat
  /-- The number of the command, left to itself, that sends it; zero is the shell. -/
  sender : Nat
  /-- The number of the process that gets it. -/
  target : Nat

/-- A command that was left to itself. -/
structure Job where
  /-- The number of its process. -/
  number : Nat
  /-- Its place among those that the shell knows, from one on. -/
  place : Nat
  /-- How many commands with pipes between them it is. -/
  width : Nat
  /-- The moment at which it ends. -/
  finish : Nat
  /-- The exit code with which it ends. -/
  status : Nat
  /-- The signal that ends it, if one does. -/
  signal : Option Nat
  /-- The shell has seen that it has ended. -/
  seen : Bool
  /-- The shell has waited for it. -/
  awaited : Bool
  /-- It was started by the shell itself, not by the one of which this is a part. -/
  isOwn : Bool

/-- The state of a shell. -/
structure State where
  /-- What the shell is called. -/
  name : Bytes
  /-- What the program that runs is called, as its messages name it. -/
  program : String
  args : List Bytes
  vars : List (Bytes × Bytes)
  /-- The variables that other programs get. -/
  exported : List Bytes
  /-- The variables that keep what they hold. -/
  fixed : List Bytes
  /-- What the shell is doing itself, as its messages name it; empty when it does nothing. -/
  doing : String
  functions : List (Bytes × Command)
  /-- The texts for which words stand at the front of commands, the oldest first. -/
  aliases : List (Bytes × Bytes)
  /-- What the variables of a function held before it was called. -/
  saved : List (Bytes × Option Bytes)
  /-- The exit code of the last command. -/
  status : Nat
  /-- What is left to read. -/
  input : Bytes
  /-- The input is a file, in which what a program does not use stays. -/
  rewinds : Bool
  /-- What is left to read from other streams, by their numbers. -/
  sources : List (Nat × Bytes)
  /-- What has been written to the output, the last part in front. -/
  output : List Portion
  /-- What has been written as messages, the last part in front. -/
  errors : List Portion
  /-- What stands in the pipes that are open, in each the last part in front. -/
  pipes : List (List Portion)
  /-- Where streams lead, by their numbers: the output, messages and others. -/
  sinks : List (Nat × Sink)
  /-- Why something that was written to the output is lost, if it is. -/
  lost : Option Loss
  disk : Disk
  /-- The line of the command that runs. -/
  line : Nat
  /-- The number of loops around the command that runs. -/
  loops : Nat
  /-- The body of a function runs. -/
  inFunction : Bool
  /-- How many calls of functions are under way. -/
  depth : Nat
  /-- The permissions that new files lack, by their bits. -/
  mask : Nat
  /-- The letters of the options that are on. -/
  options : Bytes
  /-- A failure does not end the shell here, whatever the options are. -/
  sheltered : Bool
  /-- The moment that it is. -/
  clock : Nat
  /-- The signals that come to all processes of the group, with their moments, in their order. -/
  limits : List (Nat × Nat)
  /-- The number of the command that was left to itself and runs here; zero is the shell. -/
  writer : Nat
  /-- What runs is a part of a shell, with a process of its own. -/
  isPart : Bool
  /-- How many commands have been left to themselves. -/
  started : Nat
  /-- The number of the last command that was left to itself, if there was one. -/
  background : Option Nat
  /-- The commands that were left to themselves, the last one in front. -/
  jobs : List Job
  /-- The signals that are on their way. -/
  notices : List Notice
  /-- What runs when a signal comes, by its number, and with the number zero when the shell ends;
  nothing means that the signal is ignored. -/
  traps : List (Nat × Bytes)
  /-- The signals that have come and wait for what runs then. -/
  pending : List Nat
  /-- How far the options of an argument have been read. -/
  optionPlace : Nat
  ended : Option Ending

namespace State

/-- The number of the shell's process. -/
def processNumber : Nat := 4242

/-- An option is on. -/
def has (s : State) (letter : Char) : Bool := s.options.contains letter

/-- Turns options on or off. -/
def turn (s : State) (on : Bool) (letters : Bytes) : State :=
  let others := s.options.filter fun c => !letters.contains c
  { s with options := if on then letters ++ others else others }

/-- The letters of options, in the order in which a shell lists them. -/
def optionLetters : Bytes := "pubaCEVvxsnmiIfe".toList

/-- Leads a stream somewhere. -/
def direct (s : State) (stream : Nat) (sink : Sink) : State :=
  { s with sinks := (stream, sink) :: s.sinks.filter (·.1 != stream) }

/-- What is read from a stream from now on. -/
def feed (s : State) (stream : Nat) (bytes : Bytes) : State :=
  if stream == 0 then { s with input := bytes, rewinds := false }
  else { s with sources := (stream, bytes) :: s.sources.filter (·.1 != stream) }

/-- What is read from a stream from now on, out of a file. -/
def feedFile (s : State) (stream : Nat) (bytes : Bytes) : State :=
  if stream == 0 then { s with input := bytes, rewinds := true } else s.feed stream bytes

/-- Closes a stream; where a program may expect the stream, nothing is read, and what is written is
lost. -/
def close (s : State) (stream : Nat) : State :=
  if stream == 0 then s.feed 0 []
  else if stream ≤ 2 then s.direct stream (.lost .closed)
  else
    { s with
      sinks := s.sinks.filter (·.1 != stream)
      sources := s.sources.filter (·.1 != stream) }

/-- A program has used so much of the input, of which it has read whole blocks of a size. -/
def consume (s : State) (used block : Nat) : State :=
  let blocks := (used + block - 1) / block
  { s with input := s.input.drop (if s.rewinds then used else blocks * block) }

/-- Appends to a file. -/
def appendTo (disk : Disk) (place : Place) (bytes : Bytes) : Disk :=
  match disk.find? place with
  | some (.file old executable) =>
    disk.put place (.file (old ++ toByteArray bytes) executable)
  | _ => disk

/-- Adds bytes to what has been written. -/
def written (s : State) (bytes : Bytes) (parts : List Portion) : List Portion :=
  match parts with
  | [] => [⟨s.clock, s.writer, bytes.reverse⟩]
  | last :: rest =>
    if last.moment == s.clock && last.writer == s.writer then
      { last with bytes := bytes.reverseAux last.bytes } :: rest
    else ⟨s.clock, s.writer, bytes.reverse⟩ :: last :: rest

/-- Writes to a stream. -/
def emit (s : State) (stream : Nat) (bytes : Bytes) : State :=
  match s.sinks.lookup stream with
  | some .output => { s with output := s.written bytes s.output }
  | some .errors => { s with errors := s.written bytes s.errors }
  | some (.pipe number) => { s with pipes := s.pipes.modify number (s.written bytes) }
  | some (.file place) => { s with disk := appendTo s.disk place bytes }
  | some .nowhere => s
  | some (.lost loss) =>
    if stream == 1 && !bytes.isEmpty then { s with lost := some loss } else s
  | none => s

/-- What has been written, in the order of the moments. -/
def inOrder (parts : List Portion) : Bytes :=
  (parts.reverse.mergeSort fun a b => a.moment ≤ b.moment).flatMap fun part => part.bytes.reverse

/-- What has been written to the output. -/
def outputText (s : State) : Bytes := inOrder s.output

/-- What has been written as messages. -/
def errorText (s : State) : Bytes := inOrder s.errors

/-- Opens a pipe, into which the output leads. -/
def openPipe (s : State) : State :=
  { s with pipes := s.pipes ++ [[]] }.direct 1 (.pipe s.pipes.length)

/-- All that comes out of the pipe that a state opened, whose streams come back; the last part of it
is waited for. -/
def drained (before s : State) : Bytes × State :=
  let parts := (s.pipes[before.pipes.length]?).getD []
  let clock := parts.foldl (fun clock part => max clock part.moment) s.clock
  (inOrder parts,
    { s with pipes := s.pipes.take before.pipes.length, sinks := before.sinks, clock := clock })

/-- The last command ended with an exit code. -/
def withStatus (s : State) (code : Nat) : State := { s with status := code }

/-- The last command failed, and says why, in bytes. -/
def fail (s : State) (code : Nat) (message : String) : State :=
  (s.emit 2 (message.toList ++ ['\n'])).withStatus code

/-- The program that runs says behind its name why it failed. -/
def report (s : State) (code : Nat) (message : String) : State :=
  s.fail code (s.program ++ ": " ++ message)

/-- Sets a variable, whatever it is. -/
def put (s : State) (name value : Bytes) : State :=
  { s with vars := (name, value) :: s.vars.filter (·.1 != name) }

/-- The characters between words. -/
def separators (s : State) : Bytes := (s.vars.lookup "IFS".toList).getD [' ', '\t', '\n']

/-- The directory where relative paths start. -/
def directory (s : State) : Bytes :=
  '/' :: ['/'].intercalate (s.disk.here.map fun name => ofText (String.ofList name))

/-- The value of a variable. -/
def value? (s : State) (name : Bytes) : Option Bytes := s.vars.lookup name

/-- The value of a parameter, if it has one. -/
def valueOf (s : State) (name : Bytes) : Option Bytes :=
  match name with
  | ['#'] => some (Nat.toDigits 10 s.args.length)
  | ['?'] => some (Nat.toDigits 10 s.status)
  | ['$'] => some (Nat.toDigits 10 processNumber)
  | ['!'] => s.background.map (Nat.toDigits 10)
  | ['-'] => some (optionLetters.filter s.has)
  | ['@'] => if s.args.isEmpty then none else some ([' '].intercalate s.args)
  | ['*'] => if s.args.isEmpty then none else some ((s.separators.take 1).intercalate s.args)
  | ['0'] => some s.name
  | name =>
    if name.all Char.isDigit then s.args[((String.ofList name).toNat?.getD 0) - 1]?
    else s.value? name

/-- What starts a message of the shell. -/
def label (s : State) : String :=
  String.ofList s.name ++ ": " ++ toString s.line ++ ": "
    ++ if s.doing.isEmpty then "" else s.doing ++ ": "

/-- The shell itself says why a command failed. -/
def complain (s : State) (code : Nat) (message : String) : State :=
  s.fail code (s.label ++ message)

/-- The shell says why it ends. -/
def abort (s : State) (code : Nat) (message : String) : State :=
  { s.complain code message with ended := some (.exit code) }

/-- Turns options on or off; without a terminal a shell has no control of jobs, and says so. -/
def turnOptions (s : State) (on : Bool) (letters : Bytes) : State :=
  if on && letters.contains 'm' then
    (s.turn on (letters.filter (· != 'm'))).complain s.status
      "can't access tty; job control turned off"
  else s.turn on letters

/-- The shell ends because a variable keeps what it holds. -/
def refuse (s : State) (name : Bytes) : State :=
  s.abort 2 (String.ofList name ++ ": is read only")

/-- Sets a variable, which other programs get if an option says so. -/
def assign (s : State) (name value : Bytes) : State :=
  if s.fixed.contains name then s.refuse name
  else if s.has 'a' then { s.put name value with exported := name :: s.exported }
  else s.put name value

/-- Forgets a variable. -/
def forget (s : State) (name : Bytes) : State :=
  if s.fixed.contains name then s.refuse name
  else
    { s with
      vars := s.vars.filter (·.1 != name)
      exported := s.exported.filter (· != name) }

/-- What a variable holds is brought back when the function ends that runs; the name `-` is that of
the options. -/
def save (s : State) (name : Bytes) : State :=
  let value := if name == ['-'] then some s.options else s.vars.lookup name
  { s with saved := (name, value) :: s.saved }

/-- Variables hold again what they held. -/
def bringBack (s : State) (saved : List (Bytes × Option Bytes)) : State :=
  saved.foldl (fun s (name, value) =>
    match value with
    | some value => if name == ['-'] then { s with options := value } else s.put name value
    | none => s.forget name) s

/-- What stands at a path. -/
def kindAt (s : State) (path : Bytes) : Option Host.EntryKind :=
  match s.disk.kindOf (pathOf path) with
  | .ok kind => some kind
  | .error _ => none

/-- What comes of a state behind the body of a loop; the flag is true when the loop goes on. -/
def behindRound (s : State) : Bool × State :=
  match s.ended with
  | none => (true, s)
  | some (.next (n + 2)) => (false, { s with ended := some (.next (n + 1)) })
  | some (.next _) => (true, { s with ended := none })
  | some (.leave (n + 2)) => (false, { s with ended := some (.leave (n + 1)) })
  | some (.leave _) => (false, { s with ended := none })
  | some _ => (false, s)

end State

end MojoToolchain.Shell
