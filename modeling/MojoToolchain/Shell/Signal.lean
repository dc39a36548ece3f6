import MojoToolchain.Shell.Utility.Basic

/-!
# Signals and time

A signal comes from another process, or at a moment that was set beforehand.  A process ends by it,
ignores it, or runs something.
-/

namespace MojoToolchain.Shell

/-! ### Names -/

/-- The signals that can be sent by name, with their numbers. -/
def signals : List (String × Nat) :=
  [("HUP", 1), ("INT", 2), ("QUIT", 3), ("ILL", 4), ("TRAP", 5), ("ABRT", 6), ("BUS", 7),
   ("FPE", 8), ("KILL", 9), ("USR1", 10), ("SEGV", 11), ("USR2", 12), ("PIPE", 13), ("ALRM", 14),
   ("TERM", 15), ("CHLD", 17), ("CONT", 18), ("STOP", 19), ("TSTP", 20), ("TTIN", 21),
   ("TTOU", 22), ("URG", 23), ("XCPU", 24), ("XFSZ", 25), ("VTALRM", 26), ("PROF", 27),
   ("WINCH", 28), ("IO", 29), ("PWR", 30), ("SYS", 31), ("RTMIN", 34), ("RTMAX", 64),
   ("EXIT", 0)]

/-- How many signals there are, with the one that stands for the end of a shell. -/
def signalCount : Nat := 65

/-- The number of a signal, which may be given by name or number. -/
def signalNumber (name : Bytes) : Option Nat :=
  match naturalOf name with
  | some n => if n < signalCount then some n else none
  | none =>
    let upper := name.map Char.toUpper
    let upper := if ['S', 'I', 'G'].isPrefixOf upper then upper.drop 3 else upper
    signals.lookup (String.ofList upper)

/-- The name of a signal. -/
def signalName (number : Nat) : Bytes :=
  match signals.find? fun (_, n) => n == number with
  | some (name, _) => name.toList
  | none =>
    if 34 < number && number ≤ 49 then "RTMIN+".toList ++ Nat.toDigits 10 (number - 34)
    else if 49 < number && number < 64 then "RTMAX-".toList ++ Nat.toDigits 10 (64 - number)
    else Nat.toDigits 10 number

/-- The number of the signal that no process can ignore. -/
def killing : Nat := 9

/-- The signals that do not end a process unless it asks for that. -/
def harmlessSignals : List Nat := [0, 17, 18, 23, 28]

/-- The signals that a command ignores that was left to itself. -/
def unheardSignals : List Nat := [2, 3]

/-- What a shell says about a program that a signal ended. -/
def farewellOf : Nat → Option String
  | 1 => some "Hangup"
  | 3 => some "Quit"
  | 4 => some "Illegal instruction"
  | 6 => some "Aborted"
  | 8 => some "Floating point exception"
  | 9 => some "Killed"
  | 10 => some "User defined signal 1"
  | 11 => some "Segmentation fault"
  | 12 => some "User defined signal 2"
  | 14 => some "Alarm clock"
  | 15 => some "Terminated"
  | _ => none

namespace State

/-! ### Receiving -/

/-- A signal does nothing to a process. -/
def ignores (s : State) (number : Nat) : Bool :=
  match s.traps.lookup number with
  | some command => command.isEmpty && number != killing
  | none => harmlessSignals.contains number

/-- A signal comes; a shell may ignore it or run something. -/
def receive (s : State) (number : Nat) : State :=
  if s.ignores number then s
  else if (s.traps.lookup number).isSome && number != killing then
    { s with pending := s.pending ++ [number] }
  else { s with ended := some (.signal number) }

/-- A shell that runs something at a signal outlives one that has come to its whole group. -/
def outlive (s : State) : State :=
  match s.ended with
  | some (.expired number) =>
    if (s.traps.lookup number).isSome && number != killing then
      { s with ended := none, status := 128 + number, pending := s.pending ++ [number] }
    else s
  | _ => s

/-! ### Time -/

/-- Time passes up to a moment, unless a signal that comes to the group before puts an end to it. -/
def passUntil (moment : Nat) (s : State) : State :=
  match s.limits.find? fun (limit, number) => limit ≤ moment && !s.ignores number with
  | some (limit, number) =>
    { s with
      clock := max s.clock limit
      limits := s.limits.filter (limit < ·.1)
      ended := some (.expired number) }
  | none => { s with clock := max s.clock moment, limits := s.limits.filter (moment < ·.1) }

/-- Time passes without end, unless a signal that comes to the group puts an end to it. -/
def neverEnd (s : State) : State :=
  let last := (s.limits.map Prod.fst).foldl max s.clock
  let s := s.passUntil last
  { s with ended := s.ended <|> some (.signal killing) }

/-! ### Commands that were left to themselves -/

/-- A command that was left to itself is ended by a signal at a moment: what it would have done
later does not happen.  It ignores what its shell ignores. -/
def endJob (s : State) (number signal moment : Nat) : State :=
  let isHit (job : Job) : Bool := job.number == number && moment < job.finish
  let isUnheard := unheardSignals.contains signal || s.ignores signal
  if isUnheard && signal != killing || !s.jobs.any isHit then s
  else
    let kept (parts : List Portion) : List Portion :=
      parts.filter fun part => part.writer != number || part.moment ≤ moment
    { s with
      output := kept s.output
      errors := kept s.errors
      pipes := s.pipes.map kept
      notices := s.notices.filter fun n => n.sender != number || n.moment ≤ moment
      jobs := s.jobs.map fun job =>
        if isHit job then
          { job with finish := moment, status := 128 + signal, signal := some signal }
        else job }

/-- The signals come that parts of a shell have sent to commands that it has left to itself. -/
def deliver (s : State) : State :=
  let isOwn (n : Notice) : Bool := s.jobs.any fun job => job.isOwn && job.number == n.target
  let (own, others) := s.notices.partition isOwn
  own.foldl (fun s n => s.endJob n.target n.signal n.moment) { s with notices := others }

/-- The signals whose moments have come reach the shell. -/
def noticed (s : State) : State :=
  if s.isPart || s.notices.isEmpty then s
  else
    let (due, later) := s.notices.partition fun n =>
      n.target == processNumber && n.moment ≤ s.clock
    due.foldl (fun s n => if s.ended.isSome then s else s.receive n.signal)
      { s with notices := later }

/-- Behind a process that a shell has waited for, it forgets the commands for which it has waited
before, and sees which other ones have ended. -/
def lookAround (s : State) : State :=
  { s with
    jobs := (s.jobs.filter fun job => !job.awaited).map fun job =>
      { job with seen := job.seen || job.finish ≤ s.clock } }

end State

end MojoToolchain.Shell
