import MojoToolchain.Shell.Signal
import MojoToolchain.Shell.Utility.Letters

/-!
# Processes of a shell

The commands of a shell that send signals to processes, that wait for commands that were left to
themselves, and that list those.
-/

namespace MojoToolchain.Shell

/-! ### Naming processes -/

/-- The commands that a shell has left to themselves, the last one in front. -/
def ownJobs (s : State) : List Job := s.jobs.filter (·.isOwn)

/-- An argument names a command that was left to itself by its place. -/
def isPlace (arg : Bytes) : Bool := arg.head? == some '%'

/-- The command that was left to itself and has a place. -/
def jobAt? (s : State) (arg : Bytes) : Option Job :=
  match arg.drop 1 with
  | [] => (ownJobs s).head?
  | ['%'] => (ownJobs s).head?
  | ['+'] => (ownJobs s).head?
  | ['-'] => (ownJobs s)[1]?
  | digits => (ownJobs s).find? fun job => naturalOf digits == some job.place

/-- Nothing has the place that an argument names. -/
def noJobAt (arg : Bytes) (s : State) : State :=
  s.abort 2 ("No such job: " ++ String.ofList arg)

/-! ### Sending signals -/

/-- The names of signals, or the name of the one that an exit code tells of. -/
def listSignals (targets : List Bytes) (s : State) : State :=
  match targets with
  | [] => (emitLines s (['0'] :: ((List.range signalCount).drop 1).map signalName)).withStatus 0
  | arg :: _ =>
    withDigits arg s fun n =>
      let named := if n < signalCount then n else n - 128
      if named == 0 || signalCount ≤ named then
        s.abort 2 ("invalid signal number or exit status: " ++ String.ofList arg)
      else (emitLines s [signalName named]).withStatus 0

/-- A signal is on its way to a process. -/
def State.notify (s : State) (signal target : Nat) : State :=
  { s with notices := s.notices ++ [⟨s.clock, signal, s.writer, target⟩] }

/-- Sends a signal to a process; the only ones that are known are the shell itself and the commands
that were left to themselves. -/
def sendTo (signal : Nat) (s : State) (target : Bytes) : State :=
  let noSuch : State := s.complain 1 "No such process\n"
  if s.ended.isSome then s
  else if isPlace target then
    match jobAt? s target with
    | some _ => noSuch
    | none => noJobAt target s
  else
    let digits := if target.head? == some '-' then target.drop 1 else target
    withDigits digits s fun number =>
      let job := s.jobs.find? (·.number == number)
      if number == State.processNumber then
        if s.isPart then s.notify signal number else s.receive signal
      else
        match job with
        | none => noSuch
        | some job =>
          if !job.isOwn then s.notify signal number
          else if job.seen then noSuch
          else s.endJob number signal s.clock

/-- Sends a signal, or lists the signals. -/
def kill : Utility := fun args s =>
  let usage : State :=
    s.abort 2 ("Usage: kill [-s sigspec | -signum | -sigspec] [pid | job]... or\n"
      ++ "kill -l [exitstatus]")
  let send (number : Nat) (targets : List Bytes) : State :=
    if targets.isEmpty then usage else targets.foldl (sendTo number) (s.withStatus 0)
  let direct : Option Nat :=
    match args with
    | ('-' :: name) :: _ => signalNumber name
    | _ => none
  match direct with
  | some number => send number args.tail
  | none =>
    if args.isEmpty then usage
    else
      withLetters "l" "s" (fun call s =>
        match call.has 'l', (call.value? 's').map fun name => (name, signalNumber name) with
        | _, some (name, none) =>
          s.abort 2 ("invalid signal number or name: " ++ String.ofList name)
        | true, some (_, some _) => usage
        | true, none => listSignals call.operands s
        | false, some (_, some number) => send number call.operands
        | false, none => send 15 call.operands) args s

/-- Sends a signal, as the program does it. -/
def plainKill : Utility := fun args s =>
  let (signal, targets) : Nat × List Bytes :=
    match args with
    | ['-', 's'] :: name :: rest => ((signalNumber name).getD 15, rest)
    | ('-' :: name) :: rest => ((signalNumber name).getD 15, rest)
    | rest => (15, rest)
  targets.foldl (fun s target =>
    match naturalOf target with
    | none => s.report 1 ("failed to parse argument: '" ++ String.ofList target ++ "'")
    | some number =>
      if number == State.processNumber || s.jobs.any (·.number == number) then
        s.notify signal number
      else s.report 1 ("(" ++ String.ofList target ++ "): No such process"))
    (s.withStatus (if targets.isEmpty then 1 else 0))

/-! ### Waiting -/

/-- Waits up to a moment; a signal that the shell does not ignore makes an end of that. -/
def waitUntil (moment : Nat) (s : State) : State :=
  let isHeard (n : Notice) : Bool :=
    !s.isPart && n.target == State.processNumber && n.moment < moment && !s.ignores n.signal
  match s.notices.find? isHeard with
  | some n => (s.passUntil n.moment).withStatus (128 + n.signal)
  | none => (s.passUntil moment).withStatus 0

/-- The shell has waited for the commands that have ended. -/
def markAwaited (p : Job → Bool) (s : State) : State :=
  { s with
    jobs := s.jobs.map fun job =>
      if p job && job.finish ≤ s.clock then { job with seen := true, awaited := true } else job }

/-- Waits for a command that was left to itself, and says so when a signal has ended it. -/
def waitFor (s : State) (job : Job) : State :=
  let waited := waitUntil job.finish s
  if waited.clock < job.finish || waited.ended.isSome then waited
  else
    let said :=
      match job.seen, job.signal.bind farewellOf with
      | false, some words => waited.emit 2 (ofText (words ++ "\n"))
      | _, _ => waited
    (markAwaited (·.number == job.number) said).withStatus job.status

/-- Waits for commands that were left to themselves, one after the other, or for all of them. -/
def wait : Utility := fun args s =>
  match args with
  | [] =>
    markAwaited (·.isOwn) (waitUntil ((ownJobs s).foldl (fun m job => max m job.finish) s.clock) s)
  | args =>
    args.foldl (fun s arg =>
      if s.ended.isSome then s
      else if isPlace arg then
        match jobAt? s arg with
        | some job => waitFor s job
        | none => noJobAt arg s
      else
        withDigits arg s fun number =>
          match (ownJobs s).find? (·.number == number) with
          | some job => waitFor s job
          | none => s.withStatus 127) s

/-! ### Listing -/

/-- What a list of commands says about one at a moment. -/
def jobState (clock : Nat) (job : Job) : String :=
  if clock < job.finish then "Running"
  else
    match job.signal with
    | some signal => (farewellOf signal).getD ("Signal " ++ toString signal)
    | none => if job.status == 0 then "Done" else "Done(" ++ toString job.status ++ ")"

/-- How wide what stands in front of a command is in a list. -/
def jobColumn : Nat := 33

/-- The row of a command in a list. -/
def jobRow (clock : Nat) (withNumber : Bool) (mark : Char) (job : Job) : Bytes :=
  let number := if withNumber then toString job.number ++ " " else ""
  let front := "[" ++ toString job.place ++ "] " ++ String.ofList [mark] ++ " " ++ number
    ++ jobState clock job
  front.toList ++ List.replicate (max 1 (jobColumn - front.length)) ' '
    ++ (List.replicate (job.width - 1) [' ', '|', ' ']).flatten

/-- The marks of commands in a list, of which so many stand in front: the first is the current one
and the second the one before.  One that has ended is forgotten as soon as it is listed. -/
def jobMarks (clock : Nat) : Nat → List Job → List Char
  | _, [] => []
  | kept, job :: rest =>
    let mark := if kept == 0 then '+' else if kept == 1 then '-' else ' '
    mark :: jobMarks clock (if job.finish ≤ clock then kept else kept + 1) rest

/-- Lists the commands that were left to themselves, and forgets those that have ended. -/
def jobs : Utility :=
  withLetters "lp" "" fun call s =>
    let list (chosen : List Job) : State :=
      let rows := (chosen.zip (jobMarks s.clock 0 chosen)).map fun (job, mark) =>
        if call.has 'p' then Nat.toDigits 10 job.number
        else jobRow s.clock (call.has 'l') mark job
      let isGone (job : Job) : Bool :=
        !call.has 'p' && job.finish ≤ s.clock && chosen.any (·.number == job.number)
      { (emitLines s rows).withStatus 0 with jobs := s.jobs.filter fun job => !isGone job }
    match call.operands with
    | [] => list (ownJobs s)
    | name :: _ =>
      match jobAt? s name with
      | some job => list [job]
      | none => noJobAt name s

/-- Takes up a command that was left to itself, which a shell without a terminal does not do. -/
def takeUp : Utility := fun args s =>
  match args, (ownJobs s).isEmpty with
  | [], true => s.abort 2 "No current job"
  | [], false => s.abort 2 "job (null) not created under job control"
  | name :: _, _ =>
    match jobAt? s name with
    | some _ => s.abort 2 ("job " ++ String.ofList name ++ " not created under job control")
    | none => noJobAt name s

end MojoToolchain.Shell
