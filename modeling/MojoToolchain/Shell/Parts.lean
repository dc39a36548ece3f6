import MojoToolchain.Shell.Signal

/-!
# Parts of a shell

What a shell is left with behind a part of it that has a process of its own, behind a command that
was left to itself, and behind the rounds of a loop.
-/

namespace MojoToolchain.Shell

/-! ### Parts -/

/-- How long it takes until a part of a shell has a process of its own. -/
def partTime : Nat := 1

/-- The state of a part of a shell at its start. -/
def parted (s : State) : State :=
  { s with
    traps := s.traps.filter fun (_, command) => command.isEmpty
    clock := s.clock + partTime
    isPart := true
    jobs := s.jobs.map fun job => { job with isOwn := false }
    notices := [] }

/-- The state of a shell behind a part of it, which leaves the shell itself as it was. -/
def rejoined (s r : State) : State :=
  { r with
    vars := s.vars
    exported := s.exported
    fixed := s.fixed
    doing := s.doing
    functions := s.functions
    aliases := s.aliases
    saved := s.saved
    args := s.args
    depth := s.depth
    mask := s.mask
    options := s.options
    sheltered := s.sheltered
    isPart := s.isPart
    background := s.background
    jobs := s.jobs
    notices := s.notices ++ r.notices
    traps := s.traps
    pending := s.pending
    optionPlace := s.optionPlace
    disk := { r.disk with here := s.disk.here } }.deliver

/-- What happens in a part of a shell ends only that part. -/
def apart (f : State → State) (s : State) : State :=
  let r := (rejoined s (f (parted s))).lookAround
  match r.ended with
  | some (.signal n) => { r with ended := none, status := 128 + n }
  | some (.expired _) => r.outlive
  | some (.exit code) => { r with ended := none, status := code }
  | _ => { r with ended := none }

/-- What happens where a failure does not end the shell. -/
def tested (f : State → State) (s : State) : State :=
  { f { s with sheltered := true } with sheltered := s.sheltered }

/-- A failure ends a shell with the option `e`. -/
def checked (s : State) : State :=
  if s.has 'e' && !s.sheltered && s.status != 0 && s.ended.isNone then
    { s with ended := some (.exit s.status) }
  else s

/-- The output of what happens in a part of a shell, without line feeds at its end. -/
def captured (f : State → State) (s : State) : Bytes × State :=
  let (text, r) := s.drained (apart f s.openPipe)
  let text := text.filter (· != '\x00')
  ((text.reverse.dropWhile (· == '\n')).reverse, r)

/-! ### Commands that are left to themselves -/

/-- How many commands with pipes between them a command is. -/
def Command.width : Command → Nat
  | .pipe first second => first.width + second.width
  | _ => 1

/-- How long a command that was left to itself may run. -/
def longestJob : Nat := 3600 * 1000000

/-- The least place that no command has which was left to itself. -/
def freePlace (jobs : List Job) : Nat :=
  let isTaken (place : Nat) : Bool := jobs.any fun job => job.isOwn && job.place == place
  ((List.range (jobs.length + 1)).map (· + 1)).find? (fun place => !isTaken place) |>.getD 1

/-- A shell leaves a command to itself and goes on at once. -/
def leaveAlone (width : Nat) (f : State → State) (s : State) : State :=
  let number := State.processNumber + s.started + 1
  let s := { s with jobs := s.jobs.filter fun job => !job.awaited }
  let start := parted { s with
    input := []
    writer := number
    started := s.started + 1
    limits := s.limits ++ [(s.clock + longestJob, killing)] }
  let ran := f start
  let (status, signal?) : Nat × Option Nat :=
    match ran.ended with
    | some (.exit code) => (code, none)
    | some (.signal n) => (128 + n, some n)
    | some (.expired n) => (128 + n, some n)
    | _ => (ran.status, none)
  let back := rejoined s ran
  let job : Job := {
    number := number
    place := freePlace s.jobs
    width := width
    finish := ran.clock
    status := status
    signal := signal?
    seen := false
    awaited := false
    isOwn := true }
  { back with
    input := s.input
    clock := s.clock
    limits := s.limits
    writer := s.writer
    background := some number
    jobs := job :: back.jobs
    status := 0
    ended := none }

/-! ### Loops -/

/-- Repeats a body as long as a condition ends well, or badly; `status` is the exit code of the last
round.  A loop of more rounds than a number is taken for one without end. -/
def repeatBody (until_ : Bool) (condition body : State → State) :
    Nat → Nat → State → State
  | 0, _, s => s.neverEnd
  | rounds + 1, status, s =>
    let (goesOn, s) := (condition s).behindRound
    if !goesOn || (s.status == 0) == until_ then
      if s.ended.isSome then s else s.withStatus status
    else
      let (goesOn, s) := (body s).behindRound
      if goesOn then repeatBody until_ condition body rounds s.status s else s

/-- Does something with each word. -/
def forEach (body : Bytes → State → State) : List Bytes → State → State
  | [], s => s
  | word :: rest, s =>
    let (goesOn, s) := (body word s).behindRound
    if goesOn then forEach body rest s else s

/-- How many rounds a loop may have. -/
def roundsOfLoops : Nat := 250000

end MojoToolchain.Shell
