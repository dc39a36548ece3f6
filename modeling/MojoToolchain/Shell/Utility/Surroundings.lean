import MojoToolchain.Shell.Utility.Control

/-!
# Surroundings

Utilities that say where a process runs: on which system, for whom, and where its programs are.
-/

namespace MojoToolchain.Shell

/-- The directories in which programs are looked for. -/
def searchPath (s : State) : Bytes := (s.value? "PATH".toList).getD []

/-- The paths in the directories of the search path at which there is a program of a name. -/
def pathsOfProgram (s : State) (name : Bytes) : List Bytes :=
  let isProgram (path : Bytes) : Bool := executableAt s.disk (pathOf path) matches .ok _
  let paths :=
    if name.contains '/' then [name]
    else ((searchPath s).splitOn ':').map fun dir =>
      inside (if dir.isEmpty then ['.'] else dir) name
  if name.isEmpty then [] else paths.filter isProgram

/-- Writes the paths of programs; the exit code says whether there are all of them. -/
def which : Utility := fun args s =>
  match Call.read { flags := "as", valued := "", names := [], inFront := true } args with
  | .error _ =>
    let known := args.filter fun arg => arg.head? == some '-'
    let letter := (known.flatMap (·.drop 1)).find? fun c => c != 'a' && c != 's'
    let s := s.fail 2 ("Illegal option -" ++ String.ofList letter.toList)
    emitLines s ["Usage: /usr/bin/which [-as] args".toList]
  | .ok call =>
    let s := s.withStatus (if call.operands.isEmpty then 1 else 0)
    call.operands.foldl (fun s name =>
      match pathsOfProgram s name with
      | [] => s.withStatus 1
      | first :: more =>
        if call.has 's' then s else emitLines s (first :: if call.has 'a' then more else [])) s

/-- Writes what the system is called. -/
def uname : Utility :=
  let forms : OptionForms :=
    { flags := "asnrvmpio", valued := "",
      names := [("all", 'a'), ("kernel-name", 's'), ("sysname", 's'), ("nodename", 'n'),
        ("release", 'r'), ("kernel-release", 'r'), ("kernel-version", 'v'), ("machine", 'm'),
        ("processor", 'p'), ("hardware-platform", 'i'), ("operating-system", 'o')] }
  withOptions 1 forms <| atMost 0 1 fun call s =>
    let part (letter : Char) (name : String) : List Bytes :=
      if call.has letter || call.has 'a' && letter != 'p' && letter != 'i' then [name.toList]
      else []
    let names := part 's' "Linux" ++ part 'n' "localhost" ++ part 'r' "6.1.0" ++ part 'v' "#1"
      ++ part 'm' "x86_64" ++ part 'p' "unknown" ++ part 'i' "unknown" ++ part 'o' "GNU/Linux"
    let names := if names.isEmpty then ["Linux".toList] else names
    (emitLines s [[' '].intercalate names]).withStatus 0

/-- The only user. -/
def user : Bytes := "root".toList

/-- Writes the name of the user. -/
def whoami : Utility :=
  withOptions 1 { flags := "", valued := "", names := [] } <| atMost 0 1 fun _ s =>
    (emitLines s [user]).withStatus 0

/-- Writes the names of the groups of users. -/
def groups : Utility :=
  withOptions 1 { flags := "", valued := "", names := [] } fun call s =>
    if call.operands.isEmpty then (emitLines s [user]).withStatus 0
    else
      call.operands.foldl (fun s name =>
        if name == user then emitLines s [user ++ " : ".toList ++ user]
        else s.report 1 (Quoting.plain name ++ ": no such user")) (s.withStatus 0)

/-- Writes the number or the name of users and of groups. -/
def id : Utility :=
  let forms : OptionForms :=
    { flags := "aZgGnruz", valued := "",
      names := [("context", 'Z'), ("group", 'g'), ("groups", 'G'), ("name", 'n'), ("real", 'r'),
        ("user", 'u'), ("zero", 'z')] }
  withOptions 1 forms fun call s =>
    let kinds := ['u', 'g', 'G'].filter call.has
    let mark := call.endMark
    let text : Bytes :=
      if kinds.isEmpty then "uid=0(root) gid=0(root) groups=0(root)".toList
      else if call.has 'n' then user
      else ['0']
    if 1 < kinds.length then s.report 1 "cannot print \"only\" of more than one choice"
    else if kinds.isEmpty && (call.has 'n' || call.has 'r') then
      s.report 1 "cannot print only names or real IDs in default format"
    else if kinds.isEmpty && call.has 'z' then
      s.report 1 "option --zero not permitted in default format"
    else if call.operands.isEmpty then (emitRows mark s [text]).withStatus 0
    else
      call.operands.foldl (fun s name =>
        if name == user || name == ['0'] then emitRows mark s [text]
        else s.report 1 (Quoting.plain name ++ ": no such user")) (s.withStatus 0)

/-- Says that the input is no terminal. -/
def tty : Utility :=
  let forms : OptionForms :=
    { flags := "s", valued := "", names := [("silent", 's'), ("quiet", 's')] }
  withOptions 2 forms fun call s =>
    match call.operands with
    | extra :: _ => misused 2 ("extra operand " ++ Quoting.plain extra) s
    | [] => (emitLines s (if call.has 's' then [] else ["not a tty".toList])).withStatus 1

/-! ### Variables -/

/-- The variables that other programs get, each with what it holds. -/
def givenVariables (s : State) : List Bytes :=
  s.exported.reverse.filterMap fun name =>
    (s.vars.lookup name).map fun value => name ++ '=' :: value

/-- Writes what variables hold that other programs get, or all of them; the exit code says whether
there are all that are asked for. -/
def printenv : Utility :=
  withOptions 2
    { flags := "0", valued := "", names := [("null", '0')], inFront := true } fun call s =>
    let mark := if call.has '0' then '\x00' else '\n'
    if call.operands.isEmpty then (emitRows mark s (givenVariables s)).withStatus 0
    else
      let values := call.operands.map fun name =>
        if s.exported.contains name then s.vars.lookup name else none
      let status := if values.all Option.isSome then 0 else 1
      (emitRows mark s (values.filterMap fun value => value)).withStatus status

/-- The utilities that say where a process runs. -/
def systemUtilities : Utilities :=
  [("which", which), ("uname", uname), ("whoami", whoami), ("groups", groups), ("id", id),
   ("tty", tty), ("printenv", printenv)]

end MojoToolchain.Shell
