import MojoToolchain.Shell.Awk.Call
import MojoToolchain.Shell.Expansion
import MojoToolchain.Shell.Finding
import MojoToolchain.Shell.Parts
import MojoToolchain.Shell.Start
import MojoToolchain.Shell.Streams

/-!
# Running scripts

`run` runs a command in a state.  Each recursive call takes one from the bound in front; a
script that uses it up is ended as if by a signal.
-/

namespace MojoToolchain.Shell

mutual

/-- Expands a word, which is split at separators where it is not quoted. -/
def expand (bound : Nat) (word : Word) (f : Fields) (s : State) : Fields × State :=
  match bound with
  | 0 => (f, { s with ended := some (.signal 9) })
  | bound + 1 =>
    match if s.ended.isSome then [] else word with
    | [] => (f, s)
    | .literal chars quoted :: rest => expand bound rest (f.add (.ofBytes quoted chars)) s
    | .parameter ['@'] .value true :: rest => expand bound rest (f.addWords s.args) s
    | .parameter ['@'] .value false :: rest =>
      expand bound rest (f.addWordsSplit s.separators s.args) s
    | .parameter ['*'] .value false :: rest =>
      expand bound rest (f.addWordsSplit s.separators s.args) s
    | piece :: rest =>
      let (text, s) := expandPiece bound piece s
      let quoted :=
        match piece with
        | .literal _ quoted => quoted
        | .parameter _ _ quoted => quoted
        | .output _ quoted => quoted
        | .arithmetic _ quoted => quoted
      expand bound rest (if quoted then f.add text else f.addSplit s.separators text) s

/-- Expands a piece of a word. -/
def expandPiece (bound : Nat) (piece : Piece) (s : State) : Marked × State :=
  match bound with
  | 0 => ([], { s with ended := some (.signal 9) })
  | bound + 1 =>
    match piece with
    | .literal chars quoted => (.ofBytes quoted chars, s)
    | .parameter name use quoted =>
      let (text, s) := expandUse bound name use s
      (if quoted then text.quote else text, s)
    | .output command quoted =>
      let (text, s) := captured (runPart bound command) s
      (.ofBytes quoted text, s)
    | .arithmetic inner quoted =>
      let (text, s) := expandText bound inner s
      let (text, s) := if s.ended.isSome then ([], s) else calculate text s
      (.ofBytes quoted text, s)

/-- What is made of a parameter. -/
def expandUse (bound : Nat) (name : Bytes) (use : Use) (s : State) : Marked × State :=
  match bound with
  | 0 => ([], { s with ended := some (.signal 9) })
  | bound + 1 =>
    let value := s.valueOf name
    let own : Marked := .ofBytes false (value.getD [])
    let isSet (orEmpty : Bool) : Bool := value.any fun v => !(orEmpty && v.isEmpty)
    let asked (text : Bytes) : Marked × State :=
      if s.has 'u' && value.isNone && name != ['@'] && name != ['*'] then
        ([], s.abort 2 (String.ofList name ++ ": parameter not set"))
      else (.ofBytes false text, s)
    match use with
    | .value => asked (value.getD [])
    | .length =>
      if name == ['@'] || name == ['*'] then (.ofBytes false (Nat.toDigits 10 s.args.length), s)
      else asked (Nat.toDigits 10 (value.getD []).length)
    | .orElse orEmpty word => if isSet orEmpty then (own, s) else expandMarked bound word s
    | .orAssign orEmpty word =>
      if isSet orEmpty then (own, s)
      else
        let (text, s) := expandText bound word s
        (.ofBytes false text, s.assign name text)
    | .orFail orEmpty word =>
      if isSet orEmpty then (own, s)
      else
        let (text, s) := expandText bound word s
        let reason :=
          if !word.isEmpty then String.ofList text
          else if orEmpty then "parameter not set or null"
          else "parameter not set"
        if s.ended.isSome then ([], s)
        else ([], s.abort 2 (String.ofList name ++ ": " ++ reason))
    | .whenSet orEmpty word => if isSet orEmpty then expandMarked bound word s else ([], s)
    | .trim atEnd longest word =>
      let (_, s) := asked []
      let (marked, s) := expandMarked bound word s
      (.ofBytes false (marked.pattern.trim atEnd longest (value.getD [])), s)
    | .unknown => ([], s.abort 2 "Bad substitution")

/-- Expands a word to one text. -/
def expandText (bound : Nat) (word : Word) (s : State) : Bytes × State :=
  match bound with
  | 0 => ([], { s with ended := some (.signal 9) })
  | bound + 1 =>
    let (marked, s) := expandMarked bound word s
    (marked.bytes, s)

/-- Expands a word to one text, with marks on what is quoted. -/
def expandMarked (bound : Nat) (word : Word) (s : State) : Marked × State :=
  match bound with
  | 0 => ([], { s with ended := some (.signal 9) })
  | bound + 1 =>
    match if s.ended.isSome then [] else word with
    | [] => ([], s)
    | piece :: rest =>
      let (text, s) := expandPiece bound piece s
      let (more, s) := expandMarked bound rest s
      (text ++ more, s)

/-- Expands words, and replaces those that describe files by the paths of these. -/
def expandAll (bound : Nat) (words : List Word) (s : State) : List Bytes × State :=
  match bound with
  | 0 => ([], { s with ended := some (.signal 9) })
  | bound + 1 =>
    match if s.ended.isSome then [] else words with
    | [] => ([], s)
    | word :: rest =>
      let (f, s) := expand bound word .empty s
      let own := f.toList.flatMap (pathsOf s)
      let (more, s) := expandAll bound rest s
      (own ++ more, s)

/-- Assigns to variables; what is assigned is listed too. -/
def assignAll (bound : Nat) (assignments : List (Bytes × Word)) (s : State) :
    List Bytes × State :=
  match bound with
  | 0 => ([], { s with ended := some (.signal 9) })
  | bound + 1 =>
    match if s.ended.isSome then [] else assignments with
    | [] => ([], s)
    | (name, word) :: rest =>
      let (text, s) := expandText bound word s
      let s := if s.ended.isSome then s else s.assign name text
      let (shown, s) := assignAll bound rest s
      ((name ++ '=' :: text) :: shown, s)

/-- Directs streams; the flag is false when that cannot be done. -/
def directAll (bound : Nat) (directions : List Direction) (s : State) : Bool × State :=
  match bound with
  | 0 => (false, { s with ended := some (.signal 9) })
  | bound + 1 =>
    match directions with
    | [] => (true, s)
    | (stream, target) :: more =>
      let opened (word : Word) (append isNew : Bool) : Bool × State :=
        let (file, s) := expandText bound word s
        if s.ended.isSome then (false, s)
        else
          match openFile s file append isNew with
          | .ok (sink, s) => directAll bound more (s.direct stream sink)
          | .error message => (false, s.complain 2 message)
      match target with
      | .stream word =>
        let (other, s) := expandText bound word s
        if s.ended.isSome then (false, s)
        else if !isStreamName other then (false, s.abort 2 "Syntax error: Bad fd number")
        else
          match joinStream s stream other with
          | .ok s => directAll bound more s
          | .error message => (false, s.complain 2 message)
      | .openFile word =>
        let (file, s) := expandText bound word s
        if s.ended.isSome then (false, s)
        else
          match openFile s file true false with
          | .error message => (false, s.complain 2 message)
          | .ok (sink, s) =>
            if stream != 0 then directAll bound more (s.direct stream sink)
            else
              match inputFrom s file with
              | .ok input => directAll bound more (s.feedFile stream input)
              | .error message => (false, s.complain 2 message)
      | .text word =>
        let (text, s) := expandText bound word s
        directAll bound more (s.feed stream text)
      | .readFile word =>
        let (file, s) := expandText bound word s
        if s.ended.isSome then (false, s)
        else
          match inputFrom s file with
          | .ok input => directAll bound more (s.feedFile stream input)
          | .error message => (false, s.complain 2 message)
      | .writeFile word => opened word false (s.has 'C')
      | .replaceFile word => opened word false false
      | .appendFile word => opened word true false

/-- Runs a script that starts on a line, line by line, as a part of what runs. -/
def runText (bound : Nat) (line : Nat) (text : Bytes) (s : State) : State :=
  match bound with
  | 0 => { s with ended := some (.signal 9) }
  | bound + 1 =>
    if s.ended.isSome then s
    else
      match readLine? s.aliases line text with
      | .error (fault, line) => { s with line := line }.abort 2 ("Syntax error: " ++ fault.message)
      | .ok read =>
        match read.command with
        | none => s
        | some command => runText bound read.line read.rest (run bound command s)

/-- Runs a command in a part of a shell, which may run something at its end. -/
def runPart (bound : Nat) (command : Command) (s : State) : State :=
  match bound with
  | 0 => { s with ended := some (.signal 9) }
  | bound + 1 => runFarewell bound (run bound command s)

/-- Runs what a shell runs when it ends. -/
def runFarewell (bound : Nat) (s : State) : State :=
  match bound with
  | 0 => { s with ended := some (.signal 9) }
  | bound + 1 =>
    match s.traps.lookup 0, s.ended with
    | none, _ => s
    | some _, some (.signal _) => s
    | some _, some (.expired _) => s
    | some text, ending =>
      let code :=
        match ending with
        | some (.exit code) => code
        | _ => s.status
      let traps := s.traps.filter (·.1 != 0)
      let last := runText bound 1 text { s with ended := none, traps := traps, status := code }
      { last with
        status := code
        ended := last.ended <|> ending }

/-- Runs what waits for signals that have come. -/
def runPending (bound : Nat) (s : State) : State :=
  match bound with
  | 0 => { s with ended := some (.signal 9) }
  | bound + 1 =>
    match s.pending with
    | [] => s
    | number :: rest =>
      let ran := runText bound 1 ((s.traps.lookup number).getD []) { s with pending := rest }
      runPending bound { ran with status := s.status }

/-- Runs a command by its name. -/
def invoke (bound : Nat) (name : Bytes) (args : List Bytes) (s : State) : State :=
  match bound with
  | 0 => { s with ended := some (.signal 9) }
  | bound + 1 =>
    match s.functions.lookup name, String.ofList name, args with
    | some body, _, _ =>
      if s.depth == depthOfFunctions then
        s.abort 2 ("Maximum function recursion depth (" ++ toString depthOfFunctions
          ++ ") reached")
      else
        let r := run bound body { s with
          args := args, loops := 0, inFunction := true, depth := s.depth + 1, saved := [] }
        let r := r.bringBack r.saved
        let r := { r with
          args := s.args
          loops := s.loops
          inFunction := s.inFunction
          depth := s.depth
          saved := s.saved }
        if r.ended == some .back then { r with ended := none } else r
    | none, "eval", args =>
      let ran := runText bound 1 ([' '].intercalate args) { s with status := 0, doing := "eval" }
      { ran with doing := s.doing }
    | none, ".", [] => s.withStatus 0
    | none, ".", file :: _ => { readAlong bound file s with doing := s.doing }
    | none, "exec", [] => s.withStatus 0
    | none, "exec", program :: args =>
      match findProgram s.disk (searchPath s) true program args with
      | .ok found =>
        let s := behindCall s (execute bound found (called s))
        { s with ended := s.ended <|> some (.exit s.status), traps := [] }
      | .error fault =>
        { cannotRun { s with doing := "exec" } program fault with ended := some (.exit 127) }
    | none, "command", args =>
      match readLetters "pvV" "" args with
      | .error reason =>
        { { s with doing := "command" }.complain 2 reason with doing := s.doing }
      | .ok call =>
        match call.operands, call.has 'V', call.has 'v' with
        | [], _, _ => s.withStatus 0
        | program :: _, true, _ => heard "command" (describeNames s [program])
        | program :: _, false, true => heard "command" (whereIs s program)
        | program :: args, false, false =>
          { invoke bound program args { s with functions := [] } with functions := s.functions }
    | none, "type", names => heard "type" (describeNames s names)
    | none, "hash", names => findEach s names
    | none, text, args =>
      match builtin? text with
      | some u =>
        let ran := u args { s with doing := text }
        let ran := heard text { ran with doing := s.doing }
        match specialNames.contains text, ran.ended with
        | false, some (.exit code) => { ran with ended := none, status := code }
        | _, _ => ran
      | none => callProgram bound name args s

/-- Runs the script in a file as a part of what runs. -/
def readAlong (bound : Nat) (file : Bytes) (s : State) : State :=
  match bound with
  | 0 => { s with ended := some (.signal 9) }
  | bound + 1 =>
    let candidates :=
      if file.contains '/' then [file]
      else
        ((searchPath s).splitOn ':').map fun dir =>
          if dir.isEmpty then file else dir ++ '/' :: file
    match candidates.find? fun path => s.kindAt path == some .file with
    | some path =>
      match s.disk.read (pathOf path) with
      | .ok bytes =>
        let r := runText bound 1 (ofByteArray bytes)
          { s with status := 0, doing := String.ofList path }
        if r.ended == some .back then { r with ended := none } else r
      | .error _ => s.withStatus 2
    | none =>
      if file.contains '/' then
        { s with doing := "." }.abort 2 ("cannot open " ++ String.ofList file ++ ": No such file")
      else { s with doing := "." }.abort 2 (String.ofList file ++ ": not found")

/-- Calls a program. -/
def callProgram (bound : Nat) (name : Bytes) (args : List Bytes) (s : State) : State :=
  match bound with
  | 0 => { s with ended := some (.signal 9) }
  | bound + 1 =>
    match findProgram s.disk (searchPath s) true name args with
    | .ok program => behindCall s (execute bound program (called s))
    | .error fault => cannotRun s name fault

/-- A program calls another one; the text says in front of a reason that this cannot be done. -/
def callFrom (bound : Nat) (command : List Bytes) (failure : String) (s : State) : State :=
  match bound with
  | 0 => { s with ended := some (.signal 9) }
  | bound + 1 =>
    match command with
    | [] => s.withStatus 0
    | name :: args =>
      match findProgram s.disk (callPath s) true name args with
      | .ok program => execute bound program s
      | .error fault => cannotCall s failure fault

/-- Calls one command after the other; the exit code says whether all went well. -/
def callEach (bound : Nat) (commands : List (List Bytes)) (shows : Bool) (code : Nat) (s : State) :
    State :=
  match bound with
  | 0 => { s with ended := some (.signal 9) }
  | bound + 1 =>
    match commands with
    | [] => s.withStatus code
    | command :: rest =>
      let name := command.headD []
      let shown := String.ofList name
      let words := command.map fun word => (Quoting.asNeeded word).toList
      let s := if shows then s.emit 2 ([' '].intercalate words ++ ['\n']) else s
      -- a failure before the last command is what the exit code stays about
      let stopped (s : State) (own : Nat) : State :=
        s.withStatus (if code != 0 && !rest.isEmpty then code else own)
      match findProgram s.disk (callPath s) true name command.tail with
      | .error fault =>
        let s := cannotCall s shown fault
        stopped s s.status
      | .ok program =>
        let ran := execute bound program s
        let s := regained s ran
        match ran.ended with
        | some (.signal n) =>
          stopped (s.report 0 (shown ++ ": terminated by signal " ++ toString n)) 125
        | _ =>
          if s.ended.isSome then s
          else if s.status == 255 then
            stopped (s.report 0 (shown ++ ": exited with status 255; aborting")) 124
          else callEach bound rest shows (if s.status == 0 then code else 123) s

/-- Runs a program to its end. -/
def execute (bound : Nat) (program : Program) (s : State) : State :=
  match bound with
  | 0 => { s with ended := some (.signal 9) }
  | bound + 1 =>
    let s := { s with clock := s.clock + programTime }
    match program with
    | .utility name u args => heardFrom (u args { s with program := String.ofList name })
    | .shell name args options script =>
      finish bound script (openShell s name args options)
    | .reader name args options =>
      finish bound s.input
        { openShell s name args options with input := [] }
    | .caller name (.handover run) args =>
      match run args { s with program := String.ofList name } with
      | .over s => heardFrom s
      | .handing command failure s => callFrom bound command failure s
      | .watching command failure s behind => behind (callFrom bound command failure s)
    | .caller name .xargs args =>
      match argumentsOf args { s with program := String.ofList name } with
      | .error s => s
      | .ok ((calls, shows, open_), s) =>
        let s := callEach bound calls shows 0 s
        match open_ with
        | some mark => s.report (max s.status 1) (openQuoteMessage mark)
        | none => s
    | .caller name .find args =>
      let call (command : List Bytes) (s : State) : State :=
        regained s (callFrom bound command (Quoting.always (command.headD [])) s)
      heardFrom (find call args { s with program := String.ofList name })
    | .caller name .awk args =>
      let shell (command : Bytes) (s : State) : State :=
        behindCall s (finish bound command
          (openShell s ['s', 'h'] [] []))
      awk shell args { s with program := String.ofList name }

/-- Runs the first case with a pattern that describes a text. -/
def chooseCase (bound : Nat) (text : Bytes) (cases : List (List Word × Command)) (s : State) :
    State :=
  match bound with
  | 0 => { s with ended := some (.signal 9) }
  | bound + 1 =>
    match cases with
    | [] => s.withStatus 0
    | ([], _) :: rest => chooseCase bound text rest s
    | (word :: words, body) :: rest =>
      let (marked, s) := expandMarked bound word s
      if marked.pattern.describes text then run bound body (s.withStatus 0)
      else chooseCase bound text ((words, body) :: rest) s

/-- Shows a command that runs, behind a mark that is expanded. -/
def trace (bound : Nat) (shown : List Bytes) (s : State) : State :=
  match bound with
  | 0 => { s with ended := some (.signal 9) }
  | bound + 1 =>
    let (mark, s) :=
      match readTemplate? (traceMark s) with
      | none => (traceMark s, s)
      | some word =>
        let (mark, after) := expandText bound word (s.turn false ['x'])
        (mark, after.turn true ['x'])
    s.emit 2 (mark ++ [' '].intercalate shown ++ ['\n'])

/-- Runs a simple command. -/
def runSimple (bound : Nat) (assignments : List (Bytes × Word)) (words : List Word)
    (directions : List Direction) (s : State) : State :=
  match bound with
  | 0 => { s with ended := some (.signal 9) }
  | bound + 1 =>
    let (fields, s) := expandAll bound words s
    if s.ended.isSome then s
    else
      let isSpecial := specialNames.contains (String.ofList (fields.headD []))
      let before := assignments.map fun (name, _) => (name, s.vars.lookup name)
      match directAll bound directions s with
      | (false, failed) =>
        let failed := restore s directions failed
        if isSpecial then { failed with ended := failed.ended <|> some (.exit 2) } else failed
      | (true, directed) =>
        let (shown, inside) := assignAll bound assignments directed
        let inside :=
          if inside.ended.isSome || !s.has 'x' then inside
          else
            let shownAt := { inside with sinks := s.sinks }
            { trace bound (shown ++ fields) shownAt with sinks := inside.sinks }
        match fields with
        | [] =>
          let asks := (words ++ assignments.map Prod.snd).any fun w => w.any Piece.isOutput
          restore s directions (if asks then inside else inside.withStatus 0)
        | name :: args =>
          let given := { inside with exported := assignments.map Prod.fst ++ inside.exported }
          let ran := if given.ended.isSome then given else invoke bound name args given
          if name == "exec".toList && args.isEmpty then ran
          else
            let ran := restore s directions ran
            if assignments.isEmpty then ran
            else if isSpecial then { ran with exported := s.exported }
            else { ran.bringBack before with exported := s.exported }

/-- Runs a command. -/
def run (bound : Nat) (command : Command) (s : State) : State :=
  match bound with
  | 0 => { s with ended := some (.signal 9) }
  | bound + 1 =>
    if s.ended.isSome || s.has 'n' then s
    else
      match command with
      | .nothing => s
      | .simple assignments words directions line =>
        let ran := runSimple bound assignments words directions { s with line := line }
        checked (runPending bound ran.noticed)
      | .pipe first second =>
        let (text, left) := s.drained (apart (runPart bound first) s.openPipe)
        let right := apart (runPart bound second) { left with input := text, rewinds := false }
        let right := { right with input := left.input, rewinds := left.rewinds }
        checked (runPending bound right.noticed)
      | .negate command =>
        let s := tested (run bound command) s
        if s.ended.isSome then s else s.withStatus (if s.status == 0 then 1 else 0)
      | .background command =>
        leaveAlone command.width (runPart bound command) s
      | .both first second =>
        let s := tested (run bound first) s
        if s.status == 0 then run bound second s else s
      | .either first second =>
        let s := tested (run bound first) s
        if s.status == 0 then s else run bound second s
      | .sequence first second => run bound second (run bound first s)
      | .branch condition then_ else_ =>
        let s := tested (run bound condition) s
        if s.status == 0 then run bound then_ s
        else if s.ended.isSome then s
        else run bound else_ (s.withStatus 0)
      | .loop until_ condition body =>
        let ran := repeatBody until_ (tested (run bound condition)) (run bound body) roundsOfLoops 0
          { s with loops := s.loops + 1 }
        { ran with loops := s.loops }
      | .each name words body =>
        let (fields, s) :=
          match words with
          | some words => expandAll bound words s
          | none => (s.args, s)
        let ran := forEach (fun word s => run bound body (s.assign name word)) fields
          { s with loops := s.loops + 1, status := 0 }
        { ran with loops := s.loops }
      | .choose word cases =>
        let (text, s) := expandText bound word s
        chooseCase bound text cases s
      | .define name body =>
        { s with functions := (name, body) :: s.functions, status := 0 }
      | .group body directions =>
        match directAll bound directions s with
        | (false, failed) => restore s directions failed
        | (true, directed) => restore s directions (run bound body directed)
      | .subshell body directions =>
        match directAll bound directions s with
        | (false, failed) => restore s directions failed
        | (true, directed) =>
          let ran := restore s directions (apart (runPart bound body) directed)
          checked (runPending bound ran.noticed)

/-- Runs a script to its end. -/
def finish (bound : Nat) (script : Bytes) (s : State) : State :=
  match bound with
  | 0 => { s with ended := some (.signal 9) }
  | bound + 1 =>
    let ran := runFarewell bound (runText bound 1 script { s with status := 0 })
    let ran := { ran with notices := ran.notices.filter (·.target != State.processNumber) }
    match ran.ended with
    | some (.exit _) => ran
    | some (.signal _) => ran
    | some (.expired _) => ran
    | _ => { ran with ended := some (.exit ran.status) }

end

/-- How deep the calls of a script may be nested. -/
def depthOfScripts : Nat := 100000

end MojoToolchain.Shell
