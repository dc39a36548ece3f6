import MojoToolchain.Shell.Permissions
import MojoToolchain.Shell.Utility.Copying
import MojoToolchain.Shell.Utility.Listing
import MojoToolchain.Shell.Utility.Removal

/-!
# Files

Utilities that make files and directories, and change what may be done with them.
-/

namespace MojoToolchain.Shell

open Host (Disk Fault Node Place)

/-- Writes where relative paths start. -/
def pwd : Utility :=
  withOptions 1
    { flags := "LP", valued := "", names := [("logical", 'L'), ("physical", 'P')] } fun call s =>
    let s := s.withStatus 0
    let s := if call.operands.isEmpty then s else s.report 0 "ignoring non-option arguments"
    emitLines s [s.directory]

/-! ### Making -/

/-- Makes a directory and says so. -/
def makeDirectory (shows : Bool) (path : Bytes) (place : Place) (s : State) : State :=
  let s := { s with disk := s.disk.put place .directory }
  if shows then s.emit 1 ("mkdir: created directory " ++ Quoting.always path ++ "\n").toList else s

/-- Makes directories on the way through some paths, each of which goes on with the one before. -/
def makeWay (shows : Bool) (s : State) : List Bytes → Except (Bytes × String) State
  | [] => .ok s
  | path :: rest =>
    match s.kindAt (withoutSlashes path) with
    | some .directory => makeWay shows s rest
    | some .file => .error (path, if rest.isEmpty then "File exists" else "Not a directory")
    | none =>
      match Transfer.newPlace s.disk true path with
      | .ok place => makeWay shows (makeDirectory shows path place s) rest
      | .error fault => .error (path, reasonOf fault)

/-- Makes directories. -/
def mkdir : Utility :=
  let forms : OptionForms :=
    { flags := "pvZ", valued := "m",
      names := [("parents", 'p'), ("verbose", 'v'), ("mode", 'm'), ("context", 'ξ')],
      loose := "ξ" }
  withOptions 1 forms fun call s =>
    let badMode := (call.value? 'm').filter fun mode =>
      (Permissions.ofText? s.mask 0o777 mode).isNone
    match call.operands, badMode with
    | [], _ => misused 1 "missing operand" s
    | _, some mode => s.report 1 ("invalid mode " ++ Quoting.plain mode)
    | dirs, none =>
      dirs.foldl (fun s dir =>
        let fault (path : Bytes) (reason : String) : State :=
          s.report 1 ("cannot create directory " ++ Quoting.plain path ++ ": " ++ reason)
        let shows := call.has 'v'
        let bare := if (withoutSlashes dir).isEmpty then dir else withoutSlashes dir
        match call.has 'p' && !(withoutSlashes dir).isEmpty, s.kindAt bare with
        | true, _ =>
          let above := (pathsAbove dir.length dir).drop 1
          match makeWay shows s (above.reverse ++ [dir]) with
          | .ok s => s
          | .error (path, reason) => fault path reason
        | false, some .directory => if call.has 'p' then s else fault dir "File exists"
        | false, some .file => fault dir "File exists"
        | false, none =>
          match Transfer.newPlace s.disk true dir with
          | .ok place => makeDirectory shows dir place s
          | .error reason => fault dir (reasonOf reason)) (s.withStatus 0)

/-- The words for the times of files. -/
def touchWords : List (List String) := [["atime", "access", "use"], ["mtime", "modify"]]

/-- A text writes a time as digits, which may have seconds behind a point. -/
def isStamp (text : Bytes) : Bool :=
  let digits := text.takeWhile Char.isDigit
  let rest := text.drop digits.length
  [8, 10, 12].contains digits.length
    && (rest.isEmpty || (rest.length == 3 && rest.head? == some '.'
      && (rest.drop 1).all Char.isDigit))

/-- Makes empty files where there is nothing; times are not kept. -/
def touch : Utility :=
  let forms : OptionForms :=
    { flags := "acmhf", valued := "drtτ",
      names := [("no-create", 'c'), ("date", 'd'), ("reference", 'r'), ("no-dereference", 'h'),
        ("time", 'τ')] }
  withOptions 1 forms fun call s =>
    let word := (call.value? 'τ').mapM (chooseAmong "--time" touchWords)
    let badStamp := (call.value? 't').filter fun text => !isStamp text
    let badFile := (call.value? 'r').filter fun file => !isThere s file
    match word, badStamp, badFile, call.operands with
    | .error reason, _, _, _ => misused 1 reason s
    | _, some text, _, _ => s.report 1 ("invalid date format " ++ Quoting.plain text)
    | _, _, some file, _ =>
      s.report 1 (aboutFile "failed to get attributes of" file "No such file or directory")
    | _, _, _, [] => misused 1 "missing file operand" s
    | _, _, _, files =>
      files.foldl (fun s file =>
        if isThere s file || call.has 'c' || file == ['-'] then s
        else
          match Transfer.newPlace s.disk false file with
          | .ok place => { s with disk := s.disk.put place (.file ⟨#[]⟩ false) }
          | .error fault =>
            if file.getLast? == some '/' && fault == .notDirectory then
              s.report 1 (aboutFile "setting times of" file "No such file or directory")
            else s.report 1 (aboutFile "cannot touch" file (reasonOf fault)))
        (s.withStatus 0)

/-! ### Permissions -/

/-- The option of a mode that removes permissions, such as `-x`. -/
def isModeOption : Bytes → Bool
  | '-' :: c :: _ => "rwxXstugoa,+=".toList.contains c
  | _ => false

/-- Changes what may be done with a file, and says so. -/
def setMode (call : Call) (mode : Bytes) (given : Option Nat) (s : State) (file : Bytes) :
    State :=
  match s.disk.locate (pathOf file) with
  | .error fault =>
    let s :=
      if call.has 'f' then s.withStatus 1
      else s.report 1 (aboutFile "cannot access" file (reasonOf fault))
    if call.has 'v' then
      s.emit 1 (Quoting.always file ++ " could not be accessed\n").toList
    else s
  | .ok place =>
    let node := (s.disk.find? place).getD .directory
    let executable :=
      match node with
      | .file _ executable => executable
      | .directory => true
    let old := Permissions.usual executable
    let new := (given <|> Permissions.ofText? s.mask old mode).getD old
    let s :=
      match node with
      | .file bytes _ =>
        { s with disk := s.disk.put place (.file bytes (new &&& 0o111 != 0)) }
      | .directory => s
    let shown (mode : Nat) : String :=
      String.ofList (Permissions.digits mode ++ " (".toList ++ Permissions.row mode ++ [')'])
    let row :=
      "mode of " ++ Quoting.always file
        ++ if old == new then " retained as " ++ shown new
          else " changed from " ++ shown old ++ " to " ++ shown new
    if call.has 'v' || (call.has 'c' && old != new) then s.emit 1 (row.toList ++ ['\n']) else s

/-- A path and all those below it. -/
def pathsBelow (s : State) : Nat → Bytes → List Bytes
  | 0, path => [path]
  | bound + 1, path =>
    path :: (namesIn s path).flatMap fun name => pathsBelow s bound (inside path name)

/-- Changes what may be done with files. -/
def chmod : Utility := fun args s =>
  let forms : OptionForms :=
    { flags := "Rcfvπκ", valued := "ρ",
      names := [("recursive", 'R'), ("changes", 'c'), ("silent", 'f'), ("quiet", 'f'),
        ("verbose", 'v'), ("preserve-root", 'π'), ("no-preserve-root", 'κ'),
        ("reference", 'ρ')] }
  let front := args.takeWhile (· != ['-', '-'])
  let modes := front.filter isModeOption
  let others := front.filter (!isModeOption ·) ++ args.drop front.length
  match Call.read forms others with
  | .error reason => misused 1 reason s
  | .ok call =>
    let given := (call.value? 'ρ').map fun file => (file, s.disk.nodeAt (pathOf file))
    let (mode, files) :=
      if !modes.isEmpty then ([','].intercalate modes, call.operands)
      else if given.isSome then ([], call.operands)
      else (call.operands.headD [], call.operands.drop 1)
    if files.isEmpty then
      if modes.isEmpty && !call.operands.isEmpty then
        misused 1 ("missing operand after " ++ Quoting.plain (call.operands.getLastD [])) s
      else misused 1 "missing operand" s
    else
      let run (known : Option Nat) : State :=
        let files :=
          if call.has 'R' then files.flatMap (pathsBelow s s.disk.nodes.length) else files
        files.foldl (setMode call mode known) (s.withStatus 0)
      match given with
      | some (file, .error fault) =>
        s.report 1 (aboutFile "failed to get attributes of" file (reasonOf fault))
      | some (_, .ok (.file _ executable)) => run (some (Permissions.usual executable))
      | some (_, .ok .directory) => run (some (Permissions.usual true))
      | none =>
        if (Permissions.ofText? s.mask 0 mode).isNone then
          misused 1 ("invalid mode: " ++ Quoting.plain mode) s
        else run none

/-! ### New names -/

/-- The parts of a template: what stands in front of the letters to replace, how many there are,
and what stands behind. -/
def templateParts (template : Bytes) : Bytes × Nat × Bytes :=
  let behind := (template.reverse.takeWhile (· != 'X')).reverse
  let front := template.take (template.length - behind.length)
  let stem := (front.reverse.dropWhile (· == 'X')).reverse
  (stem, front.length - stem.length, behind)

/-- A path with the letters of a template replaced by a number that no file has yet. -/
def freshPath (s : State) (stem : Bytes) (size : Nat) (behind : Bytes) : Bytes :=
  let candidates := (List.range 1000).map fun n =>
    let digits := Nat.toDigits 10 n
    stem ++ List.replicate (size - digits.length) '0' ++ digits ++ behind
  (candidates.find? fun path => (s.kindAt path).isNone).getD (stem ++ behind)

/-- The template of a call, with its parts; or what is wrong with it. -/
def templateOf (call : Call) (s : State) : Except String (Bytes × Bytes × Nat × Bytes) := do
  let template := (call.operands.head?).getD "tmp.XXXXXXXXXX".toList
  let (stem, size, behind) := templateParts template
  let ending := call.value? 'σ'
  if ending.isSome && !behind.isEmpty then
    throw ("with --suffix, template " ++ Quoting.plain template ++ " must end in X")
  let behind := ending.getD behind
  if behind.contains '/' && 0 < size then
    throw ("invalid suffix " ++ Quoting.plain behind ++ ", contains directory separator")
  if size < 3 then throw ("too few X's in template " ++ Quoting.plain template)
  let inTemporary := call.has 't' || call.has 'p' || call.has 'τ' || call.operands.isEmpty
  let own := ((call.last? "pτ").map Prod.snd).filter (!·.isEmpty)
  let usual := (s.value? "TMPDIR".toList).filter (!·.isEmpty)
  let dir :=
    if call.has 't' then (usual <|> own).getD "/tmp".toList
    else (own <|> usual).getD "/tmp".toList
  if !inTemporary then return (template, stem, size, behind)
  else if call.has 't' && template.contains '/' then
    throw ("invalid template, " ++ Quoting.plain template ++ ", contains directory separator")
  else if template.head? == some '/' then
    throw ("invalid template, " ++ Quoting.plain template
      ++ "; with --tmpdir, it may not be absolute")
  else return (inside dir template, inside dir stem, size, behind)

/-- Makes a file or directory with a new name. -/
def mktemp : Utility :=
  let forms : OptionForms :=
    { flags := "dqut", valued := "pσ",
      names := [("directory", 'd'), ("quiet", 'q'), ("dry-run", 'u'), ("suffix", 'σ'),
        ("tmpdir", 'τ')],
      loose := "τ" }
  withOptions 1 forms fun call s =>
    match call.operands.drop 1, templateOf call s with
    | _ :: _, _ => misused 1 "too many templates" s
    | [], .error reason => s.report 1 reason
    | [], .ok (template, stem, size, behind) =>
      let path := freshPath s stem size behind
      match s.disk.locateNew (pathOf path) with
      | .ok place =>
        let node : Node := if call.has 'd' then .directory else .file ⟨#[]⟩ false
        let s := if call.has 'u' then s else { s with disk := s.disk.put place node }
        (emitLines s [path]).withStatus 0
      | .error fault =>
        let kind := if call.has 'd' then "directory" else "file"
        if call.has 'u' then (emitLines s [path]).withStatus 0
        else if call.has 'q' then s.withStatus 1
        else
          let shown :=
            template ++ if call.has 'σ' then behind else []
          s.report 1 ("failed to create " ++ kind ++ " via template " ++ Quoting.plain shown ++ ": "
            ++ reasonOf fault)

/-- The utilities that deal with files. -/
def fileUtilities : Utilities :=
  [("pwd", pwd), ("mkdir", mkdir), ("touch", touch), ("chmod", chmod), ("mktemp", mktemp)]
    ++ namingUtilities ++ removalUtilities ++ copyUtilities ++ listUtilities

end MojoToolchain.Shell
