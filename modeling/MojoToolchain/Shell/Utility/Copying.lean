import MojoToolchain.Shell.Expansion
import MojoToolchain.Shell.Utility.Removal
import MojoToolchain.Shell.Utility.Test

/-!
# Copying and moving

`cp` and `mv` put files and directories elsewhere.  Both go through their sources with a `Transfer`,
which says what happens where something already stands.
-/

namespace MojoToolchain.Shell

open Host (Disk Fault Node Place)

/-- What happens to a file that stands where another one should go. -/
inductive Collision where
  | replace
  | ask
  | keep
  deriving DecidableEq, Repr

/-- How files are copied or moved. -/
structure Transfer where
  /-- The sources do not stay. -/
  moves : Bool
  /-- Directories are copied with all that is in them. -/
  deep : Bool
  /-- A copy may be executed exactly if its source may. -/
  faithful : Bool
  shows : Bool
  collision : Collision
  /-- A file is not replaced by one that is not newer. -/
  newer : Bool
  /-- What is replaced is kept under its name with this behind it. -/
  ending : Option Bytes
  /-- What is replaced is taken away before. -/
  fresh : Bool
  /-- The places that have been filled. -/
  filled : List Place

namespace Transfer

/-- The options of a call. -/
def forms : OptionForms where
  flags := "abcdfiHlLnpPrRTuvxZκαωφψ"
  valued := "tS"
  names := [("archive", 'a'), ("attributes-only", 'ω'), ("backup", 'β'), ("copy-contents", 'ω'),
    ("dereference", 'L'), ("force", 'f'), ("interactive", 'i'), ("link", 'l'),
    ("no-clobber", 'n'), ("no-dereference", 'P'), ("no-preserve", 'π'),
    ("no-target-directory", 'T'), ("one-file-system", 'x'), ("parents", 'κ'), ("path", 'κ'),
    ("preserve", 'π'), ("recursive", 'R'), ("remove-destination", 'φ'), ("sparse", 'σ'),
    ("reflink", 'σ'), ("strip-trailing-slashes", 'ψ'), ("suffix", 'S'),
    ("target-directory", 't'), ("update", 'υ'), ("verbose", 'v')]
  loose := "βπσυ"

/-- What the options of a call ask for. -/
def ofCall (moves : Bool) (call : Call) : Transfer where
  moves := moves
  deep := call.has 'r' || call.has 'R' || call.has 'a'
  faithful := moves || call.has 'p' || call.has 'a'
  shows := call.has 'v'
  collision :=
    match call.last? (if moves then "ifn" else "in") with
    | some ('i', _) => .ask
    | some ('n', _) => .keep
    | _ => .replace
  newer := call.has 'u' || call.has 'υ'
  ending :=
    if call.has 'b' || call.has 'β' || call.has 'S' then some ((call.value? 'S').getD ['~'])
    else none
  fresh := call.has 'φ'
  filled := []

/-- Says from where to where something goes. -/
def tell (x : Transfer) (old new behind : Bytes) (s : State) : State :=
  let front := if x.moves then "renamed " else ""
  let row := front ++ Quoting.always old ++ " -> " ++ Quoting.always new ++ String.ofList behind
  if x.shows then s.emit 1 (row.toList ++ ['\n']) else s

/-- What stands at a path from which something is copied; a device is read. -/
def nodeFrom (old : Bytes) (s : State) : Except Fault Node × State :=
  if isDevice old || old == "/dev/stdin".toList then
    let (text, s) := fileText old s
    (text.map fun text => .file (toByteArray text) false, s)
  else (s.disk.nodeAt (pathOf old), s)

/-- The place for something at a path where nothing stands; only a directory may be named with a
slash behind. -/
def newPlace (d : Disk) (isDirectory : Bool) (new : Bytes) : Except Fault Place := do
  let bare := withoutSlashes new
  let place ← d.locateNew (pathOf (if bare.isEmpty then new else bare))
  if !isDirectory && bare.length < new.length then .error .notDirectory else .ok place

/-- Puts what is kept at one place at another, with all that is below it. -/
def carry (d : Disk) (old new : Place) : Disk :=
  let top := (d.find? old).toList.map fun node => (new, node)
  let below := (d.below old).map fun (rest, node) => (new ++ rest, node)
  let kept := { d with nodes := d.nodes.filter fun (p, _) => !old.isPrefixOf p }
  (top ++ below).foldl (fun d (place, node) => d.put place node) kept

/-- Moves what stands at a path to a place. -/
def moveTo (x : Transfer) (old new behind : Bytes) (isDirectory : Bool) (s : State) :
    Transfer × State :=
  let failed (reason : String) : Transfer × State := (x, s.report 1 reason)
  let both := Quoting.always old ++ " to " ++ Quoting.always new
  match s.disk.locate (pathOf old), newPlace s.disk isDirectory new with
  | .error fault, _ => failed ("cannot move " ++ both ++ ": " ++ reasonOf fault)
  | _, .error fault => failed ("cannot move " ++ both ++ ": " ++ reasonOf fault)
  | .ok start, .ok place =>
    if start.isEmpty || [['.'], ['.', '.']].contains (lastName old) then
      failed ("cannot move " ++ both ++ ": Device or resource busy")
    else if start.isPrefixOf place then
      failed ("cannot move " ++ Quoting.always old ++ " to a subdirectory of itself, "
        ++ Quoting.always new)
    else if !(s.disk.below place).isEmpty then
      failed (aboutFile "cannot overwrite" new "Directory not empty")
    else
      ({ x with filled := place :: x.filled },
        x.tell old new behind { s with disk := carry s.disk start place })

/-- Writes a copy of a file at a path. -/
def copyFile (x : Transfer) (old new behind : Bytes) (bytes : ByteArray) (executable : Bool)
    (s : State) : Transfer × State :=
  let s := x.tell old new behind s
  if isDevice new then (x, s)
  else
    match newPlace s.disk false new with
    | .error fault =>
      (x, s.report 1 (aboutFile "cannot create regular file" new (reasonOf fault)))
    | .ok place =>
      let kept :=
        match s.disk.find? place with
        | some (.file _ old) => if x.faithful then executable else old
        | _ => executable
      ({ x with filled := place :: x.filled },
        { s with disk := s.disk.put place (.file bytes kept) })

/-- What stands in the way of a path is taken away, or kept under another name; the text is said
of that. -/
def makeRoom (x : Transfer) (new : Bytes) (s : State) : Bytes × State :=
  match s.disk.locate (pathOf new), x.ending with
  | .ok place, some ending =>
    let name := new ++ ending
    let kept := place.dropLast ++ [place.getLastD [] ++ ending]
    ((" (backup: " ++ Quoting.always name ++ ")").toList,
      { s with disk := carry s.disk place kept })
  | .ok _, none =>
    if x.fresh then
      let s := { s with disk := s.disk.remove (pathOf new) }
      ([], if x.shows then s.emit 1 ("removed " ++ Quoting.always new ++ "\n").toList else s)
    else ([], s)
  | .error _, _ => ([], s)

/-- Copies or moves what stands at a path to another path; `top` is where the outermost directory
goes that is copied, with the names of both. -/
def carryOver (x : Transfer) (top : Option (Place × Bytes × Bytes)) :
    Nat → Bytes → Bytes → State → Transfer × State
  | 0, _, _, s => (x, s)
  | bound + 1, old, new, s =>
    let failed (s : State) (reason : String) : Transfer × State := (x, s.report 1 reason)
    let (source, s) := nodeFrom old s
    let target := (s.disk.nodeAt (pathOf new)).toOption
    let here := (s.disk.locate (pathOf old)).toOption
    let there := (s.disk.locate (pathOf new)).toOption
    match source, target with
    | .error fault, _ => failed s (aboutFile "cannot stat" old (reasonOf fault))
    | .ok (.file bytes executable), target =>
      let put (s : State) (behind : Bytes) : Transfer × State :=
        if x.moves then x.moveTo old new behind false s
        else x.copyFile old new behind bytes executable s
      match target with
      | none => put s []
      | some node =>
        let both := Quoting.always old ++ " and " ++ Quoting.always new
        if here.isSome && here == there then failed s (both ++ " are the same file")
        else if x.collision == .keep || x.newer then (x, s)
        else
          let (allowed, s) :=
            if x.collision == .ask then asks ("overwrite " ++ Quoting.always new) s else (true, s)
          if !allowed then (x, s)
          else if node matches .directory then
            failed s ("cannot overwrite directory " ++ Quoting.always new
              ++ " with non-directory")
          else if there.any x.filled.contains && x.ending.isNone then
            failed s ("will not overwrite just-created " ++ Quoting.always new ++ " with "
              ++ Quoting.always old)
          else
            let (behind, s) := x.makeRoom new s
            put s behind
    | .ok .directory, target =>
      if !x.moves && !x.deep then
        failed s ("-r not specified; omitting directory " ++ Quoting.always old)
      else if top.any fun (place, _) => here == some place then
        let (name, place) := (top.map Prod.snd).getD (old, new)
        failed s ("cannot copy a directory, " ++ Quoting.always name ++ ", into itself, "
          ++ Quoting.always place)
      else if here.isSome && here == there then
        failed s (Quoting.always old ++ " and " ++ Quoting.always new ++ " are the same file")
      else if target matches some (.file _ _) then
        if x.moves && x.collision == .keep then (x, s)
        else
          failed s ("cannot overwrite non-directory " ++ Quoting.always new ++ " with directory "
            ++ Quoting.always old)
      else if x.moves then
        if target.isSome && x.collision == .keep then (x, s) else x.moveTo old new [] true s
      else
        match newPlace s.disk true new with
        | .error fault => failed s (aboutFile "cannot create directory" new (reasonOf fault))
        | .ok place =>
          let s :=
            if target.isSome then s
            else x.tell old new [] { s with disk := s.disk.put place .directory }
          let names := match here with
            | some here => (s.disk.namesIn here).map fun name => ofText (String.ofList name)
            | none => []
          names.foldl (fun (x, s) name =>
            carryOver x (top <|> some (place, old, new)) bound (inside old name)
              (inside new name) s) ({ x with filled := place :: x.filled }, s)

/-- Makes the directories in which a path stands, below another directory. -/
def makeParents (x : Transfer) (dir path : Bytes) (s : State) : State :=
  (((pathsAbove path.length path).drop 1).reverse).foldl (fun s part =>
    let new := inside dir part
    if (s.kindAt new).isSome then s
    else
      let s := { s with disk := s.disk.makeDirectories (pathOf new) }
      if x.shows then s.emit 1 (part ++ " -> ".toList ++ new ++ ['\n']) else s) s

/-- The path of a source in a directory. -/
def nameFor (whole : Bool) (dir old : Bytes) : Bytes :=
  inside dir (if whole then (withoutSlashes old).dropWhile (· == '/') else lastName old)

/-- Copies or moves sources into a directory. -/
def intoDirectory (x : Transfer) (whole : Bool) (dir : Bytes) (olds : List Bytes) (s : State) :
    State :=
  let (_, _, s) := olds.foldl (fun ((x, seen, s) : Transfer × List Bytes × State) old =>
    let isTree := s.kindAt old == some .directory
    if seen.contains old && !(x.moves && (s.kindAt old).isNone) && (x.deep || !isTree) then
      let kind := if isTree then "directory" else "file"
      (x, seen, s.report s.status ("warning: source " ++ kind ++ " " ++ Quoting.always old
        ++ " specified more than once"))
    else
      let s := if whole then x.makeParents dir old s else s
      let (x, s) :=
        x.carryOver none s.disk.nodes.length.succ old (nameFor whole dir old) s
      (x, old :: seen, s)) (x, [], s)
  s

/-- Copies or moves as a call says. -/
def run (x : Transfer) (call : Call) (s : State) : State :=
  let s := s.withStatus 0
  let missing (what : String) (path : Bytes) : State :=
    let reason :=
      match s.disk.kindOf (pathOf path) with
      | .error fault => reasonOf fault
      | .ok _ => "Not a directory"
    s.report 1 (aboutFile what path reason)
  let isDir (path : Bytes) : Bool := s.kindAt path == some .directory
  let bound := s.disk.nodes.length.succ
  match call.operands, call.value? 't', call.has 'T' with
  | [], _, _ => misused 1 "missing file operand" s
  | [only], none, _ =>
    misused 1 ("missing destination file operand after " ++ Quoting.always only) s
  | _, some _, true =>
    s.report 1 "cannot combine --target-directory (-t) and --no-target-directory (-T)"
  | olds, some dir, false =>
    if isDir dir then x.intoDirectory (call.has 'κ') dir olds s
    else missing "target directory" dir
  | _ :: _ :: extra :: _, none, true =>
    misused 1 ("extra operand " ++ Quoting.always extra) s
  | [old, new], none, direct =>
    let isLost := !new.isEmpty && (s.disk.kindOf (pathOf new) matches .error .notDirectory)
    if isLost then missing "cannot stat" new
    else if isDir new && !direct then x.intoDirectory (call.has 'κ') new [old] s
    else if call.has 'κ' then
      misused 1 "with --parents, the destination must be a directory" s
    else (x.carryOver none bound old new s).2
  | olds, none, false =>
    let dir := olds.getLastD []
    if isDir dir then x.intoDirectory (call.has 'κ') dir olds.dropLast s
    else missing "target" dir

end Transfer

/-- Copies files. -/
def cp : Utility :=
  withOptions 1 Transfer.forms fun call s => (Transfer.ofCall false call).run call s

/-- Moves files. -/
def mv : Utility :=
  withOptions 1
    { Transfer.forms with flags := "bfinTuvZψ" }
    fun call s => (Transfer.ofCall true call).run call s

/-- The utilities that copy and move. -/
def copyUtilities : Utilities := [("cp", cp), ("mv", mv)]

end MojoToolchain.Shell
