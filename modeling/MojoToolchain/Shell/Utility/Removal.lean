import MojoToolchain.Shell.Expansion
import MojoToolchain.Shell.Utility.Naming

/-!
# Taking away

`rm` takes away files, and directories with all that is in them, and `rmdir` directories that are
empty.
-/

namespace MojoToolchain.Shell

/-- When a question is asked before something is taken away. -/
inductive Caution where
  | never
  /-- Once, if there is much to take away. -/
  | once
  | always
  deriving DecidableEq, Repr

/-- How files are taken away. -/
structure Removal where
  /-- Directories are taken away with all that is in them. -/
  deep : Bool
  /-- Directories are taken away that are empty. -/
  empty : Bool
  /-- What is not there is nothing to talk about. -/
  forced : Bool
  shows : Bool
  caution : Caution

namespace Removal

/-- The options of a call. -/
def forms : OptionForms where
  flags := "dfirRIvακπτ"
  valued := ""
  names := [("force", 'f'), ("recursive", 'r'), ("dir", 'd'), ("verbose", 'v'),
    ("interactive", 'ι'), ("one-file-system", 'α'), ("no-preserve-root", 'κ'),
    ("preserve-root", 'π'), ("presume-input-tty", 'τ')]
  loose := "ι"

/-- The words for the times of a question. -/
def cautions : List (List String) := [["never", "no", "none"], ["once"], ["always", "yes"]]

/-- What an option changes. -/
def add (x : Removal) (letter : Char) (value : Bytes) : Except String Removal :=
  match letter with
  | 'f' => .ok { x with forced := true, caution := .never }
  | 'i' => .ok { x with forced := false, caution := .always }
  | 'I' => .ok { x with forced := false, caution := .once }
  | 'r' | 'R' => .ok { x with deep := true }
  | 'd' => .ok { x with empty := true }
  | 'v' => .ok { x with shows := true }
  | 'ι' => do
    match ← chooseAmong "--interactive" cautions (if value.isEmpty then ['a'] else value) with
    | "never" => .ok { x with caution := .never }
    | "once" => .ok { x with forced := false, caution := .once }
    | _ => .ok { x with forced := false, caution := .always }
  | _ => .ok x

/-- What the options of a call ask for. -/
def ofCall (call : Call) : Except String Removal :=
  call.options.foldlM (fun x (letter, value) => x.add letter value)
    ⟨false, false, false, false, .never⟩

/-- Says what has been taken away. -/
def tell (x : Removal) (what : String) (path : Bytes) (s : State) : State :=
  if x.shows then s.emit 1 ("removed " ++ what ++ Quoting.always path ++ "\n").toList else s

/-- Asks whether something should be done, if questions are asked. -/
def allows (x : Removal) (question : String) (path : Bytes) (s : State) : Bool × State :=
  if x.caution == .always then asks (question ++ " " ++ Quoting.always path) s else (true, s)

/-- Takes away what stands at a path. -/
def take (x : Removal) (what : String) (path : Bytes) (s : State) : State :=
  x.tell what path { s with disk := s.disk.remove (pathOf path) }

/-- Takes away what stands at a path, with all that is below it. -/
def takeAll (x : Removal) : Nat → Bytes → State → State
  | 0, _, s => s
  | bound + 1, path, s =>
    let failed (reason : String) (s : State) : State :=
      s.report 1 (aboutFile "cannot remove" path reason)
    match s.disk.nodeAt (pathOf path) with
    | .error fault =>
      if x.forced && (fault matches .notFound | .notDirectory) then s
      else failed (reasonOf fault) s
    | .ok (.file bytes _) =>
      let kind := if bytes.size == 0 then "regular empty file" else "regular file"
      let (allowed, s) := x.allows ("remove " ++ kind) path s
      if allowed then x.take "" path s else s
    | .ok .directory =>
      let names := namesIn s path
      if !x.deep && !(x.empty && names.isEmpty) then
        failed (if x.empty then "Directory not empty" else "Is a directory") s
      else if [['.'], ['.', '.']].contains (lastName path) then
        s.report 1 ("refusing to remove '.' or '..' directory: skipping " ++ Quoting.always path)
      else
        let (allowed, s) :=
          if names.isEmpty then (true, s) else x.allows "descend into directory" path s
        if !allowed then s
        else
          let s := names.foldl (fun s name => takeAll x bound (inside path name) s) s
          let (allowed, s) := x.allows "remove directory" path s
          if !allowed then s
          else if !(namesIn s path).isEmpty then failed "Directory not empty" s
          else x.take "directory " path s

/-- Takes away what stands at a path that an argument names. -/
def takeNamed (x : Removal) (s : State) (path : Bytes) : State :=
  if x.deep && !path.isEmpty && (withoutSlashes path).isEmpty then
    (s.report 1 "it is dangerous to operate recursively on '/'").report 1
      "use --no-preserve-root to override this failsafe"
  else x.takeAll s.disk.nodes.length.succ path s

/-- The question whether all of so many arguments should be taken away. -/
def questionFor (x : Removal) (count : Nat) : String :=
  "remove " ++ toString count ++ (if count == 1 then " argument" else " arguments")
    ++ if x.deep then " recursively" else ""

end Removal

/-- Takes away files, and directories with all that is in them. -/
def rm : Utility := fun args s =>
  -- an option may be meant as the name of a file
  let hint := args.find? fun arg => arg.head? == some '-' && (s.kindAt arg).isSome
  match Call.read Removal.forms args, hint with
  | .error reason, some arg =>
    misused 1 (reason ++ "\nTry 'rm ./" ++ Quoting.asNeeded arg ++ "' to remove the file "
      ++ Quoting.always arg ++ ".") s
  | .error reason, none => misused 1 reason s
  | .ok call, _ =>
    match Removal.ofCall call with
    | .error reason => misused 1 reason s
    | .ok x =>
      let count := call.operands.length
      if count == 0 then if x.forced then s.withStatus 0 else misused 1 "missing operand" s
      else
        let (allowed, s) :=
          if x.caution == .once && (x.deep || 3 < count) then asks (x.questionFor count) s
          else (true, s)
        if allowed then call.operands.foldl x.takeNamed (s.withStatus 0) else s.withStatus 0

/-! ### Empty directories -/

/-- A path and those of the directories above it, as far as it names them. -/
def pathsAbove : Nat → Bytes → List Bytes
  | 0, _ => []
  | bound + 1, path =>
    let path := withoutSlashes path
    let above := withoutSlashes ((path.reverse.dropWhile (· != '/')).reverse)
    if path.isEmpty then [] else path :: pathsAbove bound above

/-- Takes away directories that are empty. -/
def rmdir : Utility :=
  let forms : OptionForms :=
    { flags := "pvα", valued := "",
      names := [("parents", 'p'), ("verbose", 'v'), ("ignore-fail-on-non-empty", 'α')] }
  withOptions 1 forms fun call s =>
    -- why a directory cannot be taken away
    let obstacle (s : State) (dir : Bytes) : Option String :=
      match s.disk.kindOf (pathOf dir) with
      | .error fault => some (reasonOf fault)
      | .ok .file => some "Not a directory"
      | .ok .directory =>
        if lastName dir == ['.'] then some "Invalid argument"
        else if (withoutSlashes dir).isEmpty then some "Device or resource busy"
        else if lastName dir == ['.', '.'] || !(namesIn s dir).isEmpty then
          some "Directory not empty"
        else none
    let take (action : String) : Bool × State → Bytes → Bool × State := fun (on, s) dir =>
      let s :=
        if on && call.has 'v' then
          s.emit 1 ("rmdir: removing directory, " ++ Quoting.always dir ++ "\n").toList
        else s
      match on, obstacle s dir with
      | false, _ => (false, s)
      | true, none => (true, { s with disk := s.disk.remove (pathOf dir) })
      | true, some reason =>
        if reason == "Directory not empty" && call.has 'α' then (false, s)
        else (false, s.report 1 (aboutFile action dir reason))
    if call.operands.isEmpty then misused 1 "missing operand" s
    else
      call.operands.foldl (fun s dir =>
        let (on, s) := take "failed to remove" (true, s) dir
        let above := if call.has 'p' then (pathsAbove dir.length dir).drop 1 else []
        (above.foldl (take "failed to remove directory") (on, s)).2) (s.withStatus 0)

/-- The utilities that take something away. -/
def removalUtilities : Utilities := [("rm", rm), ("rmdir", rmdir)]

end MojoToolchain.Shell
