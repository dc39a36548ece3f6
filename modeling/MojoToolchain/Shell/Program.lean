import MojoToolchain.Shell.Calls
import MojoToolchain.Shell.Utilities

/-!
# Programs

A program is a utility of the system, the shell, or an executable file that names a program as
its interpreter.
-/

namespace MojoToolchain.Shell

open Host (Disk Fault Place)

/-- A program that calls other programs. -/
inductive Caller where
  /-- Makes arguments of the input. -/
  | xargs
  /-- Calls what a program over records asks for. -/
  | awk
  /-- Calls commands for the files that it finds. -/
  | find
  /-- Calls the command behind its options. -/
  | handover (run : List Bytes → State → Handover)

/-- What runs, with its arguments; a program has the name by which it was called. -/
inductive Program where
  | utility (name : Bytes) (run : Utility) (args : List Bytes)
  /-- The shell, with what it is called, its arguments, its options and its script. -/
  | shell (name : Bytes) (args : List Bytes) (options script : Bytes)
  /-- The shell with a script that it has to read first. -/
  | reader (name : Bytes) (args : List Bytes) (options : Bytes)
  | caller (name : Bytes) (kind : Caller) (args : List Bytes)

/-! ### The shell -/

/-- The names of the shell. -/
def shellNames : List String := ["sh", "dash", "bash"]

/-- The options and the other arguments of a call of the shell. -/
def shellOptions : List Bytes → Bytes × List Bytes
  | [] => ([], [])
  | arg :: rest =>
    if arg == ['-', '-'] || arg == ['-'] then ([], rest)
    else if arg.head? != some '-' && arg.head? != some '+' then ([], arg :: rest)
    else
      let own := if arg.head? == some '-' then (arg.drop 1).filter (· != 'o') else []
      match arg.contains 'o', rest with
      | true, name :: after =>
        let (letters, args) := shellOptions after
        (own ++ (optionLetter? name).toList ++ letters, args)
      | _, rest =>
        let (letters, args) := shellOptions rest
        (own ++ letters, args)

/-- The shell as it is called: with a script, with the file of one, or with one to read. -/
def shellProgram (disk : Disk) (name : Bytes) (args : List Bytes) : Program :=
  let (letters, args) := shellOptions args
  let options := letters.filter State.optionLetters.contains
  let isKnown (c : Char) : Bool := State.optionLetters.contains c || c == 'c' || c == 'l'
  let said (words : String) : Program := .utility name (fun _ s => s.report 2 words) []
  match letters.find? fun c => !isKnown c with
  | some c => said ("0: Illegal option -" ++ String.ofList [c])
  | none =>
    match letters.contains 'c', letters.contains 's', args with
    | true, _, script :: rest => .shell (rest.headD name) (rest.drop 1) options script
    | true, _, [] => said "0: -c requires an argument"
    | false, false, file :: rest =>
      match disk.read (pathOf file) with
      | .ok bytes => .shell file rest options (ofByteArray bytes)
      | .error .isDirectory => .shell file rest options []
      | .error _ => said ("0: cannot open " ++ String.ofList file ++ ": No such file")
    | false, _, args => .reader name args options

/-! ### The system -/

/-- The directories in which programs are looked for when nothing else is said. -/
def usualPath : Bytes := "/usr/local/bin:/usr/bin:/bin".toList

/-- The program of the system with a name, called by a title. -/
def systemProgram (disk : Disk) (title : Bytes) (name : String) (args : List Bytes) :
    Option Program :=
  if shellNames.contains name then some (shellProgram disk title args)
  else if name == "awk" || name == "mawk" then some (.caller title .awk args)
  else if name == "xargs" then some (.caller title .xargs args)
  else if name == "find" then some (.caller title .find args)
  else
    match handovers.lookup name with
    | some run => some (.caller title (.handover run) args)
    | none => (utility? name).map fun u => .utility title u args

/-! ### Files -/

/-- The interpreter that a file names in its first line, and the argument for it. -/
def interpreterOf (script : Bytes) : Option (Bytes × Option Bytes) :=
  match script with
  | '#' :: '!' :: r =>
    let isGap (c : Char) : Bool := c == ' ' || c == '\t'
    let line := (r.takeWhile (· != '\n')).dropWhile isGap
    let path := line.takeWhile fun c => !isGap c
    let argument := ((line.drop path.length).dropWhile isGap).reverse.dropWhile isGap |>.reverse
    if path.isEmpty then none
    else some (path, if argument.isEmpty then none else some argument)
  | _ => none

/-- The program at a path, called by a title; interpreters may name interpreters, but not without
end. -/
def programAt (disk : Disk) : Nat → Bytes → Bytes → List Bytes → Except Fault Program
  | 0, _, _, _ => .error (.because "Too many levels of symbolic links (os error 40)")
  | bound + 1, title, path, args => do
    match ← executableAt disk (pathOf path) with
    | .system name =>
      match systemProgram disk title name args with
      | some program => .ok program
      | none => .error .notFound
    | .script bytes =>
      match interpreterOf (ofByteArray bytes) with
      | none => .error .badExecutable
      | some (interpreter, argument) =>
        programAt disk bound interpreter interpreter (argument.toList ++ path :: args)

/-- How many interpreters may stand behind a program. -/
def depthOfInterpreters : Nat := 6

/-- The shell with a file as its script. -/
def asScript (disk : Disk) (path : Bytes) (args : List Bytes) : Program :=
  shellProgram disk "/bin/sh".toList (path :: args)

/-- Finds a program as a call of an operating system does; `byShell` says that the shell takes a
file that names no interpreter. -/
def findProgram (disk : Disk) (searchPath : Bytes) (byShell : Bool) (name : Bytes)
    (args : List Bytes) : Except Fault Program := do
  let path ← pathOfProgram disk searchPath name
  match programAt disk depthOfInterpreters name path args with
  | .error .badExecutable =>
    if byShell then .ok (asScript disk path args) else .error .badExecutable
  | found => found

end MojoToolchain.Shell
