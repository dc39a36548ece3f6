import MojoToolchain.Shell.Awk.Run
import MojoToolchain.Shell.Awk.Statements

/-!
# Calls of awk

`awk` reads a program from its arguments or from files and runs it, with variables set beforehand,
on the files that are left among its arguments.
-/

namespace MojoToolchain.Shell

open Awk (Machine RunCommand Slot Table Value)

namespace Awk

/-- What the arguments of a call say. -/
structure Request where
  /-- The variables that are set before the program starts. -/
  assigned : List (Bytes × Bytes)
  /-- The files with the program. -/
  files : List Bytes
  operands : List Bytes

/-- Reads the arguments of a call. -/
def Request.read : Nat → List Bytes → Except String Request
  | 0, args => .ok ⟨[], [], args⟩
  | _ + 1, [] => .ok ⟨[], [], []⟩
  | bound + 1, arg :: rest =>
    -- the value of an option, right behind its letter or in the next argument
    let valued (letter : Char) (value : Bytes) (rest : List Bytes) :
        Except String (Bytes × List Bytes) :=
      match value, rest with
      | [], next :: rest => .ok (next, rest)
      | [], [] => .error ("option requires an argument -- " ++ String.ofList [letter])
      | value, rest => .ok (value, rest)
    match arg with
    | ['-', '-'] => .ok ⟨[], [], rest⟩
    | '-' :: 'F' :: value => do
      let (value, rest) ← valued 'F' value rest
      let request ← read bound rest
      .ok { request with assigned := ("FS".toList, value) :: request.assigned }
    | '-' :: 'v' :: value => do
      let (value, rest) ← valued 'v' value rest
      match Machine.assignmentIn value with
      | none => .error ("improper assignment: -v " ++ String.ofList value)
      | some pair => do
        let request ← read bound rest
        .ok { request with assigned := pair :: request.assigned }
    | '-' :: 'f' :: value => do
      let (value, rest) ← valued 'f' value rest
      let request ← read bound rest
      .ok { request with files := value :: request.files }
    | '-' :: 'W' :: value => do
      let (_, rest) ← valued 'W' value rest
      read bound rest
    | '-' :: _ :: _ => .error ("not an option: " ++ String.ofList arg)
    | arg => .ok ⟨[], [], arg :: rest⟩

/-- The machine at the start, with the arguments of its program. -/
def startMachine (args : List Bytes) (s : State) : Machine :=
  let names := ("awk".toList :: args).zipIdx.map fun (a, i) => (Nat.toDigits 10 i, Value.ofInput a)
  let argv : Table := { Table.empty with
    cells := names
    ints := (names.zipIdx.map fun (_, i) => (i : Int)).reverse }
  let given := s.exported.eraseDups.filterMap fun name =>
    (s.vars.lookup name).map fun value => (name, Value.ofInput value)
  let environment : Table := { Table.empty with
    cells := given
    strings := given.map Prod.fst
    named := true }
  let values : List (String × Slot) :=
    [("FS", .scalar (.text [' '])), ("OFS", .scalar (.text [' '])), ("ORS", .scalar (.text ['\n'])),
     ("RS", .scalar (.text ['\n'])), ("SUBSEP", .scalar (.text ['\x1c'])),
     ("CONVFMT", .scalar (.text "%.6g".toList)), ("OFMT", .scalar (.text "%.6g".toList)),
     ("NR", .scalar (.ofNat 0)), ("FNR", .scalar (.ofNat 0)), ("FILENAME", .scalar (.text [])),
     ("RSTART", .scalar (.ofNat 0)), ("RLENGTH", .scalar (.number (.ofInt (-1)))),
     ("ARGC", .scalar (.ofNat names.length)), ("ARGV", .table argv), ("NF", .scalar .unset),
     ("ENVIRON", .table environment)]
  { s := s.withStatus 0
    out := []
    slots := (values.map Prod.snd).toArray
    globals := values.zipIdx.map fun ((name, _), i) => (name.toList, i)
    frame := []
    held := 0
    calls := 0
    record := []
    fields := []
    input := none
    argument := 1
    anyFile := false
    exhausted := false
    sources := []
    sinks := []
    spans := []
    compiled := []
    seed := (.ofNat 0, 0)
    code := 0
    ended := none
    broken := false }

/-- The text of a program in files. -/
def programIn (files : List Bytes) (s : State) : Except String Bytes :=
  files.foldlM (fun (text : Bytes) file =>
    match (fileText file s).1 with
    | .ok more => .ok (text ++ more)
    | .error fault =>
      .error ("cannot open " ++ Machine.inMarks file ++ " (" ++ reasonOf fault ++ ")")) []

/-- The names of the functions that an expression calls are not looked for before they are called;
a function that is nowhere ends the program at its start. -/
def lacking (p : Program) (ts : Tokens) : Option Bytes :=
  ts.findSome? fun (_, t) =>
    match t with
    | .function name => if p.functions.any (·.name == name) then none else some name
    | _ => none

end Awk

/-- Reads a program and runs it. -/
def awk (run : RunCommand) : Utility := fun args s =>
  let fail (message : String) : State := s.fail 2 ("awk: " ++ message)
  match Awk.Request.read (args.length + 1) args with
  | .error message => fail message
  | .ok request =>
    let source : Except String (Bytes × List Bytes) :=
      match request.files, request.operands with
      | [], [] => .error "no program given"
      | [], program :: args => .ok (program, args)
      | files, args => (Awk.programIn files s).map fun text => (text, args)
    match source with
    | .error message => fail message
    | .ok (text, args) =>
      match Awk.parse text with
      | .error messages =>
        (messages.foldl (fun (s : State) m => s.fail 2 ("awk: " ++ m)) s).withStatus 2
      | .ok program =>
        match (Awk.tokens text).toOption.bind (Awk.lacking program) with
        | some name =>
          fail ("line " ++ toString (2 + text.count '\n') ++ ": function " ++ String.ofList name
            ++ " never defined")
        | none =>
          let m := Awk.startMachine args s
          let m := request.assigned.foldl (fun m (name, value) => m.assignFrom name value) m
          let ran := Awk.runProgram ⟨program, run⟩ m
          ran.s.withStatus (ran.ended.getD 0)

end MojoToolchain.Shell
