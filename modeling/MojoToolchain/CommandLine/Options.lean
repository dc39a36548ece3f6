/-!
# Options

A `Grammar` says which options, operands and commands may stand on a command line, and
`Grammar.read` reads a line by it.  An option has a long name after two hyphens and may have a
short one after a single hyphen.  Short names can be joined; a value follows in the next argument,
after an equals sign, or right behind a short name.  After an argument of two hyphens there are
only operands.
-/

namespace MojoToolchain.CommandLine

/-- What an option does. -/
inductive OptionKind where
  /-- It stands for itself. -/
  | flag
  /-- It takes a value that passes a test. -/
  | value (accepts : String → Bool)
  /-- It asks for the version instead of anything else. -/
  | version
  /-- It asks for help instead of anything else. -/
  | help

/-- An option. -/
structure OptionSpec where
  long : String
  short : Option Char
  kind : OptionKind

/-- What may stand on a command line. -/
structure Grammar where
  options : List OptionSpec
  /-- The tests of the operands; every operand has to be there. -/
  operands : List (String → Bool)
  /-- The commands; one of them has to be there if there are any, and the rest of the line is read
  by its own grammar. -/
  commands : List String

/-- What has been read from a command line. -/
structure Given where
  /-- The options by their long names, with their values. -/
  options : List (String × String)
  operands : List String
  deriving DecidableEq, Repr

/-- How the reading of a command line ends. -/
inductive Reading where
  | complete (given : Given)
  /-- A command, and the rest of the line. -/
  | command (given : Given) (name : String) (rest : List String)
  | version
  | help
  /-- The line does not follow the grammar. -/
  | misuse
  deriving DecidableEq, Repr

namespace Given

/-- Nothing has been read. -/
def nothing : Given := ⟨[], []⟩

/-- The value of an option. -/
def value? (g : Given) (option : String) : Option String := g.options.lookup option

/-- An option is there. -/
def has (g : Given) (option : String) : Bool := (g.value? option).isSome

/-- One more option, unless it is there already or its value does not pass. -/
def addOption (g : Given) (spec : OptionSpec) (value : String) : Option Given :=
  let passes :=
    match spec.kind with
    | .value accepts => accepts value
    | _ => true
  if g.has spec.long || !passes then none
  else some { g with options := (spec.long, value) :: g.options }

/-- The options of two lines; those of the second one count where both have one. -/
def merge (g later : Given) : Given :=
  { later with options := later.options ++ g.options }

end Given

/-! ### One argument -/

/-- What an argument comes to. -/
inductive Step where
  | proceed (given : Given)
  /-- The value of an option follows in the next argument. -/
  | await (given : Given) (spec : OptionSpec)
  | stop (reading : Reading)

/-- The step after an option has been added, if it could be. -/
def Step.ofAdded : Option Given → Step
  | some given => .proceed given
  | none => .stop .misuse

namespace Grammar

/-- The text after an equals sign, if there is one. -/
def attached? (afterName : List Char) : Option String :=
  match afterName with
  | '=' :: value => some (String.ofList value)
  | _ => none

/-- Reads the text after two hyphens. -/
def readLong (g : Grammar) (given : Given) (text : List Char) : Step :=
  let name := text.takeWhile (· != '=')
  let value := attached? (text.drop name.length)
  match g.options.find? fun spec => spec.long.toList == name with
  | none => .stop .misuse
  | some spec =>
    match spec.kind, value with
    | .value _, some value => .ofAdded (given.addOption spec value)
    | .value _, none => .await given spec
    | .flag, none => .ofAdded (given.addOption spec "")
    | .version, none => .stop .version
    | .help, none => .stop .help
    | _, some _ => .stop .misuse

/-- The value right behind a short name, without an equals sign between the two. -/
def behind (rest : List Char) : String := (attached? rest).getD (String.ofList rest)

/-- Reads the text after a single hyphen, one short name after the other. -/
def readShort (g : Grammar) (given : Given) : List Char → Step
  | [] => .proceed given
  | c :: rest =>
    match g.options.find? fun spec => spec.short == some c with
    | none => .stop .misuse
    | some spec =>
      match spec.kind with
      | .value _ =>
        if rest.isEmpty then .await given spec
        else .ofAdded (given.addOption spec (behind rest))
      | .flag =>
        match given.addOption spec "" with
        | some given => g.readShort given rest
        | none => .stop .misuse
      | .version => .stop .version
      | .help => .stop .help

/-- One more operand, if there is room for it and it passes. -/
def addOperand (g : Grammar) (given : Given) (text : String) : Step :=
  match g.operands[given.operands.length]? with
  | some accepts =>
    if accepts text then .proceed { given with operands := given.operands ++ [text] }
    else .stop .misuse
  | none => .stop .misuse

/-- An argument that may be the value of the option before it: it does not look like an option. -/
def mayBeValue (arg : String) : Bool := arg == "-" || arg.toList.head? != some '-'

/-- Reads one argument that is no command. -/
def readArgument (g : Grammar) (given : Given) (arg : String) : Step :=
  match arg.toList with
  | '-' :: '-' :: text => g.readLong given text
  | '-' :: c :: text => g.readShort given (c :: text)
  | _ => g.addOperand given arg

/-! ### A line -/

/-- The end of a line: nothing may be missing. -/
def finish (g : Grammar) (given : Given) : Reading :=
  if g.commands.isEmpty && given.operands.length == g.operands.length then .complete given
  else .misuse

/-- Reads arguments that are all operands. -/
def readOperands (g : Grammar) (given : Given) : List String → Reading
  | [] => g.finish given
  | arg :: rest =>
    match g.addOperand given arg with
    | .proceed given => g.readOperands given rest
    | _ => .misuse

/-- Reads arguments after those that have been read; `pending` is the option whose value comes
next. -/
def readFrom (g : Grammar) (given : Given) (pending : Option OptionSpec) :
    List String → Reading
  | [] => if pending.isSome then .misuse else g.finish given
  | arg :: rest =>
    match pending with
    | some spec =>
      match if mayBeValue arg then given.addOption spec arg else none with
      | some given => g.readFrom given none rest
      | none => .misuse
    | none =>
      if g.commands.contains arg then .command given arg rest
      else if arg == "--" then g.readOperands given rest
      else
        match g.readArgument given arg with
        | .proceed given => g.readFrom given none rest
        | .await given spec => g.readFrom given (some spec) rest
        | .stop reading => reading

/-- Reads a command line. -/
def read (g : Grammar) (args : List String) : Reading := g.readFrom .nothing none args

theorem read_nil (g : Grammar) :
  g.read [] = g.finish .nothing
  := rfl

end Grammar

end MojoToolchain.CommandLine
