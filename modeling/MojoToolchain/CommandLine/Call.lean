import MojoToolchain.CommandLine.Options
import MojoToolchain.Path.Basic

/-!
# Calls of the program

A `Call` is what a command line asks for: a command, and what is said about where and how it
runs.  Options about the latter may stand before the command or behind it; behind it they count
more.
-/

namespace MojoToolchain.CommandLine

/-- A debugger that a configuration can be made for. -/
inductive Backend where
  /-- The debugger of the SDK. -/
  | lldb
  /-- The companion debugger. -/
  | gdb
  deriving DecidableEq, Repr

/-- The debugger of a name. -/
def Backend.parse? : String → Option Backend
  | "lldb" => some lldb
  | "gdb" => some gdb
  | _ => none

/-- What the program can do. -/
inductive Command where
  /-- Shows the SDK. -/
  | resolve
  /-- Shows the variables that the tools of the SDK get. -/
  | env
  /-- Shows a complete debug configuration: the one in a launch file, chosen by its name if there
  are several, with a file in place of the placeholder for it. -/
  | debugConfig (backend : Backend) (launchFile : Option Path) (name file : Option String)
  /-- Shows how the language server is started, and the root of the project of a file. -/
  | lspCommand (file : Option Path)
  /-- Formats a file, or checks whether that would change it. -/
  | format (file : Path) (lineLength : Option UInt32) (check : Bool)
  /-- Shows the settings. -/
  | settings
  deriving DecidableEq, Repr

/-- A command, and where and how it runs. -/
structure Call where
  verbose : Bool
  /-- The environment that counts as the active one. -/
  environment : Option Path
  /-- The directory that is the workspace. -/
  cwd : Option Path
  logFile : Option Path
  command : Command
  deriving DecidableEq, Repr

/-- What a command line asks for. -/
inductive Request where
  | call (call : Call)
  | version
  | help
  | misuse
  deriving DecidableEq, Repr

/-! ### Values -/

/-- A path is not empty. -/
def isPathText (text : String) : Bool := !text.isEmpty

/-- The value of digits, if that is what the characters are. -/
def digitsValue? (digits : List Char) : Option Nat :=
  if digits.isEmpty || !digits.all Char.isDigit then none
  else some (digits.foldl (fun n c => 10 * n + (c.toNat - '0'.toNat)) 0)

/-- A number of 32 bits: digits, which may have a sign. -/
def parseWord32? (text : String) : Option UInt32 :=
  let magnitude? : Option Nat :=
    match text.toList with
    | '+' :: digits => digitsValue? digits
    | '-' :: digits => (digitsValue? digits).filter (· == 0)
    | digits => digitsValue? digits
  (magnitude?.filter (· < UInt32.size)).map UInt32.ofNat

/-! ### Grammars -/

/-- An option whose value is a path. -/
def pathOption (long : String) : OptionSpec := ⟨long, none, .value isPathText⟩

/-- An option whose value is any text. -/
def textOption (long : String) : OptionSpec := ⟨long, none, .value fun _ => true⟩

/-- The option that asks for help. -/
def helpOption : OptionSpec := ⟨"help", some 'h', .help⟩

/-- The options that every command has. -/
def commonOptions : List OptionSpec :=
  [⟨"verbose", some 'v', .flag⟩, pathOption "env-prefix", pathOption "cwd", pathOption "log-file",
   helpOption]

/-- The options and operands of each command. -/
def commandGrammars : List (String × Grammar) :=
  [("resolve", ⟨commonOptions, [], []⟩),
   ("env", ⟨commonOptions, [], []⟩),
   ("debug-config",
    ⟨⟨"backend", none, .value fun text => (Backend.parse? text).isSome⟩ :: pathOption "config"
        :: textOption "name" :: textOption "file" :: commonOptions, [], []⟩),
   ("lsp-command", ⟨pathOption "file" :: commonOptions, [], []⟩),
   ("format",
    ⟨⟨"line-length", some 'l', .value fun text => (parseWord32? text).isSome⟩
        :: ⟨"check", none, .flag⟩ :: commonOptions, [isPathText], []⟩),
   ("settings", ⟨commonOptions, [], []⟩)]

/-- The command that asks for help. -/
def helpCommand : String := "help"

/-- What stands before the options and operands of a command. -/
def mainGrammar : Grammar :=
  ⟨⟨"version", some 'V', .version⟩ :: commonOptions, [],
    helpCommand :: commandGrammars.map Prod.fst⟩

/-! ### Reading a call -/

/-- A path among the options. -/
def Given.path? (g : Given) (option : String) : Option Path := (g.value? option).map Path.mk

/-- The command of a name with its options and operands. -/
def Command.ofGiven? (name : String) (g : Given) : Option Command :=
  match name with
  | "resolve" => some .resolve
  | "env" => some .env
  | "debug-config" =>
    some (.debugConfig (((g.value? "backend").bind Backend.parse?).getD .lldb) (g.path? "config")
      (g.value? "name") (g.value? "file"))
  | "lsp-command" => some (.lspCommand (g.path? "file"))
  | "format" =>
    g.operands.head?.map fun file =>
      .format ⟨file⟩ ((g.value? "line-length").bind parseWord32?) (g.has "check")
  | "settings" => some .settings
  | _ => none

/-- The call of a command with all options of the line. -/
def Call.ofGiven (g : Given) (command : Command) : Call where
  verbose := g.has "verbose"
  environment := g.path? "env-prefix"
  cwd := g.path? "cwd"
  logFile := g.path? "log-file"
  command := command

/-- What the rest of a line behind a command asks for. -/
def Request.ofCommand (before : Given) (name : String) (rest : List String) : Request :=
  match commandGrammars.lookup name with
  | none => .misuse
  | some grammar =>
    match grammar.read rest with
    | .complete given =>
      match Command.ofGiven? name given with
      | some command => .call (.ofGiven (before.merge given) command)
      | none => .misuse
    | .help => .help
    | _ => .misuse

/-- A line that asks for help on commands names known ones only. -/
def Request.ofHelp (names : List String) : Request :=
  match names with
  | [] => .help
  | [name] => if mainGrammar.commands.contains name then .help else .misuse
  | _ => .misuse

/-- What a command line asks for. -/
def Request.ofArguments (args : List String) : Request :=
  match mainGrammar.read args with
  | .command before name rest =>
    if name == helpCommand then .ofHelp rest else .ofCommand before name rest
  | .version => .version
  | .help => .help
  | _ => .misuse

theorem ofArguments_nil :
  Request.ofArguments [] = .misuse
  := by
  decide

end MojoToolchain.CommandLine
