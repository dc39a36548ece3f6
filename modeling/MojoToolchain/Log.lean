/-!
# Log levels
-/

namespace MojoToolchain

/-- How much is logged. -/
inductive LogLevel where
  | trace
  | debug
  | info
  | warn
  | error
  deriving DecidableEq, Repr

namespace LogLevel

/-- The name of a level. -/
def name : LogLevel → String
  | trace => "trace"
  | debug => "debug"
  | info => "info"
  | warn => "warn"
  | error => "error"

/-- The level that a word names, in letters of either case.  Only the letters of ASCII have the
lower-case forms that the names are made of. -/
def parse? (word : String) : Option LogLevel :=
  match word.toLower with
  | "trace" => some trace
  | "debug" => some debug
  | "info" => some info
  | "warn" => some warn
  | "warning" => some warn
  | "error" => some error
  | _ => none

theorem parse?_name (level : LogLevel) :
  parse? level.name = some level
  := by
  cases level <;> decide +kernel

end LogLevel

end MojoToolchain
