import MojoToolchain.Shell.Utility.Calculation
import MojoToolchain.Shell.Utility.Calendar
import MojoToolchain.Shell.Utility.Characters
import MojoToolchain.Shell.Utility.Checksum
import MojoToolchain.Shell.Utility.Columns
import MojoToolchain.Shell.Utility.Control
import MojoToolchain.Shell.Utility.Count
import MojoToolchain.Shell.Utility.Dump
import MojoToolchain.Shell.Utility.Editing
import MojoToolchain.Shell.Utility.Extract
import MojoToolchain.Shell.Utility.Likeness
import MojoToolchain.Shell.Utility.Order
import MojoToolchain.Shell.Utility.Search
import MojoToolchain.Shell.Utility.Surroundings
import MojoToolchain.Shell.Utility.Waiting

/-!
# The utilities of a system

`builtin?` finds what a shell does itself, and `utility?` what is a program of its own.
-/

namespace MojoToolchain.Shell

/-- The utility of a name that a shell has itself. -/
def builtin? (name : String) : Option Utility :=
  builtins.lookup name <|> sharedBuiltins.lookup name

/-- The programs that are neither filters nor editors, nor deal with files. -/
def otherPrograms : Utilities :=
  [("echo", plainEcho), ("printf", plainPrintf), ("kill", plainKill),
   ("true", succeed), ("false", failed), ("sync", succeed), ("yes", yes), ("seq", seq),
   ("expr", expr), ("sed", sed), ("date", date), ("sleep", sleep)]

/-- The utility of a name that is a program. -/
def utility? (name : String) : Option Utility :=
  (otherPrograms ++ testUtilities ++ filters ++ countUtilities ++ extractUtilities
    ++ columnUtilities ++ orderUtilities ++ likenessUtilities ++ characterUtilities
    ++ searchUtilities ++ fileUtilities ++ systemUtilities ++ checksumUtilities
    ++ dumpUtilities).lookup name

end MojoToolchain.Shell
