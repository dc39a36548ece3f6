import MojoToolchain.Text.Quoted

/-!
# Why a debug session cannot start
-/

namespace MojoToolchain.Debug

/-- Why a configuration is of no use to a debugger. -/
inductive DebugError where
  /-- The SDK cannot run a source file directly. -/
  | fileLaunchUnsupported (file : String)
  /-- The file is no source file. -/
  | unsupportedExtension (file : String)
  /-- The argument cannot be part of a command line. -/
  | unquotableArgument (argument : String)
  /-- The editor extension for a backend is not installed. -/
  | companionMissing (extension backend : String)
  deriving DecidableEq, Repr

/-- The wording of an error. -/
def DebugError.message : DebugError → String
  | fileLaunchUnsupported file =>
    "Debugging `" ++ file ++ "` directly is not supported by this Mojo installation. Packaged "
      ++ "installs can only debug prebuilt executables; build the program with `mojo build` and "
      ++ "debug the binary instead."
  | unsupportedExtension file =>
    "`" ++ file ++ "` is not a Mojo file. Only `.mojo` and `.🔥` files can be debugged."
  | unquotableArgument argument =>
    "The argument " ++ Text.quote argument
      ++ " cannot be passed to the debugger: cannot shell-quote string containing nul byte"
  | companionMissing extension backend =>
    "The `" ++ extension ++ "` extension is required to debug with `" ++ backend
      ++ "`. Please install it."

end MojoToolchain.Debug
