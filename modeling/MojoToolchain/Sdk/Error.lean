import MojoToolchain.Descriptor.File
import MojoToolchain.Sdk.Basic
import MojoToolchain.Text.Utf8

/-!
# Failures to find an SDK

`SdkError.message` says everything about a failure, `SdkError.userMessage` is what the user is
shown, if it is shown at all.
-/

namespace MojoToolchain

/-- The name of the descriptor file in the home of an installation. -/
def descriptorName : String := "modular.cfg"

/-- The section of a descriptor file that holds the paths of the tools. -/
def toolSection : String := "mojo-max"

/-- Why a descriptor file is of no use. -/
inductive DescriptorFault where
  | unreadable (file : Path) (fault : Host.Fault)
  | undecodable (file : Path) (fault : Text.Utf8Fault)
  | unparsable (file : Path) (fault : Descriptor.SyntaxFault)
  | missingKey (file : Path) (key : String)
  deriving DecidableEq, Repr

/-- The wording of a fault. -/
def DescriptorFault.message : DescriptorFault → String
  | unreadable file fault => "cannot read " ++ file.text ++ ": " ++ fault.message
  | undecodable file fault => "cannot decode " ++ file.text ++ ": " ++ fault.message
  | unparsable file fault => "cannot parse " ++ file.text ++ ": " ++ fault.message
  | missingKey file key =>
    "missing key `" ++ key ++ "` in section [" ++ toolSection ++ "] of " ++ file.text

/-- A fault in one phrase. -/
def DescriptorFault.summary : DescriptorFault → String
  | unreadable _ _ => "cannot read " ++ descriptorName
  | undecodable _ _ => "cannot decode " ++ descriptorName
  | unparsable _ _ => "cannot parse " ++ descriptorName
  | missingKey _ key => "missing key `" ++ key ++ "` in " ++ descriptorName

/-- Why there is no SDK. -/
inductive SdkError where
  | environmentUnavailable
  | installationCorrupted (home : Path) (reason : DescriptorFault)
  | installationIncomplete (root : Path) (missing : List Path)
  deriving DecidableEq, Repr

namespace SdkError

/-- The wording of a failure. -/
def message : SdkError → String
  | environmentUnavailable => "no Python environment is available to locate the Mojo SDK"
  | installationCorrupted home reason =>
    "the Mojo installation at " ++ home.text ++ " is corrupted: " ++ reason.message
  | installationIncomplete root missing =>
    "the Mojo installation at " ++ root.text ++ " is incomplete, missing: "
      ++ String.intercalate ", " (missing.map Path.text)

/-- The user is told: an incomplete installation is only logged. -/
def isVisible : SdkError → Bool
  | installationIncomplete _ _ => false
  | _ => true

/-- What the user is told. -/
def userMessage : SdkError → String
  | environmentUnavailable =>
    "No Python environment could be found. Select an environment with Mojo installed."
  | installationCorrupted home reason =>
    "The Mojo installation at " ++ home.text ++ " is corrupted: " ++ reason.summary
      ++ ". Please reinstall it."
  | installationIncomplete root _ => "The Mojo installation at " ++ root.text ++ " is incomplete."

end SdkError

namespace Sdk

open Host (Dialogue)

/-- The SDK itself when all its paths exist. -/
def verify (sdk : Sdk) : Dialogue (Except SdkError Sdk) := do
  match ← sdk.missing with
  | [] => return .ok sdk
  | missing => return .error (.installationIncomplete sdk.location missing)

end Sdk

end MojoToolchain
