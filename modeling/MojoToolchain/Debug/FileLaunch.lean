import MojoToolchain.Debug.Configuration.Basic
import MojoToolchain.Debug.Error
import MojoToolchain.Sdk.Basic

/-!
# Running a source file under a debugger

A configuration that names a source file runs it with the runtime of the SDK.  The SDK has to
support that, and the file has to be a source file; the first of these is checked first.
-/

namespace MojoToolchain.Debug

/-- A file can be run under a debugger with an SDK. -/
def checkFileLaunch (sdk : Sdk) (file : String) : Except DebugError Unit :=
  if !sdk.supportsFileLaunch then .error (.fileLaunchUnsupported file)
  else if !isSource file then .error (.unsupportedExtension file)
  else .ok ()

/-- A file can be run exactly when the SDK supports it and it is a source file. -/
theorem checkFileLaunch_eq_ok_iff {sdk : Sdk} {file : String} :
  checkFileLaunch sdk file = .ok () ↔ sdk.supportsFileLaunch ∧ isSource file
  := by
  cases h₁ : sdk.supportsFileLaunch <;> cases h₂ : isSource file <;> simp [checkFileLaunch, h₁, h₂]

end MojoToolchain.Debug
