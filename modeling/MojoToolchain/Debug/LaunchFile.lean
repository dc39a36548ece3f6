import MojoToolchain.Debug.Configuration.Fields
import MojoToolchain.Json.Commented
import MojoToolchain.Json.Reader

/-!
# Launch files

A launch file is JSON with comments.  It holds one configuration, or a list of them under
`configurations`, from which one is chosen.
-/

namespace MojoToolchain.Debug.LaunchFile

open Json (Mismatch)

/-- Why a launch file gives no configuration. -/
inductive Failure where
  | notJson (stop : Json.Stop) (text : List Char)
  | notConfiguration (mismatch : Mismatch)
  /-- There is no configuration with this name. -/
  | noneNamed (name : String)
  | noConfigurations
  deriving DecidableEq, Repr

/-- The wording of a failure. -/
def Failure.message : Failure → String
  | notJson _ _ => "launch configuration is not valid JSON"
  | notConfiguration _ => "invalid launch configuration"
  | noneNamed name => "no launch configuration named '" ++ name ++ "'"
  | noConfigurations => "launch.json has no configurations"

/-- What lies under a failure. -/
def Failure.causes : Failure → List String
  | notJson stop text => [stop.message text]
  | notConfiguration mismatch => [mismatch.message]
  | _ => []

/-- The member of a value is a given text. -/
def hasText (key text : String) (v : Json) : Bool :=
  (v.member? key).bind Json.string? == some text

/-- The configurations of a launch file that has a list of them. -/
def configurations? (file : Json) : Option (List Json) :=
  match file.member? "configurations" with
  | some (.array items) => some items
  | _ => none

/-- The configuration with a name; without a name the first one for the SDK's own debugger, or
else the first one. -/
def choose (name : Option String) (configurations : List Json) : Except Failure Json :=
  match name with
  | some name =>
    match configurations.find? (hasText "name" name) with
    | some c => .ok c
    | none => .error (.noneNamed name)
  | none =>
    match configurations.find? (hasText "type" Configuration.ownType) <|> configurations.head? with
    | some c => .ok c
    | none => .error .noConfigurations

/-- The value of a launch file that holds the wanted configuration. -/
def select (name : Option String) (file : Json) : Except Failure Json :=
  match configurations? file with
  | some configurations => choose name configurations
  | none => .ok file

/-- The configuration of a launch file, chosen by name if it holds several. -/
def parse (text : String) (name : Option String) : Except Failure Configuration :=
  let plain := Json.plain text.toList
  match Json.parse plain with
  | .error stop => .error (.notJson stop plain)
  | .ok file => do
    match Configuration.ofJson (← select name file) with
    | .ok c => .ok c
    | .error mismatch => .error (.notConfiguration mismatch)

end MojoToolchain.Debug.LaunchFile
