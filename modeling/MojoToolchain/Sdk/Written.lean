import MojoToolchain.Json.Value
import MojoToolchain.Sdk.Basic

/-!
# Written SDKs

An SDK as a JSON value; what it does not have is left out, but for the environment around a
home, which is then `null`.
-/

namespace MojoToolchain.Sdk

/-- A path as a value. -/
def pathJson (p : Path) : Json := .string p.text

/-- The tools as a value. -/
def Tools.json (t : Tools) : Json :=
  .object
    [("languageServer", pathJson t.languageServer),
     ("formatter", pathJson t.formatter),
     ("debugPlugin", pathJson t.debugPlugin),
     ("debugAdapter", pathJson t.debugAdapter),
     ("runtime", pathJson t.runtime),
     ("visualizersDir", pathJson t.visualizersDir),
     ("debugger", pathJson t.debugger)]

/-- A layout as a value. -/
def Flavor.json : Flavor → Json
  | .packaged => .object [("layout", .string "packaged")]
  | .home dir root =>
    .object
      [("layout", .string "home"), ("home", pathJson dir),
       ("prefix", (root.map pathJson).getD .null)]

/-- The members of an SDK as a value. -/
def members (sdk : Sdk) : Json.Members :=
  [("kind", .string sdk.kind.name), ("version", .string sdk.version), ("paths", sdk.tools.json),
   ("flavor", sdk.flavor.json)]
    ++ sdk.unwrappedRuntime.toList.map fun p => ("unwrappedRuntime", pathJson p)

/-- An SDK as a value. -/
def json (sdk : Sdk) : Json := .object sdk.members

end MojoToolchain.Sdk
