import MojoToolchain.Sdk.Error

/-!
# Home installations

A home installation has a descriptor file that names its tools.  `Sdk.loadHome` reads the file
and verifies what it names.  `Sdk.descriptorText` writes such a file.
-/

namespace MojoToolchain

open Host (Dialogue Question)

/-- The descriptor file at a path. -/
def Descriptor.load (file : Path) : Dialogue (Except DescriptorFault Descriptor.File) := do
  match ← Dialogue.question (.read file) with
  | .error fault => return .error (.unreadable file fault)
  | .ok bytes =>
    match Text.decode bytes with
    | .error fault => return .error (.undecodable file fault)
    | .ok text =>
      match Descriptor.File.parse text.toList with
      | .error fault => return .error (.unparsable file fault)
      | .ok sections => return .ok sections

namespace Sdk

/-- The keys of the tools in a descriptor file, in the order in which they are looked up. -/
def toolKeys : List String :=
  ["lsp_server_path", "mblack_path", "lldb_plugin_path", "lldb_vscode_path", "driver_path",
    "lldb_visualizers_path", "lldb_path"]

/-- The path of one tool in a descriptor. -/
def toolPath (file : Path) (descriptor : Descriptor.File) (key : String) :
    Except DescriptorFault Path :=
  match descriptor.value? (some toolSection) key with
  | some value => .ok ⟨value⟩
  | none => .error (.missingKey file key)

/-- The tools that a descriptor names. -/
def toolsOf (file : Path) (descriptor : Descriptor.File) : Except DescriptorFault Tools := do
  let path := toolPath file descriptor
  return {
    languageServer := ← path "lsp_server_path"
    formatter := ← path "mblack_path"
    debugPlugin := ← path "lldb_plugin_path"
    debugAdapter := ← path "lldb_vscode_path"
    runtime := ← path "driver_path"
    visualizersDir := ← path "lldb_visualizers_path"
    debugger := ← path "lldb_path" }

/-- The SDK that a descriptor describes. -/
def ofDescriptor (kind : Kind) (home : Path) (root : Option Path) (descriptor : Descriptor.File)
    (tools : Tools) : Sdk where
  kind := kind
  version := (descriptor.value? none "version").getD defaultVersion
  tools := tools
  flavor := .home home root
  unwrappedRuntime := none

/-- The SDK of the descriptor file in `home`. -/
def loadHome (kind : Kind) (home : Path) (root : Option Path) :
    Dialogue (Except SdkError Sdk) := do
  let file := home / (descriptorName : Path)
  match ← Descriptor.load file with
  | .error reason => return .error (.installationCorrupted home reason)
  | .ok descriptor =>
    match toolsOf file descriptor with
    | .error reason => return .error (.installationCorrupted home reason)
    | .ok tools => (ofDescriptor kind home root descriptor tools).verify

/-! ### Writing a descriptor file -/

/-- The tools of a conventional installation under a root. -/
def conventionalTools (root : Path) : Tools where
  languageServer := root / ("bin/mojo-lsp-server" : Path)
  formatter := root / ("bin/mblack" : Path)
  debugPlugin := root / ("lib/libMojoLLDB.so" : Path)
  debugAdapter := root / ("bin/mojo-lldb-dap" : Path)
  runtime := root / ("bin/mojo" : Path)
  visualizersDir := root / ("lib/lldb-visualizers" : Path)
  debugger := root / ("bin/mojo-lldb" : Path)

/-- A descriptor file for tools, with a version and without an omitted key, if there are such. -/
def descriptorText (tools : Tools) (version omitted : Option String) : String :=
  let general :=
    match version with
    | some v => "version = " ++ v ++ "\n\n"
    | none => ""
  let kept := (toolKeys.zip tools.toList).filter fun (key, _) => omitted != some key
  general ++ "[" ++ toolSection ++ "]\n"
    ++ String.join (kept.map fun (key, path) => key ++ " = " ++ path.text ++ "\n")

end Sdk

end MojoToolchain
