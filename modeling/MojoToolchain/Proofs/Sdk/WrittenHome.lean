import MojoToolchain.Proofs.Descriptor.Lines
import MojoToolchain.Proofs.Path.Resolution
import MojoToolchain.Proofs.Sdk.Failures
import MojoToolchain.Sdk.Layout

/-!
# Homes with a written descriptor file

A descriptor file that is written for tools is read back as the tools, whatever characters their
paths have, and a version is read back unless it goes on where its line ends
(`parse_descriptorText`).  So a home with the file of a conventional installation is loaded exactly
when the tools exist.
-/

namespace MojoToolchain.Sdk

open Descriptor (File IsKey IsValue endsOpen propertyLine propertyLines readBack)
open Host (Dialogue Question)

/-! ### Writing and reading -/

/-- The properties that are written for tools. -/
def toolProperties (tools : Tools) (omitted : Option String) : List (String × String) :=
  ((toolKeys.zip tools.toList).filter fun p => omitted != some p.1).map fun p => (p.1, p.2.text)

/-- What is read of a descriptor file that was written. -/
def writtenFile (tools : Tools) (version omitted : Option String) : File :=
  [⟨none, version.toList.map fun v => ("version", readBack v)⟩,
    ⟨some toolSection, toolProperties tools omitted⟩]

theorem isKey_version :
  IsKey "version".toList
  := by
  constructor <;> simp [Descriptor.endsKey, Text.isBlank]

theorem isKey_of_mem_toolKeys {key : String} (h : key ∈ toolKeys) :
  IsKey key.toList
  := by
  simp only [toolKeys, List.mem_cons, List.not_mem_nil, or_false] at h
  rcases h with rfl | rfl | rfl | rfl | rfl | rfl | rfl <;>
    constructor <;> simp [Descriptor.endsKey, Text.isBlank]

theorem toList_descriptorText (tools : Tools) (version omitted : Option String) :
  (descriptorText tools version omitted).toList
    = (version.toList.flatMap fun v => propertyLine "version" v ++ ['\n'])
      ++ ('[' :: toolSection.toList ++ ']' :: '\n'
        :: propertyLines (toolProperties tools omitted))
  := by
  have hlines : (String.join (((toolKeys.zip tools.toList).filter fun p => omitted != some p.1).map
        fun p => p.1 ++ " = " ++ p.2.text ++ "\n")).toList
      = propertyLines (toolProperties tools omitted) := by
    rw [String.toList_join, List.flatMap_map, propertyLines, toolProperties, List.flatMap_map]
    rfl
  unfold descriptorText
  rw [String.toList_append, hlines]
  cases version <;> simp [propertyLine]

theorem mem_of_mem_toolProperties {tools : Tools} {omitted : Option String} {p : String × String}
    (h : p ∈ toolProperties tools omitted) :
  p.1 ∈ toolKeys ∧ ∃ path ∈ tools.toList, p.2 = path.text
  := by
  obtain ⟨⟨key, path⟩, hp, rfl⟩ := List.mem_map.mp h
  obtain ⟨hkey, hpath⟩ := List.of_mem_zip (List.mem_filter.mp hp).1
  exact ⟨hkey, path, hpath, rfl⟩

/-- A written descriptor file is read back. -/
theorem parse_descriptorText {tools : Tools} {version : Option String}
    (htools : ∀ path ∈ tools.toList, IsValue path.chars ∧ endsOpen path.chars = false)
    (hversion : ∀ v ∈ version, IsValue v.toList) (omitted : Option String) :
  File.parse (descriptorText tools version omitted).toList
    = .ok (writtenFile tools version omitted)
  := by
  have hlines : ∀ p ∈ toolProperties tools omitted,
      IsKey p.1.toList ∧ IsValue p.2.toList ∧ endsOpen p.2.toList = false := by
    intro p hp
    obtain ⟨hkey, path, hpath, htext⟩ := mem_of_mem_toolProperties hp
    rw [htext]
    exact ⟨isKey_of_mem_toolKeys hkey, htools path hpath⟩
  have hsection (text : List Char) (general : Descriptor.Section) :
      Descriptor.readFrom text [general] ('[' :: toolSection.toList ++ ']' :: '\n'
          :: propertyLines (toolProperties tools omitted))
        = .ok [general, ⟨some toolSection, toolProperties tools omitted⟩] := by
    have hstart := Descriptor.head_propertyLines fun p hp => (hlines p hp).1
    rw [Descriptor.readFrom_section (by simp [toolSection]) hstart,
      Descriptor.readFrom_lines hlines]
    rfl
  have hparse (text : List Char) :
      Descriptor.readFrom text [⟨none, []⟩] (descriptorText tools version omitted).toList
        = .ok (writtenFile tools version omitted) := by
    rw [toList_descriptorText]
    cases version with
    | none => exact hsection text _
    | some v =>
      -- If the version goes on, it does so in the empty line before the section.
      rw [Option.toList_some, List.flatMap_singleton, List.append_assoc, List.singleton_append,
        Descriptor.readFrom_line_feed isKey_version (hversion v rfl),
        Descriptor.skipBlank_feed (by simp [Text.isBlank])]
      exact hsection text _
  exact hparse _

/-! ### Values of a written file -/

section

variable (tools : Tools) (version omitted : Option String)

theorem value?_version :
  (writtenFile tools version omitted).value? none "version" = version.map readBack
  := by
  cases version <;> rfl

/-- A key that is not omitted has the tool beside it as its value. -/
theorem value?_key (key : String) :
  (writtenFile tools version omitted).value? (some toolSection) key
    = if omitted = some key then none
      else ((toolKeys.zip tools.toList).find? (·.1 == key)).map (·.2.text)
  := by
  have hproperties : (writtenFile tools version omitted).value? (some toolSection) key
      = Descriptor.firstValue? key (toolProperties tools omitted) := by
    rfl
  rw [hproperties, Descriptor.firstValue?, toolProperties, List.find?_map, List.find?_filter,
    Option.map_map]
  split
  case isTrue homitted =>
    rw [Option.map_eq_none_iff, List.find?_eq_none]
    rintro p -
    have hne : key ≠ p.1 → p.1 ≠ key := Ne.symm
    simpa [homitted] using hne
  case isFalse homitted =>
    have hkept : (fun p : String × Path => decide (omitted != some p.1 ∧ p.1 == key))
        = (·.1 == key) := by
      funext p
      by_cases hp : p.1 = key <;> simp [hp, homitted]
    exact congrArg (fun q => ((toolKeys.zip tools.toList).find? q).map (·.2.text)) hkept

theorem map_find?_toolKeys :
  toolKeys.map (fun key => ((toolKeys.zip tools.toList).find? (·.1 == key)).map (·.2.text))
    = tools.toList.map fun p => some p.text
  := rfl

/-- Only an omitted key has no value. -/
theorem isNone_value?_iff {key : String} (hkey : key ∈ toolKeys) :
  ((writtenFile tools version omitted).value? (some toolSection) key).isNone = true
    ↔ omitted = some key
  := by
  rw [value?_key]
  split
  case isTrue homitted => exact iff_of_true rfl homitted
  case isFalse homitted =>
    have hmem := List.mem_map_of_mem (f := fun key =>
      ((toolKeys.zip tools.toList).find? (·.1 == key)).map (·.2.text)) hkey
    rw [map_find?_toolKeys] at hmem
    obtain ⟨path, -, hpath⟩ := List.mem_map.mp hmem
    rw [← hpath]
    exact iff_of_false Bool.false_ne_true homitted

end

/-- A file that omits no key of a tool names the tools. -/
theorem names_writtenFile {omitted : Option String} (h : ∀ key ∈ toolKeys, omitted ≠ some key)
    (tools : Tools) (version : Option String) :
  Names (writtenFile tools version omitted) tools
  := by
  rw [names_iff, ← map_find?_toolKeys]
  apply List.map_congr_left
  intro key hkey
  rw [value?_key, if_neg (h key hkey)]

/-- A key of a tool that is omitted is the first one without a value. -/
theorem find?_writtenFile {key : String} (hkey : key ∈ toolKeys) (tools : Tools)
    (version : Option String) :
  toolKeys.find? (fun k =>
      ((writtenFile tools version (some key)).value? (some toolSection) k).isNone) = some key
  := by
  cases hfind : toolKeys.find? fun k =>
      ((writtenFile tools version (some key)).value? (some toolSection) k).isNone with
  | none =>
    have hvalue := List.find?_eq_none.mp hfind key hkey
    exact absurd ((isNone_value?_iff tools version (some key) hkey).mpr rfl) hvalue
  | some first =>
    have hvalue := List.find?_some hfind
    have hfirst := List.mem_of_find?_eq_some hfind
    exact ((isNone_value?_iff tools version (some key) hfirst).mp hvalue).symm

/-! ### Conventional tools -/

/-- The conventional tools, seen from their root. -/
def toolNames : List Path :=
  ["bin/mojo-lsp-server", "bin/mblack", "lib/libMojoLLDB.so", "bin/mojo-lldb-dap", "bin/mojo",
    "lib/lldb-visualizers", "bin/mojo-lldb"]

theorem toList_conventionalTools (root : Path) :
  (conventionalTools root).toList = toolNames.map (root / ·)
  := rfl

/-- A root whose tools can stand in a descriptor file: it has no line end and does not start with
a blank character. -/
structure IsRoot (root : Path) : Prop where
  unbroken : ∀ c ∈ root.chars, Descriptor.endsLine c = false
  start : ∀ c ∈ root.chars.head?, Text.isBlank c = false

/-- The path of a conventional tool is a value that does not go on, since its name has no
backslash. -/
theorem IsRoot.isValue {root path : Path} (h : IsRoot root)
    (hpath : path ∈ (conventionalTools root).toList) :
  IsValue path.chars ∧ endsOpen path.chars = false
  := by
  rw [toList_conventionalTools] at hpath
  obtain ⟨name, hname, rfl⟩ := List.mem_map.mp hpath
  have hnames : ∀ name ∈ toolNames, name.isAbsolute = false ∧ name.chars ≠ []
      ∧ ∀ c ∈ name.chars, Text.isBlank c = false ∧ c ≠ '\\' := by
    simp [toolNames, Path.isAbsolute, Path.chars, Text.isBlank]
  obtain ⟨hrelative, hne, hplain⟩ := hnames name hname
  obtain ⟨gap, hgap, hchars⟩ : ∃ gap, (∀ c ∈ gap, c = '/')
      ∧ (root / name).chars = root.chars ++ gap ++ name.chars :=
    ⟨_, by split <;> simp, Path.chars_join root (Bool.eq_false_iff.mp hrelative)⟩
  have hunbroken : ∀ c ∈ root.chars ++ gap, Descriptor.endsLine c = false :=
    List.forall_mem_append.mpr ⟨h.unbroken, fun c hc => hgap c hc ▸ rfl⟩
  have hstart : ∀ c ∈ (root.chars ++ gap).head?, Text.isBlank c = false := by
    intro c hc
    cases hroot : root.chars with
    | nil =>
      rw [hroot, List.nil_append] at hc
      exact hgap c (List.mem_of_mem_head? hc) ▸ rfl
    | cons d rest =>
      rw [hroot] at hc
      exact h.start c (by rw [hroot]; exact hc)
  rw [hchars]
  exact Descriptor.isValue_append hunbroken hstart hne hplain

/-! ### Loading -/

section

variable (host : (q : Question) → q.Answer) {root : Path} {version omitted : Option String}

theorem describes_writtenFile {file : Path} (hroot : IsRoot root)
    (hversion : ∀ v ∈ version, IsValue v.toList)
    (hread : host (.read file)
      = .ok (descriptorText (conventionalTools root) version omitted).toUTF8) :
  Describes host file (writtenFile (conventionalTools root) version omitted)
  := by
  have hparse := parse_descriptorText (fun path hpath => hroot.isValue hpath) hversion omitted
  exact ⟨_, _, hread, Text.decode_toUTF8 _, hparse⟩

/-- A home with the descriptor file of a conventional installation is loaded exactly when the
tools exist, and without one of their keys it is not.  The version is that of the file, unless it
goes on where its line ends. -/
theorem load_written_home (kind : Kind) (home : Path) (base : Option Path) (hroot : IsRoot root)
    (hversion : ∀ v ∈ version, IsValue v.toList)
    (hread : host (.read (home / ("modular.cfg" : Path)))
      = .ok (descriptorText (conventionalTools root) version omitted).toUTF8) :
  ((∀ key ∈ toolKeys, omitted ≠ some key) →
      (loadHome kind home base).answered host
        = if ∀ path ∈ (conventionalTools root).toList, Present host path then
            .ok
              { kind := kind
                version := (version.map readBack).getD "0.0.0"
                tools := conventionalTools root
                flavor := .home home base
                unwrappedRuntime := none }
          else
            .error (.installationIncomplete home
              ((conventionalTools root).toList.filter fun path => ¬ Present host path)))
    ∧ (∀ key ∈ toolKeys, omitted = some key →
      (loadHome kind home base).answered host
        = .error (.installationCorrupted home
          (.missingKey (home / ("modular.cfg" : Path)) key)))
    ∧ ∀ v ∈ version, readBack v = v ↔ endsOpen v.toList = false
  := by
  have hdescribes := describes_writtenFile host hroot hversion hread
  refine ⟨fun homitted => ?_, ?_, fun v _ => Descriptor.readBack_eq_self_iff⟩
  case refine_1 =>
    have hnames := names_writtenFile homitted (conventionalTools root) version
    split
    case isTrue hpresent =>
      have hexist := (Tools.exist_iff host (conventionalTools root)).mpr hpresent
      refine (answered_loadHome_eq_ok ..).mpr ⟨_, _, ⟨hdescribes, hnames, hexist⟩, ?_⟩
      rw [value?_version]
    case isFalse hmissing =>
      rw [answered_loadHome_of_missing host hdescribes hnames hmissing, answered_missingOf]
      simp [← answered_exists?]
  case refine_2 =>
    rintro key hkey rfl
    have hkeys := find?_writtenFile hkey (conventionalTools root) version
    have hfault : (DescriptorFault.missingKey (home / (descriptorName : Path)) key).IsOf host
        (home / (descriptorName : Path)) := ⟨rfl, _, hdescribes, hkeys⟩
    exact answered_loadHome_of_isOf host hfault kind base

end

/-- A host on which there are a descriptor file for conventional tools and all else but some
paths. -/
def writtenHost (root : Path) (version omitted : Option String) (gone : List Path) :
    (q : Question) → q.Answer
  | .read _ => .ok (descriptorText (conventionalTools root) version omitted).toUTF8
  | .kindOf path => if path ∈ gone then .error .notFound else .ok .file
  | q => Layout.reply root ⟨[], []⟩ q

/-- A root with characters that a descriptor file has a use for. -/
def markedRoot : Path := "/a = \\n\"#b"

/-- Such a root and such a version are read back, and without a version there is the default one; a
tool that does not exist and a key that is omitted are named. -/
theorem load_written_home_marked :
  (loadHome .custom "/h" none).answered
      (writtenHost markedRoot (some "; 1:2\\\\") (some "other") [])
    = .ok
      { kind := .custom
        version := "; 1:2\\\\"
        tools := conventionalTools markedRoot
        flavor := .home "/h" none
        unwrappedRuntime := none }
  ∧ (loadHome .custom "/h" none).answered (writtenHost markedRoot none none [])
    = .ok
      { kind := .custom
        version := "0.0.0"
        tools := conventionalTools markedRoot
        flavor := .home "/h" none
        unwrappedRuntime := none }
  ∧ (loadHome .custom "/h" none).answered
      (writtenHost markedRoot (some "; 1:2\\\\") (some "other") [markedRoot / ("bin/mojo" : Path)])
    = .error (.installationIncomplete "/h" [markedRoot / ("bin/mojo" : Path)])
  ∧ (loadHome .custom "/h" none).answered
      (writtenHost markedRoot (some "; 1:2\\\\") (some "lldb_path") [])
    = .error (.installationCorrupted "/h" (.missingKey "/h/modular.cfg" "lldb_path"))
  := by
  have hroot : IsRoot markedRoot := by
    constructor <;> simp [markedRoot, Path.chars, Descriptor.endsLine, Text.isBlank]
  have hversion : ∀ v ∈ some "; 1:2\\\\", IsValue v.toList := by
    rintro _ ⟨⟩
    constructor <;> simp [Descriptor.endsLine, Text.isBlank]
  have hread : readBack "; 1:2\\\\" = "; 1:2\\\\" := by decide
  have hload (omitted : Option String) (gone : List Path) :=
    load_written_home (writtenHost markedRoot (some "; 1:2\\\\") omitted gone) .custom "/h" none
      hroot hversion rfl
  have hunversioned := load_written_home (writtenHost markedRoot none none []) .custom "/h" none
    hroot (by rintro _ ⟨⟩) rfl
  refine ⟨?_, ?_, ?_, (hload _ _).2.1 "lldb_path" (by decide) rfl⟩
  · rw [(hload _ _).1 (by decide), if_pos (by decide), Option.map_some, hread, Option.getD_some]
  · rw [hunversioned.1 (by decide), if_pos (by decide)]
    rfl
  · rw [(hload _ _).1 (by decide), if_neg (by decide)]
    rfl

/-- A host on which the version in the descriptor file ends in a backslash, and all tools exist. -/
def openHost : (q : Question) → q.Answer := writtenHost "/r" (some "1\\") none []

/-- The SDK is loaded with a version that is not the one in the file. -/
theorem version_shortened :
  IsRoot "/r" ∧ IsValue "1\\".toList
    ∧ (∀ path ∈ (conventionalTools "/r").toList, Present openHost path)
    ∧ ((loadHome .environment "/h" none).answered openHost).map Sdk.version = .ok "1"
  := by
  have hroot : IsRoot "/r" := by
    constructor <;> simp [Path.chars, Descriptor.endsLine, Text.isBlank]
  have hvalue : IsValue "1\\".toList := by
    constructor <;> simp [Descriptor.endsLine, Text.isBlank]
  have hversion : ∀ v ∈ some "1\\", IsValue v.toList := by
    rintro _ ⟨⟩
    exact hvalue
  have hpresent : ∀ path ∈ (conventionalTools "/r").toList, Present openHost path := by
    decide
  have hread : readBack "1\\" = "1" := by decide
  have hexist := (Tools.exist_iff openHost (conventionalTools "/r")).mpr hpresent
  have hload := (answered_loadHome_eq_ok openHost .environment "/h" none _).mpr
    ⟨_, _, ⟨describes_writtenFile openHost hroot hversion rfl,
      names_writtenFile (by decide) _ _, hexist⟩, rfl⟩
  refine ⟨hroot, hvalue, hpresent, ?_⟩
  rw [hload, Except.map, value?_version, Option.map_some, hread, Option.getD_some]

end MojoToolchain.Sdk
