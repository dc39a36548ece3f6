import MojoToolchain.Shell.Pattern
import MojoToolchain.Shell.State

/-!
# Expansion

What a word is expanded to is marked text: each character with a mark that says whether it is
quoted.  `Fields` splits it into words at separators that are not quoted, and `pathsOf` replaces
a word by the paths of the files that it describes.
-/

namespace MojoToolchain.Shell

/-- Characters, each with a mark that says whether it is quoted. -/
abbrev Marked := List (Char × Bool)

namespace Marked

/-- Text with the same mark on every character. -/
def ofBytes (quoted : Bool) (text : Bytes) : Marked := text.map fun c => (c, quoted)

/-- The text without its marks. -/
def bytes (m : Marked) : Bytes := m.map Prod.fst

/-- The text with every character quoted. -/
def quote (m : Marked) : Marked := m.map fun (c, _) => (c, true)

/-- The pattern that marked text is. -/
def pattern (m : Marked) : Pattern := .ofMarked (m.length + 1) m

/-- A character that makes a pattern of a text is not quoted. -/
def isPattern (m : Marked) : Bool :=
  m.any fun (c, quoted) => !quoted && ['*', '?', '['].contains c

@[simp]
theorem bytes_ofBytes (quoted : Bool) (text : Bytes) :
  (ofBytes quoted text).bytes = text
  := by
  simp [ofBytes, bytes, Function.comp_def]

end Marked

/-! ### Fields -/

/-- The words that a word expands to, the last one first, and the one that is being made, its
last character first; `spaced` says that white space has just ended a word. -/
structure Fields where
  done : List Marked
  current : Option Marked
  spaced : Bool

namespace Fields

/-- Nothing has been expanded. -/
def empty : Fields := ⟨[], none, false⟩

/-- Adds text to the current word. -/
def add (f : Fields) (text : Marked) : Fields :=
  { f with current := some (text.reverse ++ f.current.getD []), spaced := false }

/-- Ends the current word. -/
def close (f : Fields) : Fields := ⟨(f.current.map List.reverse).toList ++ f.done, none, false⟩

/-- White space. -/
def isSpace (c : Char) : Bool := c == ' ' || c == '\t' || c == '\n'

/-- Ends the current word at a separator; one that is no white space ends an empty word too. -/
def separate (f : Fields) (c : Char) : Fields :=
  if isSpace c then if f.current.isSome then { f.close with spaced := true } else f
  else if f.spaced then { f with spaced := false }
  else (f.add []).close

/-- Adds text that is split at separators. -/
def addSplit (f : Fields) (separators : Bytes) (text : Marked) : Fields :=
  text.foldl (fun f (c, quoted) =>
    if !quoted && separators.contains c then f.separate c else f.add [(c, quoted)]) f

/-- Adds words, the first of which goes on with the current one. -/
def addWords (f : Fields) : List Bytes → Fields
  | [] => f
  | [w] => f.add (.ofBytes true w)
  | w :: ws => (f.add (.ofBytes true w)).close.addWords ws

/-- Adds words that are split at separators, the first of which goes on with the current one. -/
def addWordsSplit (f : Fields) (separators : Bytes) : List Bytes → Fields
  | [] => f
  | [w] => f.addSplit separators (.ofBytes false w)
  | w :: ws => (f.addSplit separators (.ofBytes false w)).close.addWordsSplit separators ws

/-- All words, in order. -/
def toList (f : Fields) : List Marked := f.close.done.reverse

end Fields

/-! ### Paths -/

/-- The names in a directory, in order. -/
def namesIn (s : State) (dir : Bytes) : List Bytes :=
  match s.disk.locate (pathOf dir) with
  | .ok place =>
    let names := (s.disk.namesIn place).map fun name => ofText (String.ofList name)
    names.mergeSort fun a b => !decide (b < a)
  | .error _ => []

/-- The paths that begin as given and go on as the parts of a pattern say; a name that starts with
a point is described only by a part that starts with one. -/
def pathsFrom (s : State) (start : Bytes) : List Marked → List Bytes
  | [] => []
  | part :: rest =>
    if !part.isPattern then
      match rest with
      | [] => if (s.kindAt (start ++ part.bytes)).isSome then [start ++ part.bytes] else []
      | rest => pathsFrom s (start ++ part.bytes ++ ['/']) rest
    else
      let hidden := part.bytes.head? == some '.'
      let names := namesIn s (if start.isEmpty then ['.'] else start)
      let names := (if hidden then [['.'], ['.', '.']] else []) ++ names
      let found := names.filter fun n =>
        (hidden || n.head? != some '.') && part.pattern.describes n
      match rest with
      | [] => found.map (start ++ ·)
      | rest =>
        (found.filter fun n => s.kindAt (start ++ n) == some .directory).flatMap fun n =>
          pathsFrom s (start ++ n ++ ['/']) rest

/-- The paths that a word describes, in order, or the word itself when there are none. -/
def pathsOf (s : State) (word : Marked) : List Bytes :=
  if s.has 'f' || !word.isPattern then [word.bytes]
  else
    match pathsFrom s [] (word.splitOnP fun (c, _) => c == '/') with
    | [] => [word.bytes]
    | paths => paths.mergeSort fun a b => !decide (b < a)

end MojoToolchain.Shell
