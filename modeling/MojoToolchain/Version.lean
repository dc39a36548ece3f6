import MojoToolchain.Text.DecimalDigit
import MojoToolchain.Text.WordCharacter

/-!
# Versions in a text

A version is a number, one or more groups of a point and digits, and then any number of suffixes
of a point or hyphen and letters or digits, with a word boundary before and after.  `Version.find?`
looks for the first version in a text.  The parts of a version take as much as they can and give
back only what the boundary at the end asks for; going through the text from its end, one step a
character, settles how much that is at every place.
-/

namespace MojoToolchain.Version

/-- A letter or digit of ASCII. -/
def isSuffixChar (c : Char) : Bool := c.isAlphanum

/-- A mark that starts a suffix. -/
def isSuffixMark (c : Char) : Bool := c == '.' || c == '-'

/-- How many more characters a version takes from a place in a text, by the part of it that the
place is in; `none` where no version can go on. -/
structure Ahead where
  /-- Before the first digit. -/
  start : Option Nat
  /-- Behind a digit of the number. -/
  number : Option Nat
  /-- Behind the point of a group. -/
  point : Option Nat
  /-- Behind a digit of a group. -/
  group : Option Nat
  /-- Behind the mark of a suffix. -/
  mark : Option Nat
  /-- Behind a letter or digit of a suffix. -/
  suffix : Option Nat
  deriving DecidableEq, Repr

namespace Ahead

/-- At the end of a text. -/
def atEnd : Ahead := ⟨none, none, none, some 0, none, some 0⟩

/-- What one character more comes to, if it may stand there. -/
def more (fits : Bool) (after : Option Nat) : Option Nat := if fits then after.map (· + 1) else none

/-- Before a character, from what is ahead behind it.  What ends a version is a letter or digit,
so that there is a boundary behind it unless the character belongs to a word. -/
def step (c : Char) (after : Ahead) : Ahead :=
  let digit := Text.isDecimalDigit c
  let stop := if Text.isWord c then none else some 0
  let newGroup := more (c == '.') after.point
  let newSuffix := more (isSuffixMark c) after.mark
  { start := more digit after.number
    number := more digit after.number <|> newGroup
    point := more digit after.group
    group := more digit after.group <|> newGroup <|> newSuffix <|> stop
    mark := more (isSuffixChar c) after.suffix
    suffix := more (isSuffixChar c) after.suffix <|> newSuffix <|> stop }

end Ahead

/-- What is known of a text from some place on. -/
structure Scan where
  /-- The text from there on. -/
  text : List Char
  ahead : Ahead
  /-- The first version that starts behind the place. -/
  found : Option (List Char)

namespace Scan

/-- At the end of a text. -/
def atEnd : Scan := ⟨[], .atEnd, none⟩

/-- The version that starts at the place, or else the first one behind it. -/
def first (s : Scan) : Option (List Char) := s.ahead.start.map s.text.take <|> s.found

/-- Before a character.  A version may start behind it unless it belongs to a word. -/
def step (c : Char) (after : Scan) : Scan :=
  { text := c :: after.text
    ahead := after.ahead.step c
    found := if Text.isWord c then after.found else after.first }

end Scan

/-- The first version in a text. -/
def find? (text : String) : Option String :=
  (text.toList.foldr Scan.step .atEnd).first.map String.ofList

theorem find?_empty :
  find? "" = none
  := by
  simp [find?, Scan.first, Scan.atEnd, Ahead.atEnd]

end MojoToolchain.Version
