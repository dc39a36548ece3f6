import MojoToolchain.Shell.Syntax

/-!
# Names in messages

Messages show names so that a shell could read them back: a name without special characters
stands as it is, and any other one between quotes.
-/

namespace MojoToolchain.Shell.Quoting

/-- A byte that a terminal shows. -/
def isSeen (c : Char) : Bool := ' ' ≤ c && c ≤ '~'

/-- The letter after a backslash that stands for a byte, if there is one. -/
def letterOf : Char → Option Char
  | '\x07' => some 'a'
  | '\x08' => some 'b'
  | '\t' => some 't'
  | '\n' => some 'n'
  | '\x0b' => some 'v'
  | '\x0c' => some 'f'
  | '\r' => some 'r'
  | _ => none

/-- The escape of a byte that is not seen: a letter, or three octal digits. -/
def escapeOf (c : Char) : Bytes :=
  match letterOf c with
  | some letter => ['\\', letter]
  | none =>
    let digit (place : Nat) : Char := Char.ofNat (48 + c.toNat / place % 8)
    ['\\', digit 64, digit 8, digit 1]

/-- A shell reads a character as something else than itself; some are special only in front, and
braces only alone. -/
def isSpecial (text : Bytes) (place : Nat) (c : Char) : Bool :=
  if c == '#' || c == '~' then place == 0
  else if c == '\x7b' || c == '\x7d' then text.length == 1
  else !isSeen c || [' ', '!', '"', '$', '&', '\'', '(', ')', '*', ';', '<', '=', '>', '?', '[',
    '\\', '^', '\x60', '|'].contains c

/-- A character may stand between double quotes beside a single quote. -/
def isHarmless (c : Char) : Bool :=
  c.isAlphanum || [' ', '\'', '%', '+', ',', '-', '.', '/', ':', ']', '_', '@', '#', '~'].contains c

/-- A name between single quotes; what is not seen stands apart from it as escapes. -/
def segments (inEscapes : Bool) : Bytes → Bytes
  | [] => ['\'']
  | c :: r =>
    if isSeen c then
      let front := if inEscapes then ['\'', '\''] else []
      front ++ (if c == '\'' then ['\'', '\\', '\'', '\''] else [c]) ++ segments false r
    else
      let front := if inEscapes then [] else ['\'', '$', '\'']
      front ++ escapeOf c ++ segments true r

/-- A name between quotes. -/
def always (text : Bytes) : String :=
  String.ofList <|
    if text.contains '\'' && text.all isHarmless then '"' :: text ++ ['"']
    else '\'' :: segments false text

/-- A name, between quotes if it needs them. -/
def asNeeded (text : Bytes) : String :=
  let special := text.zipIdx.any fun (c, i) => isSpecial text i c
  if text.isEmpty || special then always text else String.ofList text

/-- A text between quotes, with backslashes before what is special in it. -/
def plain (text : Bytes) : String :=
  let shown (c : Char) : Bytes :=
    if c == '\\' || c == '\'' then ['\\', c] else if isSeen c then [c] else escapeOf c
  String.ofList ('\'' :: text.flatMap shown ++ ['\''])

/-- A text between double quotes, with backslashes before what is special in it. -/
def inDouble (text : Bytes) : String :=
  let shown (c : Char) : Bytes :=
    if c == '\\' || c == '"' then ['\\', c] else if isSeen c then [c] else escapeOf c
  String.ofList ('"' :: text.flatMap shown ++ ['"'])

/-- A text with backslashes before what is special in it, and before spaces. -/
def escaped (text : Bytes) : String :=
  String.ofList <| text.flatMap fun c =>
    if c == '\\' || c == ' ' then ['\\', c] else if isSeen c then [c] else escapeOf c

/-- A text between single quotes; what is not seen stands as it is. -/
def raw (text : Bytes) : String :=
  String.ofList <|
    if text.contains '\'' && text.all isHarmless then '"' :: text ++ ['"']
    else
      let shown (c : Char) : Bytes := if c == '\'' then ['\'', '\\', '\'', '\''] else [c]
      '\'' :: text.flatMap shown ++ ['\'']

/-- The ways to show names. -/
inductive Style where
  | literal
  | shell
  | shellAlways
  | shellEscape
  | shellEscapeAlways
  | c
  | cMaybe
  | escape
  | locale
  deriving DecidableEq, Repr

namespace Style

/-- The words for the ways to show names. -/
def words : List (String × Style) :=
  [("literal", literal), ("shell", shell), ("shell-always", shellAlways),
   ("shell-escape", shellEscape), ("shell-escape-always", shellEscapeAlways), ("c", c),
   ("c-maybe", cMaybe), ("escape", escape), ("locale", locale), ("clocale", c)]

/-- Shows a name. -/
def show_ (x : Style) (text : Bytes) : String :=
  let plain := asNeeded text == String.ofList text
  match x with
  | literal => String.ofList text
  | shell => if plain then String.ofList text else raw text
  | shellAlways => raw text
  | shellEscape => asNeeded text
  | shellEscapeAlways => always text
  | c => inDouble text
  | cMaybe => if text.all isSeen then String.ofList text else inDouble text
  | escape => escaped text
  | locale => Quoting.plain text

end Style

end MojoToolchain.Shell.Quoting
