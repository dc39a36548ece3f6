import MojoToolchain.Decimal.Quantity
import MojoToolchain.Shell.Awk.Syntax

/-!
# Tokens

`tokens` cuts the text of a program into tokens, each with the number of its line.  A slash opens a
regular expression where nothing stands in front that could be divided.
-/

namespace MojoToolchain.Shell.Awk

/-- A piece of the text of a program. -/
inductive Token where
  | number (x : Double)
  | text (s : Bytes)
  | regex (s : Bytes)
  | name (n : Bytes)
  /-- A name with an opening parenthesis right behind it. -/
  | function (n : Bytes)
  | builtin (b : Builtin) (word : String)
  /-- A word of the language. -/
  | word (w : String)
  | sign (s : String)
  | newLine
  deriving DecidableEq, Repr

/-- Tokens with the numbers of their lines. -/
abbrev Tokens := List (Nat × Token)

/-- The words of the language. -/
def words : List String :=
  ["BEGIN", "END", "function", "func", "if", "else", "while", "for", "do", "break", "continue",
   "next", "nextfile", "exit", "return", "delete", "in", "getline", "print", "printf"]

/-- The functions that every program has, by their names. -/
def builtinNames : List (String × Builtin) :=
  [("length", .length), ("substr", .substr), ("index", .index), ("split", .split), ("sub", .sub),
   ("gsub", .gsub), ("match", .match_), ("sprintf", .sprintf), ("sin", .sin), ("cos", .cos),
   ("atan2", .atan2), ("exp", .exp), ("log", .log), ("sqrt", .sqrt), ("int", .int),
   ("rand", .rand), ("srand", .srand), ("tolower", .lower), ("toupper", .upper),
   ("system", .system), ("close", .close), ("fflush", .flush)]

/-- The signs, the longer ones first. -/
def signs : List String :=
  ["&&", "||", "++", "--", "+=", "-=", "*=", "/=", "%=", "^=", "==", "<=", ">=", "!=", ">>", "!~",
   "\x7b", "\x7d", "(", ")", "[", "]", ";", ",", "+", "-", "*", "/", "%", "^", "!", ">", "<", "|",
   "?", ":", "~", "$", "="]

/-- Something stands in front that can be divided. -/
def endsValue : Option Token → Bool
  | some (.number _) => true
  | some (.text _) => true
  | some (.regex _) => true
  | some (.name _) => true
  | some (.builtin _ _) => true
  | some (.sign s) => s == ")" || s == "]" || s == "$" || s == "++" || s == "--"
  | _ => false

/-- The character that an escape in a text stands for, behind its backslash. -/
def readEscape : Bytes → Option (Char × Bytes)
  | 'n' :: r => some ('\n', r)
  | 't' :: r => some ('\t', r)
  | 'r' :: r => some ('\r', r)
  | 'f' :: r => some ('\x0c', r)
  | 'v' :: r => some ('\x0b', r)
  | 'a' :: r => some ('\x07', r)
  | 'b' :: r => some ('\x08', r)
  | 'x' :: r =>
    let digits := (r.take 2).takeWhile fun c => Quantity.digitValue c < 16
    if digits.isEmpty then none
    else some (Char.ofNat (Quantity.numberIn 16 digits), r.drop digits.length)
  | r =>
    let digits := (r.take 3).takeWhile fun c => Quantity.digitValue c < 8
    if digits.isEmpty then none
    else some (Char.ofNat (Quantity.numberIn 8 digits % 256), r.drop digits.length)

/-- A text with its escapes replaced. -/
def unescapeText : Nat → Bytes → Bytes
  | 0, s => s
  | _ + 1, [] => []
  | bound + 1, '\\' :: r =>
    match r with
    | '"' :: r => '"' :: unescapeText bound r
    | '\\' :: r => '\\' :: unescapeText bound r
    | '\n' :: r => unescapeText bound r
    | r =>
      match readEscape r with
      | some (c, rest) => c :: unescapeText bound rest
      | none => '\\' :: unescapeText bound r
  | bound + 1, c :: r => c :: unescapeText bound r

/-- The text up to a mark, and what stands behind it; a backslash keeps a mark from ending it. -/
def upTo (mark : Char) : Bytes → Option (Bytes × Bytes)
  | [] => none
  | '\\' :: c :: r => (upTo mark r).map fun (text, rest) => ('\\' :: c :: text, rest)
  | c :: r =>
    if c == mark then some ([], r)
    else if c == '\n' then none
    else (upTo mark r).map fun (text, rest) => (c :: text, rest)

/-- The token of a name, with what stands behind it. -/
def wordToken (name rest : Bytes) : Token :=
  let text := String.ofList name
  match builtinNames.lookup text with
  | some b => .builtin b text
  | none =>
    if words.contains text then .word (if text == "func" then "function" else text)
    else if rest.head? == some '(' then .function name
    else .name name

/-- The text of a token in a message. -/
def Token.shown : Token → String
  | .number x =>
    String.ofList (Quantity.general 'e' 6 false (Double.ratio x.magnitude).1 (1 <<< 1074))
  | .text s => "\"" ++ String.ofList s ++ "\""
  | .regex s => "/" ++ String.ofList s ++ "/"
  | .name n => String.ofList n
  | .function n => String.ofList n
  | .builtin _ w => w
  | .word w => w
  | .sign s => s
  | .newLine => "end of line"

/-- What a message says with the number of its line. -/
def atRow (row : Nat) (message : String) : String := "line " ++ toString row ++ ": " ++ message

/-- Cuts a text into tokens, or says why that cannot be; `last` is the token in front of it. -/
def scan : Nat → Nat → Option Token → Bytes → Except String Tokens
  | 0, _, _, _ => .ok []
  | _ + 1, _, _, [] => .ok []
  | bound + 1, row, last, c :: r =>
    let unexpected : Except String Tokens :=
      .error (toString row ++ ": unexpected character '" ++ String.ofList [c] ++ "'")
    let found (t : Token) (rest : Bytes) : Except String Tokens :=
      return (row, t) :: (← scan bound row (some t) rest)
    if c == '\n' then
      return (row, .newLine) :: (← scan bound (row + 1) (some .newLine) r)
    else if c == ' ' || c == '\t' || c == '\r' then scan bound row last r
    else if c == '#' then scan bound row last (r.dropWhile (· != '\n'))
    else if c == '\\' && r.head? == some '\n' then scan bound (row + 1) last r.tail
    else if c == '\\' && r.take 2 == ['\r', '\n'] then scan bound (row + 1) last (r.drop 2)
    else if c == '"' then
      match upTo '"' r with
      | some (text, rest) => found (.text (unescapeText (text.length + 1) text)) rest
      | none =>
        .error (atRow row ("runaway string constant \"" ++ String.ofList (r.take 10) ++ " ..."))
    else if c == '/' && !endsValue last then
      match upTo '/' r with
      | some (text, rest) => found (.regex text) rest
      | none =>
        .error (atRow row ("runaway regular expression /" ++ String.ofList (r.take 10) ++ " ..."))
    else if c.isDigit || (c == '.' && r.head?.any Char.isDigit) then
      match Quantity.readDigits? 10 10 ['e', 'E'] (c :: r) with
      | some (q, rest) => found (.number q.toDouble) rest
      | none => unexpected
    else if c.isAlpha || c == '_' then
      let name := (c :: r).takeWhile fun c => c.isAlphanum || c == '_'
      let rest := (c :: r).drop name.length
      found (wordToken name rest) rest
    else
      match signs.find? fun s => s.toList.isPrefixOf (c :: r) with
      | some s => found (.sign s) ((c :: r).drop s.length)
      | none => unexpected

/-- The tokens of a program. -/
def tokens (s : Bytes) : Except String Tokens := scan (s.length + 1) 1 none s

end MojoToolchain.Shell.Awk
