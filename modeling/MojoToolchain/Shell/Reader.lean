import MojoToolchain.Shell.Syntax

/-!
# Reading scripts

A script is read by recursive descent, one line of commands after the other.  Every reader takes
what it reads from the front of the text and gives the rest back, or says why the text is no
script.  The bound in front of each reader counts nested calls; the length of the text is enough
for it.
-/

namespace MojoToolchain.Shell

/-! ### Faults -/

/-- Why a text is no script. -/
inductive SyntaxFault where
  /-- A token that cannot stand where it stands, and what should stand there. -/
  | unexpected (token : String) (expected : Option String)
  | unterminatedQuote
  | unterminatedBackquote
  | missingBrace
  | missingBrackets
  | badLoopVariable
  | badFunctionName
  deriving DecidableEq, Repr

/-- The wording of a fault. -/
def SyntaxFault.message : SyntaxFault → String
  | unexpected token none => token ++ " unexpected"
  | unexpected token (some expected) => token ++ " unexpected (expecting " ++ expected ++ ")"
  | unterminatedQuote => "Unterminated quoted string"
  | unterminatedBackquote => "EOF in backquote substitution"
  | missingBrace => "Missing '\x7d'"
  | missingBrackets => "Missing '))'"
  | badLoopVariable => "Bad for loop variable"
  | badFunctionName => "Bad function name"

/-- Something that is read, or a fault and the text that is left where it shows. -/
abbrev Parsed := Except (SyntaxFault × Bytes)

/-! ### Characters -/

/-- A character that may be part of the name of a variable. -/
def isNameChar (c : Char) : Bool := c.isAlphanum || c == '_'

/-- A character that ends a word when it is not quoted. -/
def endsWord (c : Char) : Bool :=
  [' ', '\t', '\n', ';', '&', '|', '<', '>', '(', ')'].contains c

/-- Drops spaces, tabs, joined lines and comments. -/
def skipSpaces : Bytes → Bytes
  | ' ' :: r => skipSpaces r
  | '\t' :: r => skipSpaces r
  | '\\' :: '\n' :: r => skipSpaces r
  | '#' :: r => r.dropWhile (· != '\n')
  | s => s

/-- Drops everything between two commands but a separator. -/
def skipLines : Nat → Bytes → Bytes
  | 0, s => s
  | bound + 1, s =>
    match skipSpaces s with
    | '\n' :: r => skipLines bound r
    | r => r

/-- The name of a parameter at the front: a variable, a number or a special character. -/
def readName : Bytes → Option (Bytes × Bytes)
  | c :: r =>
    if c.isDigit || ['#', '@', '*', '?', '$', '!', '-'].contains c then some ([c], r)
    else if isNameChar c then some ((c :: r).takeWhile isNameChar, (c :: r).dropWhile isNameChar)
    else none
  | [] => none

/-- The name of a parameter between braces. -/
def readBracedName : Bytes → Option (Bytes × Bytes)
  | c :: r =>
    if c.isDigit then some ((c :: r).takeWhile Char.isDigit, (c :: r).dropWhile Char.isDigit)
    else readName (c :: r)
  | [] => none

/-- The word at the front when nothing in it is quoted or expanded. -/
def plainWord (s : Bytes) : Bytes := s.takeWhile fun c => !endsWord c

/-- The rest after a word of the language, when it is at the front. -/
def dropKeyword (word : String) (s : Bytes) : Option Bytes :=
  if plainWord s == word.toList then some (s.drop word.length) else none

/-- The words that end a list of commands. -/
def closers : List String := ["then", "else", "elif", "fi", "do", "done", "\x7d", "esac"]

/-- The words that announce a command that is made of others. -/
def openers : List String := ["\x7b", "if", "while", "until", "for", "case"]

/-- The words of the language. -/
def keywords : List String := closers ++ openers ++ ["!", "in"]

/-- A list of commands ends here. -/
def closesList (s : Bytes) : Bool :=
  s.isEmpty || s.head? == some ')' || [';', ';'].isPrefixOf s
    || closers.any fun w => plainWord s == w.toList

/-- What the token at the front is called; the words of the language may have no meaning there. -/
def tokenAt (inside : Bool) (s : Bytes) : String :=
  let keywords := if inside then [] else keywords
  let operators := ["&&", "||", ";;", "&", "|", ";", "(", ")"]
  match skipSpaces s with
  | [] => "end of file"
  | '\n' :: _ => "newline"
  | '<' :: _ => "redirection"
  | '>' :: _ => "redirection"
  | s =>
    match operators.find? fun op => op.toList.isPrefixOf s,
        keywords.find? fun w => plainWord s == w.toList with
    | some op, _ => "\"" ++ op ++ "\""
    | none, some w => "\"" ++ w ++ "\""
    | none, none => "word"

/-- The token at the front cannot stand there. -/
def unexpectedAt (s : Bytes) (expected : Option String) : Parsed α :=
  .error (.unexpected (tokenAt false s) expected, s)

/-- A word of the language has to be at the front. -/
def expectKeyword (word : String) (s : Bytes) : Parsed Bytes :=
  match dropKeyword word s with
  | some rest => .ok rest
  | none => unexpectedAt s (some ("\"" ++ word ++ "\""))

/-- A closing bracket has to be at the front, behind a command or a word. -/
def expectBracket (inside : Bool) (s : Bytes) : Parsed Bytes :=
  match skipSpaces s with
  | ')' :: rest => .ok rest
  | s => .error (.unexpected (tokenAt inside s) (some "\")\""), s)

/-- A text is the name of a variable or function. -/
def isName (s : Bytes) : Bool :=
  !s.isEmpty && s.all isNameChar && !(s.head?.any Char.isDigit)

/-- A text is a word in which nothing is quoted, expanded or assigned. -/
def isUnmarked (s : Bytes) : Bool :=
  !s.isEmpty && !s.any ['$', '`', '"', '\'', '\\', '='].contains

/-- The lines before one that is just a mark, and the text after that one; with `strip`, tabs at
the start of lines do not count. -/
def linesUpTo (mark : Bytes) (strip : Bool) : Nat → Bytes → Bytes × Bytes
  | 0, s => ([], s)
  | _ + 1, [] => ([], [])
  | bound + 1, s =>
    let line := s.takeWhile (· != '\n')
    let after := s.drop line.length
    let line := if strip then line.dropWhile (· == '\t') else line
    if line == mark then ([], after.drop 1)
    else
      let (more, rest) := linesUpTo mark strip bound (after.drop 1)
      (line ++ after.take 1 ++ more, rest)

/-- The characters of a word that is not expanded, and whether one of them is quoted. -/
def plainText (word : Word) : Bytes × Bool :=
  word.foldl (fun (text, marked) piece =>
    match piece with
    | .literal chars quoted => (text ++ chars, marked || quoted)
    | _ => (text, marked)) ([], false)

/-- The directory that a tilde stands for. -/
def homePiece : Piece :=
  .parameter "HOME".toList (.orElse false [.literal ['~'] true]) true

/-- A tilde at the front that stands for a directory, dropped. -/
def dropTilde : Bytes → Option Bytes
  | '~' :: r =>
    match r with
    | [] => some r
    | c :: _ => if c == '/' || endsWord c then some r else none
  | _ => none

/-- What a mark behind the name of a parameter makes of its value. -/
def useOf (orEmpty : Bool) (mark : Char) : Option (Word → Use) :=
  match mark with
  | '-' => some (.orElse orEmpty)
  | '=' => some (.orAssign orEmpty)
  | '+' => some (.whenSet orEmpty)
  | '?' => some (.orFail orEmpty)
  | _ => none

/-- What the marks behind the name of a parameter make of its value, and what is behind them. -/
def readMarks : Bytes → Option ((Word → Use) × Bytes)
  | ':' :: mark :: r => (useOf true mark).map fun use => (use, r)
  | '%' :: '%' :: r => some (.trim true true, r)
  | '#' :: '#' :: r => some (.trim false true, r)
  | '%' :: r => some (.trim true false, r)
  | '#' :: r => some (.trim false false, r)
  | mark :: r => (useOf false mark).map fun use => (use, r)
  | [] => none

/-- The text between backquotes, without the backslashes that keep characters from meaning
something there, and the text behind it. -/
def takeBackquoted (quoted : Bool) : Bytes → Option (Bytes × Bytes)
  | [] => none
  | '`' :: r => some ([], r)
  | '\\' :: c :: r => do
    let (text, rest) ← takeBackquoted quoted r
    if ['`', '\\', '$'].contains c || (quoted && c == '"') then some (c :: text, rest)
    else some ('\\' :: c :: text, rest)
  | c :: r => do
    let (text, rest) ← takeBackquoted quoted r
    some (c :: text, rest)

/-- A text with the word at its front replaced, if that stands for another text, in which again the
first word is replaced; `used` has the words that have been replaced already. -/
def replaceAliases (aliases : List (Bytes × Bytes)) : Nat → List Bytes → Bytes → Bytes
  | 0, _, s => s
  | bound + 1, used, s =>
    let s := skipSpaces s
    let word := plainWord s
    let isKept := used.contains word || keywords.contains (String.ofList word)
    match if isKept then none else aliases.lookup word with
    | none => s
    | some text =>
      let rest := s.drop word.length
      let goesOn := text.getLast?.any fun c => c == ' ' || c == '\t'
      let rest := if goesOn then replaceAliases aliases bound used rest else rest
      replaceAliases aliases bound (word :: used) (text ++ rest)

/-! ### Words and commands -/

/-- The readers have run out of their bound. -/
def tooDeep (s : Bytes) : Parsed α := unexpectedAt s none

/-- What readers know of the script. -/
structure Source where
  /-- The texts for which words stand at the front of commands. -/
  aliases : List (Bytes × Bytes)
  /-- The line that begins where so much of the script is left. -/
  lineOf : Nat → Nat

/-- The script that a text is, from a line on. -/
def Source.ofText (aliases : List (Bytes × Bytes)) (line : Nat) (s : Bytes) : Source :=
  let size := s.length
  ⟨aliases, fun left => line + (s.take (size - left)).count '\n'⟩

mutual

/-- Reads a word up to an unquoted character that ends it; `inBraces` says that a brace does. -/
def readWord (x : Source) (bound : Nat) (inBraces : Bool) (s : Bytes) : Parsed (Word × Bytes) :=
  match bound with
  | 0 => tooDeep s
  | bound + 1 =>
    match s with
    | [] => .ok ([], [])
    | '\'' :: r =>
      match r.dropWhile (· != '\'') with
      | [] => .error (.unterminatedQuote, [])
      | _ :: rest => do
        let (more, rest) ← readWord x bound inBraces rest
        .ok (.literal (r.takeWhile (· != '\'')) true :: more, rest)
    | '"' :: r => do
      let (pieces, rest) ← readQuoted x bound r
      let (more, rest) ← readWord x bound inBraces rest
      .ok ((if pieces.isEmpty then [.literal [] true] else pieces) ++ more, rest)
    | '\\' :: '\n' :: r => readWord x bound inBraces r
    | '\\' :: c :: r => do
      let (more, rest) ← readWord x bound inBraces r
      .ok (.literal [c] true :: more, rest)
    | '$' :: r => do
      let (piece, rest) ← readDollar x bound false r
      let (more, rest) ← readWord x bound inBraces rest
      .ok (piece :: more, rest)
    | '`' :: r => do
      let (piece, rest) ← readBackquoted x bound false r
      let (more, rest) ← readWord x bound inBraces rest
      .ok (piece :: more, rest)
    | c :: r =>
      if (inBraces && c == '\x7d') || (!inBraces && endsWord c) then .ok ([], c :: r)
      else do
        let (more, rest) ← readWord x bound inBraces r
        .ok (.literal [c] false :: more, rest)

/-- Reads a word in which a tilde in front stands for a directory. -/
def readOuterWord (x : Source) (bound : Nat) (s : Bytes) : Parsed (Word × Bytes) :=
  match bound with
  | 0 => tooDeep s
  | bound + 1 =>
    match dropTilde s with
    | some r => do
      let (more, rest) ← readWord x bound false r
      .ok (homePiece :: more, rest)
    | none => readWord x bound false s

/-- Reads what stands between double quotes, after the first of them. -/
def readQuoted (x : Source) (bound : Nat) (s : Bytes) : Parsed (Word × Bytes) :=
  match bound with
  | 0 => tooDeep s
  | bound + 1 =>
    match s with
    | [] => .error (.unterminatedQuote, [])
    | '"' :: r => .ok ([], r)
    | '\\' :: '\n' :: r => readQuoted x bound r
    | '\\' :: c :: r => do
      let kept := if ['$', '`', '"', '\\'].contains c then [c] else ['\\', c]
      let (more, rest) ← readQuoted x bound r
      .ok (.literal kept true :: more, rest)
    | '$' :: r => do
      let (piece, rest) ← readDollar x bound true r
      let (more, rest) ← readQuoted x bound rest
      .ok (piece :: more, rest)
    | '`' :: r => do
      let (piece, rest) ← readBackquoted x bound true r
      let (more, rest) ← readQuoted x bound rest
      .ok (piece :: more, rest)
    | c :: r => do
      let (more, rest) ← readQuoted x bound r
      .ok (.literal [c] true :: more, rest)

/-- Reads the word behind the marks of a parameter, up to a brace; between double quotes, single
quotes and most backslashes have no meaning. -/
def readBracedWord (x : Source) (bound : Nat) (quoted : Bool) (s : Bytes) : Parsed (Word × Bytes) :=
  match bound with
  | 0 => tooDeep s
  | bound + 1 =>
    if !quoted then readWord x bound true s
    else
      match s with
      | [] => .error (.unterminatedQuote, [])
      | '\x7d' :: r => .ok ([], '\x7d' :: r)
      | '"' :: r => readBracedWord x bound quoted r
      | '\\' :: c :: r => do
        let kept := if ['$', '`', '"', '\\', '\x7d'].contains c then [c] else ['\\', c]
        let (more, rest) ← readBracedWord x bound quoted r
        .ok (.literal kept true :: more, rest)
      | '$' :: r => do
        let (piece, rest) ← readDollar x bound true r
        let (more, rest) ← readBracedWord x bound quoted rest
        .ok (piece :: more, rest)
      | '`' :: r => do
        let (piece, rest) ← readBackquoted x bound true r
        let (more, rest) ← readBracedWord x bound quoted rest
        .ok (piece :: more, rest)
      | c :: r => do
        let (more, rest) ← readBracedWord x bound quoted r
        .ok (.literal [c] false :: more, rest)

/-- Reads what follows a dollar sign. -/
def readDollar (x : Source) (bound : Nat) (quoted : Bool) (s : Bytes) : Parsed (Piece × Bytes) :=
  match bound with
  | 0 => tooDeep s
  | bound + 1 =>
    match s with
    | '(' :: '(' :: r => do
      let (word, rest) ← readArithmetic x bound 0 r
      .ok (.arithmetic word quoted, rest)
    | '(' :: r => do
      let (command, rest) ← readList x bound r
      let rest ← expectBracket false rest
      .ok (.output command quoted, rest)
    | '\x7b' :: '#' :: r =>
      match readBracedName r with
      | some (name, '\x7d' :: rest) => .ok (.parameter name .length quoted, rest)
      | _ => readBraced x bound quoted ('#' :: r)
    | '\x7b' :: r => readBraced x bound quoted r
    | s =>
      match readName s with
      | some (name, rest) => .ok (.parameter name .value quoted, rest)
      | none => .ok (.literal ['$'] quoted, s)

/-- Reads an arithmetic expression up to its two closing brackets; `inside` counts the brackets
that are open. -/
def readArithmetic (x : Source) (bound inside : Nat) (s : Bytes) : Parsed (Word × Bytes) :=
  match bound with
  | 0 => tooDeep s
  | bound + 1 =>
    match s with
    | [] => .error (.missingBrackets, [])
    | ')' :: r =>
      match inside, r with
      | 0, ')' :: rest => .ok ([], rest)
      | 0, r => .error (.missingBrackets, r)
      | inside + 1, r => do
        let (more, rest) ← readArithmetic x bound inside r
        .ok (.literal [')'] true :: more, rest)
    | '$' :: r => do
      let (piece, rest) ← readDollar x bound true r
      let (more, rest) ← readArithmetic x bound inside rest
      .ok (piece :: more, rest)
    | '`' :: r => do
      let (piece, rest) ← readBackquoted x bound true r
      let (more, rest) ← readArithmetic x bound inside rest
      .ok (piece :: more, rest)
    | c :: r => do
      let (more, rest) ← readArithmetic x bound (if c == '(' then inside + 1 else inside) r
      .ok (if c == '"' then more else .literal [c] true :: more, rest)

/-- Reads a text in the script to its end. -/
def readText (x : Source) (bound : Nat) (s : Bytes) : Parsed (Word × Bytes) :=
  match bound with
  | 0 => tooDeep s
  | bound + 1 =>
    match s with
    | [] => .ok ([], [])
    | '\\' :: '\n' :: r => readText x bound r
    | '\\' :: c :: r => do
      let kept := if ['$', '`', '\\'].contains c then [c] else ['\\', c]
      let (more, rest) ← readText x bound r
      .ok (.literal kept true :: more, rest)
    | '$' :: r => do
      let (piece, rest) ← readDollar x bound true r
      let (more, rest) ← readText x bound rest
      .ok (piece :: more, rest)
    | '`' :: r => do
      let (piece, rest) ← readBackquoted x bound true r
      let (more, rest) ← readText x bound rest
      .ok (piece :: more, rest)
    | c :: r => do
      let (more, rest) ← readText x bound r
      .ok (.literal [c] true :: more, rest)

/-- Reads a text after the lines that hold its command; it ends at a line that is just a mark. -/
def readHere (x : Source) (bound : Nat) (strip : Bool) (s : Bytes) : Parsed (Target × Bytes) :=
  match bound with
  | 0 => tooDeep s
  | bound + 1 => do
    let (word, rest) ← readWord x bound false (skipSpaces s)
    if word.isEmpty then unexpectedAt rest none
    else
      let (mark, marked) := plainText word
      let line := rest.takeWhile (· != '\n')
      let (text, behind) := linesUpTo mark strip (s.length + 1) ((rest.drop line.length).drop 1)
      let (word, _) ← if marked then .ok ([.literal text true], []) else readText x bound text
      .ok (.text word, line ++ '\n' :: behind)

/-- Reads a parameter after its opening brace. -/
def readBraced (x : Source) (bound : Nat) (quoted : Bool) (s : Bytes) : Parsed (Piece × Bytes) :=
  match bound with
  | 0 => tooDeep s
  | bound + 1 =>
    let unknown (name : Bytes) (behind : Bytes) : Parsed (Piece × Bytes) :=
      match behind.dropWhile (· != '\x7d') with
      | [] => .error (if quoted then .unterminatedQuote else .missingBrace, [])
      | _ :: rest => .ok (.parameter name .unknown quoted, rest)
    match readBracedName s with
    | none => unknown [] s
    | some (name, '\x7d' :: rest) => .ok (.parameter name .value quoted, rest)
    | some (name, behind) =>
      match readMarks behind with
      | none => unknown name behind
      | some (use, rest) => do
        let trims := behind.head?.any ['%', '#'].contains
        let (word, rest) ← readBracedWord x bound (quoted && !trims) rest
        match rest with
        | '\x7d' :: rest => .ok (.parameter name (use word) quoted, rest)
        | _ => .error (if quoted then .unterminatedQuote else .missingBrace, [])

/-- Reads a command between backquotes, after the first of them. -/
def readBackquoted (x : Source) (bound : Nat) (quoted : Bool) (s : Bytes) :
    Parsed (Piece × Bytes) :=
  match bound with
  | 0 => tooDeep s
  | bound + 1 =>
    match takeBackquoted quoted s with
    | none => .error (.unterminatedBackquote, [])
    | some (text, rest) => do
      let (command, left) ← readList (.ofText x.aliases 1 text) bound text
      if left.isEmpty then .ok (.output command quoted, rest) else unexpectedAt left none

/-- Reads the word that a stream is directed to. -/
def readTarget (x : Source) (bound : Nat) (s : Bytes) : Parsed (Word × Bytes) :=
  match bound with
  | 0 => tooDeep s
  | bound + 1 => do
    let (word, rest) ← readOuterWord x bound (skipSpaces s)
    if word.isEmpty then unexpectedAt rest none else .ok (word, rest)

/-- Reads a direction of a stream, when there is one; the number of the stream comes first. -/
def readDirection (x : Source) (bound : Nat) (s : Bytes) : Parsed (Option Direction × Bytes) :=
  match bound with
  | 0 => tooDeep s
  | bound + 1 =>
    let (number, behind) : Option Nat × Bytes :=
      match s with
      | c :: '<' :: r => if c.isDigit then (some (c.toNat - 48), '<' :: r) else (none, s)
      | c :: '>' :: r => if c.isDigit then (some (c.toNat - 48), '>' :: r) else (none, s)
      | s => (none, s)
    let toFile (r : Bytes) : Parsed (Option Direction × Bytes) := do
      let (word, rest) ← readTarget x bound r
      .ok (some (number.getD 1, .writeFile word), rest)
    match behind with
    | '>' :: '&' :: r => do
      let (word, rest) ← readTarget x bound r
      .ok (some (number.getD 1, .stream word), rest)
    | '>' :: '>' :: r => do
      let (word, rest) ← readTarget x bound r
      .ok (some (number.getD 1, .appendFile word), rest)
    | '>' :: '|' :: r => do
      let (word, rest) ← readTarget x bound r
      .ok (some (number.getD 1, .replaceFile word), rest)
    | '>' :: r => toFile r
    | '<' :: '<' :: '-' :: r => do
      let (target, rest) ← readHere x bound true r
      .ok (some (number.getD 0, target), rest)
    | '<' :: '<' :: r => do
      let (target, rest) ← readHere x bound false r
      .ok (some (number.getD 0, target), rest)
    | '<' :: '&' :: r => do
      let (word, rest) ← readTarget x bound r
      .ok (some (number.getD 0, .stream word), rest)
    | '<' :: '>' :: r => do
      let (word, rest) ← readTarget x bound r
      .ok (some (number.getD 0, .openFile word), rest)
    | '<' :: r => do
      let (word, rest) ← readTarget x bound r
      .ok (some (number.getD 0, .readFile word), rest)
    | _ => .ok (none, s)

/-- Reads directions of streams. -/
def readDirections (x : Source) (bound : Nat) (s : Bytes) : Parsed ((List Direction) × Bytes) :=
  match bound with
  | 0 => tooDeep s
  | bound + 1 => do
    match ← readDirection x bound (skipSpaces s) with
    | (none, _) => .ok ([], s)
    | (some direction, rest) =>
      let (more, rest) ← readDirections x bound rest
      .ok (direction :: more, rest)

/-- Reads the words and directions of a simple command; assignments come before the words. -/
def readSimple (x : Source) (bound : Nat) (inFront : Bool) (s : Bytes) :
    Parsed ((List (Bytes × Word) × List Word × List Direction) × Bytes) :=
  match bound with
  | 0 => tooDeep s
  | bound + 1 => do
    let s := skipSpaces s
    match ← readDirection x bound s with
    | (some direction, rest) =>
      let rest := if inFront then replaceAliases x.aliases bound [] rest else rest
      let ((assignments, words, directions), rest) ← readSimple x bound inFront rest
      .ok ((assignments, words, direction :: directions), rest)
    | (none, _) =>
      if s.head?.all endsWord then .ok (([], [], []), s)
      else
        let name := s.takeWhile isNameChar
        match inFront && isName name, s.dropWhile isNameChar with
        | true, '=' :: value =>
          let (word, rest) ← readOuterWord x bound value
          let rest := replaceAliases x.aliases bound [] rest
          let ((assignments, words, directions), rest) ← readSimple x bound true rest
          .ok (((name, word) :: assignments, words, directions), rest)
        | _, _ =>
          let (word, rest) ← readOuterWord x bound s
          let ((assignments, words, directions), rest) ← readSimple x bound false rest
          .ok ((assignments, word :: words, directions), rest)

/-- Reads a list of commands, which may be empty only where the script ends. -/
def readBlock (x : Source) (bound : Nat) (s : Bytes) : Parsed (Command × Bytes) :=
  match bound with
  | 0 => tooDeep s
  | bound + 1 =>
    let start := skipLines bound s
    if closesList start && !start.isEmpty then unexpectedAt start none else readList x bound start

/-- Reads the rest of a branch, after its condition has been announced. -/
def readBranch (x : Source) (bound : Nat) (s : Bytes) : Parsed (Command × Bytes) :=
  match bound with
  | 0 => tooDeep s
  | bound + 1 => do
    let (condition, rest) ← readBlock x bound s
    let rest ← expectKeyword "then" rest
    let (then_, rest) ← readBlock x bound rest
    match dropKeyword "else" rest, dropKeyword "elif" rest with
    | some rest, _ =>
      let (else_, rest) ← readBlock x bound rest
      let rest ← expectKeyword "fi" rest
      .ok (.branch condition then_ else_, rest)
    | none, some rest =>
      let (else_, rest) ← readBranch x bound rest
      .ok (.branch condition then_ else_, rest)
    | none, none =>
      let rest ← expectKeyword "fi" rest
      .ok (.branch condition then_ .nothing, rest)

/-- Reads the body of a loop with the words around it. -/
def readBody (x : Source) (bound : Nat) (s : Bytes) : Parsed (Command × Bytes) :=
  match bound with
  | 0 => tooDeep s
  | bound + 1 => do
    let rest ← expectKeyword "do" s
    let (body, rest) ← readBlock x bound rest
    let rest ← expectKeyword "done" rest
    .ok (body, rest)

/-- Reads the patterns of a case up to its closing bracket. -/
def readPatterns (x : Source) (bound : Nat) (s : Bytes) : Parsed ((List Word) × Bytes) :=
  match bound with
  | 0 => tooDeep s
  | bound + 1 => do
    let (word, rest) ← readOuterWord x bound (skipSpaces s)
    match word.isEmpty, skipSpaces rest with
    | false, '|' :: rest =>
      let (more, rest) ← readPatterns x bound rest
      .ok (word :: more, rest)
    | _, rest =>
      let rest ← expectBracket true rest
      .ok ([word], rest)

/-- Reads cases up to the word that ends them. -/
def readCases (x : Source) (bound : Nat) (s : Bytes) :
    Parsed (List (List Word × Command) × Bytes) :=
  match bound with
  | 0 => tooDeep s
  | bound + 1 =>
    let s := skipLines bound s
    match dropKeyword "esac" s with
    | some rest => .ok ([], rest)
    | none => do
      let (patterns, rest) ← readPatterns x bound (if s.head? == some '(' then s.drop 1 else s)
      let (body, rest) ← readList x bound rest
      let rest := skipLines bound rest
      if [';', ';'].isPrefixOf rest then
        let (more, rest) ← readCases x bound (rest.drop 2)
        .ok ((patterns, body) :: more, rest)
      else
        let rest ←
          match dropKeyword "esac" rest with
          | some rest => .ok rest
          | none => unexpectedAt rest (some "\";;\"")
        .ok ([(patterns, body)], rest)

/-- Reads words up to the end of a line. -/
def readWords (x : Source) (bound : Nat) (s : Bytes) : Parsed ((List Word) × Bytes) :=
  match bound with
  | 0 => tooDeep s
  | bound + 1 =>
    match skipSpaces s with
    | [] => .ok ([], [])
    | c :: r =>
      if endsWord c then .ok ([], c :: r)
      else do
        let (word, rest) ← readOuterWord x bound (c :: r)
        let (more, rest) ← readWords x bound rest
        .ok (word :: more, rest)

/-- Reads the rest of a loop through words. -/
def readEach (x : Source) (bound : Nat) (s : Bytes) : Parsed (Command × Bytes) :=
  match bound with
  | 0 => tooDeep s
  | bound + 1 => do
    let s := skipSpaces s
    let name := plainWord s
    if !isName name then .error (.badLoopVariable, s)
    else
      let behind := skipLines bound (s.drop name.length)
      let (words, rest) ←
        match dropKeyword "in" behind with
        | none => .ok (none, behind)
        | some rest =>
          match readWords x bound rest with
          | .error fault => .error fault
          | .ok (words, rest) =>
            let rest := skipSpaces rest
            if rest.head? == some ';' || rest.head? == some '\n' then .ok (some words, rest)
            else unexpectedAt rest none
      let rest := if rest.head? == some ';' then rest.drop 1 else rest
      let (body, rest) ← readBody x bound (skipLines bound rest)
      .ok (.each name words body, rest)

/-- Reads the rest of a command after the word that announces it. -/
def readCompound (x : Source) (bound : Nat) (keyword : String) (s : Bytes) :
    Parsed (Command × Bytes) :=
  match bound with
  | 0 => tooDeep s
  | bound + 1 =>
    match keyword with
    | "if" => readBranch x bound s
    | "while" => do
      let (condition, rest) ← readBlock x bound s
      let (body, rest) ← readBody x bound rest
      .ok (.loop false condition body, rest)
    | "until" => do
      let (condition, rest) ← readBlock x bound s
      let (body, rest) ← readBody x bound rest
      .ok (.loop true condition body, rest)
    | "for" => readEach x bound s
    | "case" => do
      let (word, rest) ← readOuterWord x bound (skipSpaces s)
      if word.isEmpty then unexpectedAt rest (some "word")
      let rest ← expectKeyword "in" (skipLines bound rest)
      let (cases, rest) ← readCases x bound rest
      .ok (.choose word cases, rest)
    | _ => do
      let (body, rest) ← readBlock x bound s
      let rest ← expectKeyword "\x7d" rest
      .ok (body, rest)

/-- Reads a command. -/
def readCommand (x : Source) (bound : Nat) (s : Bytes) : Parsed (Command × Bytes) :=
  match bound with
  | 0 => tooDeep s
  | bound + 1 =>
    let line := x.lineOf (skipSpaces s).length
    let s := replaceAliases x.aliases bound [] s
    let word := plainWord s
    let behind := s.drop word.length
    if s.head? == some '(' then do
      let (body, rest) ← readBlock x bound (s.drop 1)
      let rest ← expectBracket false rest
      let (directions, rest) ← readDirections x bound rest
      .ok (.subshell body directions, rest)
    else if openers.any fun w => w.toList == word then do
      let (body, rest) ← readCompound x bound (String.ofList word) behind
      let (directions, rest) ← readDirections x bound rest
      .ok (.group body directions, rest)
    else if closesList s || word == ['!'] then unexpectedAt s none
    else
      match isUnmarked word, skipSpaces behind with
      | true, '(' :: rest => do
        let rest ← expectBracket true rest
        if !isName word then .error (.badFunctionName, rest)
        else
          let (body, rest) ← readCommand x bound (skipLines bound rest)
          .ok (.define word body, rest)
      | _, _ => do
        let ((assignments, words, directions), rest) ← readSimple x bound true s
        if assignments.isEmpty && words.isEmpty && directions.isEmpty then unexpectedAt rest none
        else if (skipSpaces rest).head? == some '(' then unexpectedAt (skipSpaces rest) none
        else .ok (.simple assignments words directions line, rest)

/-- Reads commands with pipes between them. -/
def readPipeline (x : Source) (bound : Nat) (s : Bytes) : Parsed (Command × Bytes) :=
  match bound with
  | 0 => tooDeep s
  | bound + 1 => do
    let (first, rest) ← readCommand x bound s
    match skipSpaces rest with
    | '|' :: '|' :: _ => .ok (first, rest)
    | '|' :: r =>
      let (second, rest) ← readPipeline x bound (skipLines bound r)
      .ok (.pipe first second, rest)
    | _ => .ok (first, rest)

/-- Reads a pipeline that may be negated. -/
def readNegation (x : Source) (bound : Nat) (s : Bytes) : Parsed (Command × Bytes) :=
  match bound with
  | 0 => tooDeep s
  | bound + 1 =>
    match dropKeyword "!" (skipSpaces s) with
    | some r => do
      let (command, rest) ← readPipeline x bound r
      .ok (.negate command, rest)
    | none => readPipeline x bound s

/-- Goes on after a pipeline with those that depend on how it ends. -/
def readChain (x : Source) (bound : Nat) (first : Command) (s : Bytes) : Parsed (Command × Bytes) :=
  match bound with
  | 0 => tooDeep s
  | bound + 1 =>
    match skipSpaces s with
    | '&' :: '&' :: r => do
      let (second, rest) ← readNegation x bound (skipLines bound r)
      readChain x bound (.both first second) rest
    | '|' :: '|' :: r => do
      let (second, rest) ← readNegation x bound (skipLines bound r)
      readChain x bound (.either first second) rest
    | _ => .ok (first, s)

/-- Reads commands up to the end of their line, or, with `whole`, up to what ends their list. -/
def readOn (x : Source) (bound : Nat) (whole : Bool) (s : Bytes) : Parsed (Command × Bytes) :=
  match bound with
  | 0 => tooDeep s
  | bound + 1 => do
    let (first, rest) ← readNegation x bound s
    let (first, rest) ← readChain x bound first rest
    let goOn (first : Command) (r : Bytes) : Parsed (Command × Bytes) :=
      let start := if whole then skipLines bound r else skipSpaces r
      if closesList start || start.head? == some '\n' then .ok (first, start)
      else
        match readOn x bound whole start with
        | .ok (more, rest) => .ok (.sequence first more, rest)
        | .error fault => .error fault
    match skipSpaces rest with
    | ';' :: ';' :: r => .ok (first, ';' :: ';' :: r)
    | ';' :: r => goOn first r
    | '&' :: r => goOn (.background first) r
    | '\n' :: r => if whole then goOn first r else .ok (first, '\n' :: r)
    | rest => .ok (first, rest)

/-- Reads a list of commands up to what ends it. -/
def readList (x : Source) (bound : Nat) (s : Bytes) : Parsed (Command × Bytes) :=
  match bound with
  | 0 => tooDeep s
  | bound + 1 =>
    let start := skipLines bound s
    if closesList start then .ok (.nothing, start) else readOn x bound true start

end

/-- What has been read of a script that starts on a line: the commands of the first line that has
any, and the rest with the line on which that starts. -/
structure ReadLine where
  command : Option Command
  line : Nat
  rest : Bytes

/-- Reads the commands of the first line that has any, in a script that starts on a line; a fault
comes with the line where it shows. -/
def readLine? (aliases : List (Bytes × Bytes)) (line : Nat) (s : Bytes) :
    Except (SyntaxFault × Nat) ReadLine :=
  let bound := 8 * s.length + 16
  let x := Source.ofText aliases line s
  let result : Parsed (Option Command × Bytes) :=
    match skipLines bound s with
    | [] => .ok (none, [])
    | start => do
      let (command, rest) ← readOn x bound false start
      match rest with
      | [] => .ok (some command, [])
      | '\n' :: rest => .ok (some command, rest)
      | rest => unexpectedAt rest none
  match result with
  | .ok (command, rest) => .ok ⟨command, x.lineOf rest.length, rest⟩
  | .error (fault, left) => .error (fault, x.lineOf left.length)

/-- A text in which parameters and commands are expanded, as a word. -/
def readTemplate? (s : Bytes) : Option Word :=
  match readText (.ofText [] 1 s) (8 * s.length + 16) s with
  | .ok (word, _) => some word
  | .error _ => none

end MojoToolchain.Shell
