import MojoToolchain.Text.Blank

/-!
# JSON with comments

A text with comments and trailing commas becomes plain JSON in two passes.  `dropComments`
deletes every comment but its line feeds, so each character that stays keeps its line;
`dropTrailingCommas` writes a space for every comma that a closing bracket or brace follows.
Neither changes a character of a string literal.
-/

namespace MojoToolchain.Json

/-- What a character of a text with comments belongs to. -/
inductive Place where
  | code
  | literal
  | lineComment
  | blockComment
  deriving DecidableEq, Repr

/-- Deletes the comments of a text that starts at a place. -/
def dropCommentsAt : Place → List Char → List Char
  | _, [] => []
  | .code, '/' :: '/' :: r => dropCommentsAt .lineComment r
  | .code, '/' :: '*' :: r => dropCommentsAt .blockComment r
  | .code, c :: r => c :: dropCommentsAt (if c == '"' then .literal else .code) r
  | .literal, '\\' :: c :: r => '\\' :: c :: dropCommentsAt .literal r
  | .literal, c :: r => c :: dropCommentsAt (if c == '"' then .code else .literal) r
  | .lineComment, c :: r =>
    if c == '\n' then '\n' :: dropCommentsAt .code r else dropCommentsAt .lineComment r
  | .blockComment, '*' :: '/' :: r => dropCommentsAt .code r
  | .blockComment, c :: r =>
    if c == '\n' then '\n' :: dropCommentsAt .blockComment r else dropCommentsAt .blockComment r

/-- Deletes the comments of a text. -/
def dropComments (s : List Char) : List Char := dropCommentsAt .code s

/-- The first character of a text that is not blank closes a container. -/
def closesNext (s : List Char) : Bool :=
  match Text.trimStart s with
  | [] => false
  | c :: _ => c == ']' || c == '\x7d'

/-- Writes a space for each trailing comma; `inLiteral` says whether the text starts inside a
string literal. -/
def dropTrailingCommasAt : Bool → List Char → List Char
  | _, [] => []
  | true, '\\' :: c :: r => '\\' :: c :: dropTrailingCommasAt true r
  | true, c :: r => c :: dropTrailingCommasAt (c != '"') r
  | false, c :: r =>
    (if c == ',' && closesNext r then ' ' else c) :: dropTrailingCommasAt (c == '"') r

/-- Writes a space for each trailing comma of a text. -/
def dropTrailingCommas (s : List Char) : List Char := dropTrailingCommasAt false s

/-- The plain JSON of a text with comments and trailing commas. -/
def plain (s : List Char) : List Char := dropTrailingCommas (dropComments s)

/-- Dropping trailing commas keeps the length of a text. -/
theorem length_dropTrailingCommasAt (inLiteral : Bool) (s : List Char) :
  (dropTrailingCommasAt inLiteral s).length = s.length
  := by
  fun_induction dropTrailingCommasAt inLiteral s <;> simp_all

end MojoToolchain.Json
