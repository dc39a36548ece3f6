/-!
# Words of a command line

`Words.quote` writes a word so that a shell reads it back.  A word is cut into chunks, each as
long as one style of quoting admits it; `flatMap_chunks` says that nothing is lost by the cut.
`Words.join` puts spaces between quoted words.
-/

namespace MojoToolchain.Words

/-- A style in which a piece of a word can stand. -/
inductive Style where
  | plain
  /-- Between `'` and `'`, where no character is special. -/
  | single
  /-- Between `"` and `"`, where some characters need a backslash. -/
  | double
  deriving DecidableEq, Repr

namespace Style

/-- All styles, the preferred ones first. -/
def all : List Style := [plain, single, double]

/-- A character that needs no quoting. -/
def isPlain (c : Char) : Bool :=
  c.isAlphanum || ['+', '-', '.', '/', ':', '@', ']', '_'].contains c

/-- A style admits a character.  No style admits `^`, which shells may give a meaning of its own
inside quotes. -/
def admits : Style → Char → Bool
  | plain, c => isPlain c
  | single, c => !(['\'', '^', '\\'].contains c)
  | double, c => !(['`', '$', '!', '^'].contains c)

/-- A character between double quotes. -/
def escape (c : Char) : List Char :=
  if ['$', '`', '"', '\\'].contains c then ['\\', c] else [c]

/-- A chunk in a style. -/
def write : Style → List Char → List Char
  | plain, chunk => chunk
  | single, chunk => '\'' :: chunk ++ ['\'']
  | double, chunk => '"' :: chunk.flatMap escape ++ ['"']

end Style

/-- The longest start of a text that one and the same of some styles admits, the styles that
admit it, and the rest. -/
def takeChunk (styles : List Style) : List Char → List Char × List Style × List Char
  | [] => ([], styles, [])
  | c :: r =>
    match styles.filter (·.admits c) with
    | [] => ([], styles, c :: r)
    | left =>
      let (chunk, last, rest) := takeChunk left r
      (c :: chunk, last, rest)

theorem takeChunk_append (styles : List Style) (s : List Char) :
  (takeChunk styles s).1 ++ (takeChunk styles s).2.2 = s
  := by
  fun_induction takeChunk styles s <;> simp_all

theorem length_takeChunk_le (styles : List Style) (s : List Char) :
  (takeChunk styles s).2.2.length ≤ s.length
  := by
  have := congrArg List.length (takeChunk_append styles s)
  simp only [List.length_append] at this
  omega

/-- The styles for a chunk that starts with a character; a leading `^` stands in the style that
leaves it alone. -/
def stylesFor (c : Char) : List Style :=
  if c == '^' then [.single] else Style.all.filter (·.admits c)

/-- The chunks of a word with their styles; each takes the first style that is left to it. -/
def chunks (s : List Char) : List (Style × List Char) :=
  match s with
  | [] => []
  | c :: r =>
    let taken := takeChunk (stylesFor c) r
    have : taken.2.2.length < (c :: r).length :=
      Nat.lt_succ_of_le (length_takeChunk_le (stylesFor c) r)
    (taken.2.1.headD .double, c :: taken.1) :: chunks taken.2.2
termination_by s.length
decreasing_by all_goals assumption

/-- The chunks of a word make up the word. -/
theorem flatMap_chunks (s : List Char) :
  (chunks s).flatMap Prod.snd = s
  := by
  fun_induction chunks s with
  | case1 => rfl
  | case2 c r taken _ ih => simp [ih, taken, takeChunk_append]

/-- A quoted word; the empty word is a pair of quotes. -/
def quote : List Char → List Char
  | [] => ['\'', '\'']
  | s => (chunks s).flatMap fun (style, chunk) => style.write chunk

/-- A word that no quoting can pass on. -/
def isUnquotable (word : String) : Bool := word.toList.contains '\x00'

/-- Quoted words with spaces between, or the first word that no quoting can pass on. -/
def join (words : List String) : Except String String :=
  match words.find? isUnquotable with
  | some word => .error word
  | none =>
    .ok (String.intercalate " " (words.map fun w => String.ofList (quote w.toList)))

theorem join_nil :
  join [] = .ok ""
  := rfl

end MojoToolchain.Words
