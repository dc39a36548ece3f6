import MojoToolchain.Text.Blank

/-!
# Descriptor files

A descriptor file holds properties, `key = value` or `key: value`, in sections that start with
`[name]`; the properties before the first section are general.  A line that starts with `;` or
`#` is a comment.  A backslash at the end of a line joins it to the next one.  Sections and
properties keep their order, and repeated ones stay; a look-up finds the first.
-/

namespace MojoToolchain.Descriptor

/-- A section and its properties; the general section has no name. -/
structure Section where
  name : Option String
  properties : List (String × String)
  deriving DecidableEq, Repr

/-- A descriptor file: its sections in order, the general one first. -/
abbrev File := List Section

/-- The first value of a key. -/
def firstValue? (key : String) (properties : List (String × String)) : Option String :=
  (properties.find? (·.1 == key)).map Prod.snd

/-- The value of a key in the first section with a name. -/
def File.value? (file : File) (name : Option String) (key : String) : Option String :=
  (file.find? (·.name == name)).bind fun s => firstValue? key s.properties

/-- Why a text is no descriptor file. -/
inductive Cause where
  /-- A comment that does not start its line. -/
  | inlineComment
  /-- A value without a key. -/
  | missingKey
  /-- The text ends inside a key. -/
  | endInKey
  /-- The text ends inside the name of a section. -/
  | endInName
  deriving DecidableEq, Repr

/-- The wording of a cause. -/
def Cause.message : Cause → String
  | inlineComment => "doesn't support inline comment"
  | missingKey => "missing key"
  | endInKey => "expecting \"[Some('='), Some(':')]\" but found EOF."
  | endInName => "expecting \"[Some(']')]\" but found EOF."

/-- A fault of a descriptor file and its place: one more than the line feeds read so far, and one
more than the characters read since the last of them. -/
structure SyntaxFault where
  line : Nat
  column : Nat
  cause : Cause
  deriving DecidableEq, Repr

/-- The wording of a fault. -/
def SyntaxFault.message (f : SyntaxFault) : String :=
  toString f.line ++ ":" ++ toString f.column ++ " " ++ f.cause.message

/-! ### Places -/

/-- What was read of `text` when `rest` is left, the next character included. -/
def readSoFar (text rest : List Char) : List Char :=
  text.take (text.length - rest.length + (if rest.isEmpty then 0 else 1))

/-- The characters read since the last line feed. -/
def columnsRead (text rest : List Char) : Nat :=
  ((readSoFar text rest).reverse.takeWhile (· != '\n')).length

/-- A fault where `rest` is left of `text`. -/
def faultAt (text rest : List Char) (cause : Cause) : SyntaxFault :=
  ⟨(readSoFar text rest).count '\n' + 1, columnsRead text rest + 1, cause⟩

/-! ### Pieces of a file -/

/-- The white space that separates words on one line. -/
def isGap (c : Char) : Bool := c == ' ' || c == '\t'

/-- A character that ends a line. -/
def endsLine (c : Char) : Bool := c == '\n' || c == '\r'

/-- A character that ends a key. -/
def endsKey (c : Char) : Bool := c == '=' || c == ':'

/-- Reads up to a character that ends the piece.  A backslash keeps the next character from
ending it; before a line feed both are dropped. -/
def readPiece (ends : Char → Bool) : List Char → List Char × List Char
  | [] => ([], [])
  | '\\' :: '\n' :: r => readPiece ends r
  | '\\' :: c :: r =>
    let (piece, rest) := readPiece ends r
    ('\\' :: c :: piece, rest)
  | c :: r =>
    if ends c then ([], c :: r)
    else
      let (piece, rest) := readPiece ends r
      (c :: piece, rest)

/-- Drops blank characters; a line end before a space or a tab is the last one dropped. -/
def skipBlank : List Char → List Char
  | [] => []
  | c :: r =>
    if endsLine c then
      match r with
      | ' ' :: _ => r
      | '\t' :: _ => r
      | _ => skipBlank r
    else if Text.isBlank c then skipBlank r
    else c :: r

/-- Drops the rest of a line and its line feed. -/
def skipLine (s : List Char) : List Char := (s.dropWhile (· != '\n')).drop 1

/-- The text after white space on one line and one more character. -/
theorem length_lt_of_dropGap {s r : List Char} {c : Char} (h : s.dropWhile isGap = c :: r) :
  r.length < s.length
  := by
  have : (s.dropWhile isGap).length ≤ s.length := (List.dropWhile_sublist isGap).length_le
  rw [h] at this
  exact this

/-- A piece as a string, without blank characters around it. -/
def trimmed (piece : List Char) : String := String.ofList (Text.trim piece)

theorem length_readPiece (ends : Char → Bool) (s : List Char) :
  (readPiece ends s).2.length ≤ s.length
  := by
  fun_induction readPiece ends s <;> simp_all <;> omega

theorem length_skipBlank (s : List Char) :
  (skipBlank s).length ≤ s.length
  := by
  fun_induction skipBlank s <;> simp_all <;> omega

theorem length_skipLine (s : List Char) :
  (skipLine s).length ≤ s.length
  := by
  have : (s.dropWhile (· != '\n')).length ≤ s.length := (List.dropWhile_sublist _).length_le
  simp only [skipLine, List.length_drop]
  omega

/-- The text after the character that ended a piece. -/
theorem length_lt_of_readPiece {ends : Char → Bool} {s piece r : List Char} {c : Char}
    (h : readPiece ends s = (piece, c :: r)) :
  r.length < s.length
  := by
  have := length_readPiece ends s
  rw [h] at this
  exact this

/-! ### Reading a file -/

/-- Appends a property to the last section; the sections come last one first. -/
def addProperty (key value : String) : List Section → List Section
  | [] => []
  | s :: before => { s with properties := s.properties ++ [(key, value)] } :: before

/-- Reads a section name after its bracket. -/
def readName (text s : List Char) :
    Except SyntaxFault (String × { r : List Char // r.length ≤ s.length }) :=
  match h : readPiece (· == ']') s with
  | (_, []) => .error (faultAt text [] .endInName)
  | (piece, _ :: r) => .ok (trimmed piece, ⟨r, Nat.le_of_lt (length_lt_of_readPiece h)⟩)

/-- What reading a property comes to: a fault, the end of the text, or a property and the text
after it. -/
inductive PropertyReading (s : List Char) where
  | fault (f : SyntaxFault)
  | ended
  | property (key value : String) (rest : { r : List Char // r.length < s.length })

/-- The value of a property, read up to the end of its line, and the text from there on. -/
def readValue (s : List Char) : String × { r : List Char // r.length ≤ s.length } :=
  let start := s.dropWhile fun c => Text.isBlank c && !endsLine c
  let value := readPiece endsLine start
  (trimmed value.1, ⟨value.2, Nat.le_trans (length_readPiece endsLine start)
    (List.dropWhile_sublist _).length_le⟩)

/-- Reads a property from its key on. -/
def readProperty (text s : List Char) : PropertyReading s :=
  match h : readPiece endsKey s with
  | (_, []) => .ended
  | (piece, mark :: r) =>
    let key := trimmed piece
    if key.isEmpty then .fault (faultAt text (mark :: r) .missingKey)
    else
      let (value, rest) := readValue r
      .property key value ⟨rest.val, Nat.lt_of_le_of_lt rest.property (length_lt_of_readPiece h)⟩

/-- Reads the rest `s` of `text`; `done` are the sections so far, the last one first. -/
def readFrom (text : List Char) (done : List Section) (s : List Char) :
    Except SyntaxFault (List Section) :=
  match s with
  | [] => .ok done.reverse
  | c :: r =>
    if c == ';' || c == '#' then
      if 1 < columnsRead text (c :: r) then .error (faultAt text (c :: r) .inlineComment)
      else readFrom text done (skipBlank (skipLine r))
    else if c == '[' then
      match readName text r with
      | .error f => .error f
      | .ok (name, t) => readFrom text (⟨some name, []⟩ :: done) (skipBlank t.val)
    else if isGap c then
      match h : r.dropWhile isGap with
      | [] => .ok done.reverse
      | d :: t =>
        have := length_lt_of_dropGap h
        if d == '[' then
          match readName text t with
          | .error f => .error f
          | .ok (name, u) => readFrom text (⟨some name, []⟩ :: done) (skipBlank u.val)
        else if endsLine d then readFrom text done t
        else
          match readProperty text (d :: t) with
          | .fault f => .error f
          | .ended => .ok done.reverse
          | .property key value u =>
            readFrom text (addProperty key value done) (skipBlank u.val)
    else if endsLine c then readFrom text done (skipBlank r)
    else
      match readProperty text (c :: r) with
      | .fault f => .error f
      | .ended => .error (faultAt text [] .endInKey)
      | .property key value u => readFrom text (addProperty key value done) (skipBlank u.val)
termination_by s.length
decreasing_by
  · have := length_skipBlank (skipLine r)
    have := length_skipLine r
    simp only [List.length_cons]
    omega
  · have := length_skipBlank t.val
    have := t.property
    simp only [List.length_cons]
    omega
  · have := length_skipBlank u.val
    have := u.property
    simp only [List.length_cons]
    omega
  · simp only [List.length_cons]
    omega
  · have := length_skipBlank u.val
    have := u.property
    simp only [List.length_cons] at *
    omega
  · have := length_skipBlank r
    simp only [List.length_cons]
    omega
  · have := length_skipBlank u.val
    have := u.property
    simp only [List.length_cons] at *
    omega

/-- The descriptor file that a text holds. -/
def File.parse (text : List Char) : Except SyntaxFault File := readFrom text [⟨none, []⟩] text

end MojoToolchain.Descriptor
