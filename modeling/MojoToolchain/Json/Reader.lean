import MojoToolchain.Json.Literal

/-!
# Reading JSON

`parse` reads a text that holds one value and nothing else.  Containers nest at most
`maxDepth` deep.  Of equal keys in one object the last one stays.
-/

namespace MojoToolchain.Json

/-- How many containers may stand inside one another. -/
def maxDepth : Nat := 127

/-- Reads a word after its first letter, and gives the value that it stands for. -/
def readWordAs (word : String) (value : Json) (c : Char) (r : List Char) : Reading Json (c :: r) :=
  match h : readWord word.toList r with
  | .error stop => .error stop
  | .ok rest => .ok (value, Tail.cons c ⟨rest, length_le_of_readWord h⟩)

/-- Reads a string literal after its opening quote. -/
def readString (r : List Char) : Reading String ('"' :: r) :=
  match h : readStringFrom [] r with
  | .error stop => .error stop
  | .ok (chars, rest) =>
    .ok (String.ofList chars, Rest.cons '"' ⟨rest, length_le_of_readString h⟩)

/-- Reads a number whose first character is `c`. -/
def readNumberAt (c : Char) (r : List Char) : Reading Json (c :: r) :=
  match h : readNumber (c :: r) with
  | .error stop => .error stop
  | .ok (value, rest) => .ok (value, ⟨rest, length_lt_of_readNumber h⟩)

/-- Reads a value that is no container from a text that starts with it. -/
def readScalar (s : List Char) : Reading Json s :=
  match s with
  | 'n' :: r => readWordAs "ull" null 'n' r
  | 't' :: r => readWordAs "rue" (bool true) 't' r
  | 'f' :: r => readWordAs "alse" (bool false) 'f' r
  | '"' :: r =>
    match readString r with
    | .error stop => .error stop
    | .ok (text, rest) => .ok (string text, rest)
  | c :: r =>
    if c == '-' || c.isDigit then readNumberAt c r
    else .error (.next .expectedValue (c :: r))
  | [] => .error (.next .endInValue [])

/-! ### Items and members -/

/-- Reads items up to the closing bracket; `s` starts with an item. -/
def readItems (item : (s : List Char) → Reading α s) (s : List Char) : Reading (List α) s := do
  let (a, r) ← item s
  match h : skipSpace r.val with
  | [] => .error (.next .endInList [])
  | ']' :: _ => .ok ([a], r.trans (.afterSpace h))
  | ',' :: _ =>
    let t := r.trans (.afterSpace h)
    match skipSpace t.val with
    | [] => .error (.next .endInValue [])
    | ']' :: u => .error (.next .trailingComma (']' :: u))
    | _ =>
      let (as, u) ← readItems item t.val
      .ok (a :: as, t.trans u)
  | t => .error (.next .expectedListCommaOrEnd t)
termination_by s.length
decreasing_by exact t.property

/-- Reads a list after its opening bracket. -/
def readList (item : (s : List Char) → Reading α s) (r : List Char) :
    Reading (List α) ('[' :: r) :=
  match h : skipSpace r with
  | [] => .error (.next .endInList [])
  | ']' :: _ => .ok ([], Rest.cons '[' (.afterSpace h))
  | _ => do
    let (as, t) ← readItems item r
    .ok (as, t.cons '[')

/-- Passes over the colon after a key. -/
def readColon (s : List Char) : Except Stop (Rest s) :=
  match h : skipSpace s with
  | [] => .error (.next .endInObject [])
  | ':' :: _ => .ok (.afterSpace h)
  | r => .error (.next .expectedColon r)

/-- Reads a key from a text that starts with its opening quote. -/
def readKey (s : List Char) : Reading String s :=
  match s with
  | '"' :: r => readString r
  | s => .error (.next .keyNotString s)

/-- Where a key starts, after the comma behind a member. -/
def nextKey (s : List Char) : Except Stop (Tail s) :=
  match skipSpace s with
  | [] => .error (.next .endInValue [])
  | '"' :: _ => .ok (.afterSpace s)
  | '\x7d' :: r => .error (.next .trailingComma ('\x7d' :: r))
  | r => .error (.next .keyNotString r)

/-- Reads members up to the closing brace; `s` starts with a key. -/
def readMembers (value : (s : List Char) → Reading α s) (s : List Char) :
    Reading (List (String × α)) s := do
  let (key, r) ← readKey s
  let t ← readColon r.val
  let (a, u) ← value t.val
  let behind := (r.trans t).trans u
  match h : skipSpace u.val with
  | [] => .error (.next .endInObject [])
  | '\x7d' :: _ => .ok ([(key, a)], behind.trans (.afterSpace h))
  | ',' :: w =>
    let k ← nextKey w
    let start := (behind.trans (.afterSpace h)).then k
    let (rest, x) ← readMembers value start.val
    .ok ((key, a) :: rest, start.trans x)
  | w => .error (.next .expectedObjectCommaOrEnd w)
termination_by s.length
decreasing_by exact start.property

/-- Where the first key of an object starts; there is none when the object ends at once. -/
def firstKey (s : List Char) : Except Stop (Tail s ⊕ Rest s) :=
  match h : skipSpace s with
  | [] => .error (.next .endInObject [])
  | '\x7d' :: _ => .ok (.inr (.afterSpace h))
  | '"' :: _ => .ok (.inl (.afterSpace s))
  | r => .error (.next .keyNotString r)

/-- Reads an object after its opening brace. -/
def readObject (value : (s : List Char) → Reading α s) (r : List Char) :
    Reading (List (String × α)) ('\x7b' :: r) := do
  match ← firstKey r with
  | .inr t => .ok ([], t.cons '\x7b')
  | .inl k =>
    let (members, u) ← readMembers value k.val
    .ok (members, (k.rest u).cons '\x7b')

/-! ### Values -/

/-- Reads a value whose containers nest at most `depth` deep. -/
def readValue (depth : Nat) (s : List Char) : Reading Json s :=
  match h : skipSpace s with
  | '[' :: r =>
    match depth with
    | 0 => .error (.next .tooDeep ('[' :: r))
    | depth + 1 => do
      let (items, t) ← readList (readValue depth) r
      .ok (array items, (Tail.afterSpace s).rest (.ofEq h t))
  | '\x7b' :: r =>
    match depth with
    | 0 => .error (.next .tooDeep ('\x7b' :: r))
    | depth + 1 => do
      let (members, t) ← readObject (readValue depth) r
      .ok (object (sortMembers members), (Tail.afterSpace s).rest (.ofEq h t))
  | _ => do
    let (value, r) ← readScalar (skipSpace s)
    .ok (value, (Tail.afterSpace s).rest r)

/-- Reads a text to its end. -/
def readWhole (read : (s : List Char) → Reading α s) (s : List Char) : Except Stop α := do
  let (value, r) ← read s
  match skipSpace r.val with
  | [] => .ok value
  | t => .error (.next .trailingCharacters t)

/-- The value that a text holds. -/
def parse (s : List Char) : Except Stop Json := readWhole (readValue maxDepth) s

end MojoToolchain.Json
