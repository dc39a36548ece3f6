import MojoToolchain.Shell.Syntax

/-!
# Patterns

A pattern describes texts: `*` stands for any text, `?` for any character, and `[a-z]` or
`[!a-z]` for a character of a set or outside of it.  A quoted character stands for itself.
-/

namespace MojoToolchain.Shell

/-- A set of characters. -/
structure CharSet where
  outside : Bool
  ranges : List (Char × Char)
  deriving DecidableEq, Repr

namespace CharSet

/-- A character is in a set. -/
def holds (set : CharSet) (c : Char) : Bool :=
  set.ranges.any (fun (low, high) => low ≤ c && c ≤ high) != set.outside

/-- The named classes of characters. -/
def classes : List (String × List (Char × Char)) :=
  [("[:upper:]", [('A', 'Z')]), ("[:lower:]", [('a', 'z')]), ("[:digit:]", [('0', '9')]),
   ("[:alpha:]", [('A', 'Z'), ('a', 'z')]), ("[:alnum:]", [('0', '9'), ('A', 'Z'), ('a', 'z')]),
   ("[:space:]", [('\t', '\r'), (' ', ' ')]), ("[:blank:]", [('\t', '\t'), (' ', ' ')]),
   ("[:punct:]", [('!', '/'), (':', '@'), ('[', '\x60'), ('\x7b', '~')]),
   ("[:xdigit:]", [('0', '9'), ('A', 'F'), ('a', 'f')]), ("[:print:]", [(' ', '~')]),
   ("[:graph:]", [('!', '~')]), ("[:cntrl:]", [('\x00', '\x1f'), ('\x7f', '\x7f')])]

/-- The named class at the front, and the text after it. -/
def readClass (s : Bytes) : Option (List (Char × Char) × Bytes) :=
  (classes.find? fun (name, _) => name.toList.isPrefixOf s).map fun (name, ranges) =>
    (ranges, s.drop name.length)

/-- A character at the front; with `escapes`, a backslash in front of it is dropped. -/
def takeChar (escapes : Bool) : Bytes → Option (Char × Bytes)
  | '\\' :: c :: r => if escapes then some (c, r) else some ('\\', c :: r)
  | c :: r => some (c, r)
  | [] => none

/-- The end of a range behind its first character, if it is one. -/
def takeEnd (escapes : Bool) : Bytes → Option (Char × Bytes)
  | '-' :: c :: r => if c == ']' then none else takeChar escapes (c :: r)
  | _ => none

/-- Reads the members of a set up to its closing bracket, which may also come first. -/
def readMembers (escapes : Bool) : Nat → Bool → Bytes → Option (List (Char × Char) × Bytes)
  | 0, _, _ => none
  | bound + 1, first, s =>
    match readClass s, s with
    | some (ranges, rest), _ => do
      let (more, rest) ← readMembers escapes bound false rest
      some (ranges ++ more, rest)
    | none, '[' :: '=' :: c :: '=' :: ']' :: rest => do
      let (more, rest) ← readMembers escapes bound false rest
      some ((c, c) :: more, rest)
    | none, '[' :: '.' :: c :: '.' :: ']' :: rest => do
      let (more, rest) ← readMembers escapes bound false rest
      some ((c, c) :: more, rest)
    | none, s =>
      if s.head? == some ']' && !first then some ([], s.tail)
      else do
        let (low, rest) ← takeChar escapes s
        let (high, rest) := (takeEnd escapes rest).getD (low, rest)
        let (more, rest) ← readMembers escapes bound false rest
        some ((low, high) :: more, rest)

/-- Reads a set after its opening bracket; a character of `marks` in front takes what lies
outside. -/
def read (escapes : Bool) (marks s : Bytes) : Option (CharSet × Bytes) :=
  let outside := s.head?.any marks.contains
  let s := if outside then s.drop 1 else s
  (readMembers escapes (s.length + 1) true s).map fun (ranges, rest) => (⟨outside, ranges⟩, rest)

end CharSet

/-- An element of a pattern. -/
inductive PatternItem where
  | char (c : Char)
  | any
  | many
  | oneOf (set : CharSet)
  deriving DecidableEq, Repr

/-- A pattern. -/
abbrev Pattern := List PatternItem

namespace Pattern

/-- The pattern that marked characters are; the mark says that a character is quoted. -/
def ofMarked : Nat → List (Char × Bool) → Pattern
  | 0, _ => []
  | _ + 1, [] => []
  | bound + 1, (c, quoted) :: rest =>
    if quoted then .char c :: ofMarked bound rest
    else if c == '*' then .many :: ofMarked bound rest
    else if c == '?' then .any :: ofMarked bound rest
    else if c == '[' then
      match CharSet.read false ['!', '^'] (rest.map Prod.fst) with
      | some (set, left) => .oneOf set :: ofMarked bound (rest.drop (rest.length - left.length))
      | none => .char c :: ofMarked bound rest
    else .char c :: ofMarked bound rest

/-- A pattern describes a text. -/
def describes (p : Pattern) (s : Bytes) : Bool :=
  match p, s with
  | [], s => s.isEmpty
  | .many :: p, [] => describes p []
  | .many :: p, c :: s => describes p (c :: s) || describes (.many :: p) s
  | .any :: p, _ :: s => describes p s
  | .char d :: p, c :: s => d == c && describes p s
  | .oneOf set :: p, c :: s => set.holds c && describes p s
  | _ :: _, [] => false
termination_by p.length + s.length

/-- What is left of a text without the shortest or longest part at its start or end that a
pattern describes. -/
def trim (p : Pattern) (atEnd longest : Bool) (s : Bytes) : Bytes :=
  let sizes := List.range (s.length + 1)
  let sizes := if longest then sizes.reverse else sizes
  let part (n : Nat) : Bytes := if atEnd then s.drop (s.length - n) else s.take n
  match sizes.find? fun n => p.describes (part n) with
  | some n => if atEnd then s.take (s.length - n) else s.drop n
  | none => s

/-- The pattern `*` describes every text. -/
theorem describes_many (s : Bytes) :
  describes [.many] s
  := by
  induction s with
  | nil => simp [describes]
  | cons c s ih => simp [describes, ih]

end Pattern

end MojoToolchain.Shell
