/-!
# Paths

A path is kept as it was written.  Its components leave out repeated and trailing separators
and every `.` but a leading one; two paths with the same components name the same place.
`join` keeps the text of its left side, `parent?` the text before the last component.
-/

namespace MojoToolchain

/-- A path as it was written. -/
structure Path where
  text : String
  deriving DecidableEq, Inhabited, Repr

namespace Path

/-- One part of a path. -/
inductive Component where
  /-- The leading separator of an absolute path. -/
  | root
  /-- A leading `.` of a relative path. -/
  | here
  /-- A `..`. -/
  | up
  /-- A name. -/
  | name (chars : List Char)
  deriving DecidableEq, Inhabited, Repr

namespace Component

/-- The text of a component. -/
def text : Component → List Char
  | root => ['/']
  | here => ['.']
  | up => ['.', '.']
  | name chars => chars

/-- The order of components: the root, `.`, `..`, and then the names by their characters. -/
def rank : Component → Nat
  | root => 0
  | here => 1
  | up => 2
  | name _ => 3

/-- Strictly before, in the order of components. -/
def before (a b : Component) : Bool :=
  match a, b with
  | name x, name y => decide (x < y)
  | _, _ => a.rank < b.rank

end Component

/-- A path from its characters. -/
def ofChars (s : List Char) : Path := ⟨String.ofList s⟩

/-- The characters of a path. -/
def chars (p : Path) : List Char := p.text.toList

/-- The path starts at the root. -/
def isAbsolute (p : Path) : Bool := p.chars.head? == some '/'

/-! ### Components -/

/-- A piece between two separators that names nothing. -/
def isIdle (piece : List Char) : Bool := piece == [] || piece == ['.']

/-- The component of a piece that is not idle. -/
def ofPiece (piece : List Char) : Component :=
  if piece == ['.', '.'] then .up else .name piece

/-- The characters before the body of a path, `/` or a leading `.`, and the body. -/
def headBody (s : List Char) : List Char × List Char :=
  match s with
  | '/' :: body => (['/'], body)
  | ['.'] => (['.'], [])
  | '.' :: '/' :: body => (['.'], '/' :: body)
  | body => ([], body)

/-- The component that the characters before the body stand for. -/
def headComponents : List Char → List Component
  | '/' :: _ => [.root]
  | '.' :: _ => [.here]
  | _ => []

/-- The components of a body. -/
def bodyComponents (body : List Char) : List Component :=
  ((body.splitOn '/').filter fun piece => !isIdle piece).map ofPiece

/-- The components of a path. -/
def components (p : Path) : List Component :=
  let (head, body) := headBody p.chars
  headComponents head ++ bodyComponents body

/-- Two paths name the same place: they have the same components. -/
def same (p q : Path) : Bool := p.components == q.components

/-- The components of `p` after those of `base`, when `p` starts with them. -/
def below? (p base : Path) : Option (List Component) :=
  strip p.components base.components
where
  strip : List Component → List Component → Option (List Component)
    | rest, [] => some rest
    | [], _ :: _ => none
    | a :: as, b :: bs => if a == b then strip as bs else none

/-- `p` is `base` or lies below it. -/
def startsWith (p base : Path) : Bool := (p.below? base).isSome

/-- `p` comes before `q` or has the same components, in the order of components. -/
def le (p q : Path) : Bool := lists p.components q.components
where
  lists : List Component → List Component → Bool
    | [], _ => true
    | _ :: _, [] => false
    | a :: as, b :: bs => a.before b || (a == b && lists as bs)

/-! ### Joining and taking apart -/

/-- `q` seen from `p`: `q` itself when it is absolute, and otherwise the text of `p`, a
separator unless `p` is empty or ends in one, and the text of `q`. -/
def join (p q : Path) : Path :=
  if q.isAbsolute then q
  else
    let s := p.chars
    let gap := if s.isEmpty || s.getLast? == some '/' then [] else ['/']
    ofChars (s ++ gap ++ q.chars)

instance : Div Path := ⟨join⟩

instance : Coe String Path := ⟨Path.mk⟩

/-- The pieces of a body without the idle ones at its end. -/
def dropIdleEnd (pieces : List (List Char)) : List (List Char) :=
  (pieces.reverse.dropWhile isIdle).reverse

/-- Pieces with a separator between each two. -/
def joinPieces (pieces : List (List Char)) : List Char := ['/'].intercalate pieces

/-- The path without its last component; the text before that component stays as it was,
without separators at its end.  The root and the empty path have no parent. -/
def parent? (p : Path) : Option Path :=
  let (head, body) := headBody p.chars
  match dropIdleEnd (body.splitOn '/') with
  | [] => if head == ['.'] then some ⟨""⟩ else none
  | pieces => some (ofChars (head ++ joinPieces (dropIdleEnd pieces.dropLast)))

/-- The last component, when it is a name. -/
def fileName? (p : Path) : Option (List Char) :=
  match p.components.getLast? with
  | some (.name chars) => some chars
  | _ => none

/-- The part of the file name after its last `.`; there is none when the name has no `.` or
only a leading one. -/
def extension? (p : Path) : Option (List Char) :=
  match p.fileName? with
  | none => none
  | some name =>
    let after := (name.reverse.takeWhile (· != '.')).reverse
    if name.length ≤ after.length + 1 then none else some after

/-- The parent of `p`, the parent of that, and so on; each text is shorter than the one
before. -/
def ancestors (p : Path) : List Path := climb p.chars.length p
where
  climb : Nat → Path → List Path
    | 0, _ => []
    | bound + 1, p =>
      match p.parent? with
      | none => []
      | some q => q :: climb bound q

end Path

end MojoToolchain
