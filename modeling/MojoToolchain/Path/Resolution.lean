import MojoToolchain.Path.Basic

/-!
# Lexical resolution

`resolve` walks the components of a path over a stack: a name is pushed, `..` pops, `.` is
passed over.  `normalize` writes the stack down again, and `absolutize` does so for a path
seen from a base.
-/

namespace MojoToolchain.Path

/-- Where a walk stands: below the root or not, and the names passed, the last one first. -/
structure Position where
  absolute : Bool
  names : List (List Char)
  deriving DecidableEq, Inhabited, Repr

namespace Position

/-- The start of a walk. -/
def start : Position := ⟨false, []⟩

/-- One step of a walk; `..` does nothing where there is no name to leave. -/
def step (pos : Position) : Component → Position
  | .root => ⟨true, []⟩
  | .here => pos
  | .up => { pos with names := pos.names.tail }
  | .name chars => { pos with names := chars :: pos.names }

/-- The path of a position. -/
def path (pos : Position) : Path :=
  ofChars ((if pos.absolute then ['/'] else []) ++ joinPieces pos.names.reverse)

end Position

/-- The position that a path leads to. -/
def resolve (p : Path) : Position := p.components.foldl Position.step Position.start

/-- A path without `.`, `..`, repeated and trailing separators. -/
def normalize (p : Path) : Path := p.resolve.path

/-- The normal form of `p` seen from `base`. -/
def absolutize (p base : Path) : Path :=
  if p.isAbsolute then p.normalize else (base.join p).normalize

theorem absolutize_of_isAbsolute {p : Path} (h : p.isAbsolute) (base : Path) :
  p.absolutize base = p.normalize
  := by
  simp [absolutize, h]

end MojoToolchain.Path
