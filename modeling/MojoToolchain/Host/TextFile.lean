import MojoToolchain.Host.Dialogue
import MojoToolchain.Text.Utf8

/-!
# Text files

What is asked about a file that is to hold a text: whether it is there, and what it holds.
-/

namespace MojoToolchain.Host.Dialogue

/-- There is a file at a path. -/
def isFile (path : Path) : Dialogue Bool := do
  return (← question (.kindOf path)) matches .ok .file

/-- The text of a file. -/
def readText (file : Path) : Dialogue (Except Fault String) := do
  match ← question (.read file) with
  | .error fault => return .error fault
  | .ok bytes =>
    match Text.decode bytes with
    | .error _ => return .error .notText
    | .ok text => return .ok text

/-- The text of a file that holds UTF-8. -/
theorem answered_readText {host : (q : Question) → q.Answer} {file : Path} {bytes : ByteArray}
    {text : String} (h : host (.read file) = .ok bytes) (ht : Text.decode bytes = .ok text) :
  (readText file).answered host = .ok text
  := by
  simp only [readText, Bind.bind, Pure.pure, answered_bind, question, answered, h, ht]

end MojoToolchain.Host.Dialogue
