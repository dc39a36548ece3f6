/-!
# Shell scripts

A script is a `Command`.  Its words are made of `Piece`s, which are expanded when the command is
run.  Text is a list of bytes, each written as the character with its number.
-/

namespace MojoToolchain.Shell

/-- Bytes, each written as the character with its number. -/
abbrev Bytes := List Char

mutual

/-- A piece of a word; a quoted piece is not split into words. -/
inductive Piece where
  | literal (chars : Bytes) (quoted : Bool)
  | parameter (name : Bytes) (use : Use) (quoted : Bool)
  /-- The output of a command. -/
  | output (command : Command) (quoted : Bool)
  /-- The value of an arithmetic expression. -/
  | arithmetic (word : List Piece) (quoted : Bool)

/-- What is made of the value of a parameter.  With `orEmpty`, an empty value counts as none. -/
inductive Use where
  | value
  | length
  /-- The value, or a word when there is none. -/
  | orElse (orEmpty : Bool) (word : List Piece)
  /-- The value, or a word, which becomes the value, when there is none. -/
  | orAssign (orEmpty : Bool) (word : List Piece)
  /-- The value; when there is none, the shell ends with a word as its message. -/
  | orFail (orEmpty : Bool) (word : List Piece)
  /-- A word when there is a value, and nothing otherwise. -/
  | whenSet (orEmpty : Bool) (word : List Piece)
  /-- The value without what a pattern describes at its start or at its end. -/
  | trim (atEnd longest : Bool) (pattern : List Piece)
  /-- Something that no shell knows. -/
  | unknown

/-- Where a stream of a command is directed. -/
inductive Target where
  | readFile (word : List Piece)
  | writeFile (word : List Piece)
  /-- Into a file that may hold something, whatever the options of the shell are. -/
  | replaceFile (word : List Piece)
  | appendFile (word : List Piece)
  /-- From a text in the script. -/
  | text (word : List Piece)
  /-- To where another stream goes, or where it comes from; the word is the number of that, or a
  hyphen, which closes the stream. -/
  | stream (word : List Piece)
  /-- From a file, and into it; the file may not be there yet. -/
  | openFile (word : List Piece)

/-- A command. -/
inductive Command where
  | nothing
  /-- Assignments, words and directions of streams, and the line on which the command stands. -/
  | simple (assignments : List (Bytes × List Piece)) (words : List (List Piece))
      (directions : List (Nat × Target)) (line : Nat)
  | pipe (first second : Command)
  | negate (command : Command)
  /-- Leaves a command to itself. -/
  | background (command : Command)
  | both (first second : Command)
  | either (first second : Command)
  | sequence (first second : Command)
  | branch (condition then_ else_ : Command)
  /-- Repeats while the condition holds, or until it does. -/
  | loop (until_ : Bool) (condition body : Command)
  /-- Goes through words, or through the arguments. -/
  | each (name : Bytes) (words : Option (List (List Piece))) (body : Command)
  /-- The first case with a pattern that describes a word. -/
  | choose (word : List Piece) (cases : List (List (List Piece) × Command))
  /-- Gives a name to a command. -/
  | define (name : Bytes) (body : Command)
  | group (body : Command) (directions : List (Nat × Target))
  | subshell (body : Command) (directions : List (Nat × Target))

end

/-- A word of a script. -/
abbrev Word := List Piece

/-- A stream is directed somewhere. -/
abbrev Direction := Nat × Target

/-- A piece is the output of a command. -/
def Piece.isOutput : Piece → Bool
  | .output _ _ => true
  | _ => false

instance : Inhabited Command := ⟨.nothing⟩

end MojoToolchain.Shell
