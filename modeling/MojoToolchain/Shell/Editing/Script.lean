import MojoToolchain.Shell.Expression

/-!
# Editing scripts

An editing script is a row of steps, each a command and the lines to which it is done.  A block is
a step that leads behind its end when its lines are not reached.
-/

namespace MojoToolchain.Shell.Editing

/-- What is looked for in a line: an expression, the number of its groups and how it is looked
for. -/
structure Finder where
  expression : Expression
  groups : Nat
  manner : Manner

/-- A line, or lines, of a text; `found` without a finder looks for what was looked for last. -/
inductive Address where
  | line (number : Nat)
  /-- The line of a number, and every so many lines behind it. -/
  | every (first step : Nat)
  | last
  | found (finder : Option Finder)

/-- Where the lines end that begin at an address. -/
inductive Until where
  | address (a : Address)
  /-- So many lines further on. -/
  | further (lines : Nat)
  /-- The next line whose number is a multiple. -/
  | multiple (factor : Nat)

/-- The lines to which a command is done. -/
inductive Reach where
  | all
  | at (a : Address)
  | from (a : Address) (end_ : Until)

/-- How the letters of a text are changed. -/
inductive Casing where
  | upper
  | lower
  deriving DecidableEq, Repr

/-- A piece of what is put in place of a part. -/
inductive Piece where
  | char (c : Char)
  /-- The text of a group, or with the number zero the whole part. -/
  | group (number : Nat)
  /-- All letters from here on are changed, or none. -/
  | casing (c : Option Casing)
  /-- The next letter is changed. -/
  | casingOnce (c : Casing)
  deriving DecidableEq, Repr

/-- How parts of a line are replaced. -/
structure Replacing where
  finder : Option Finder
  pieces : List Piece
  /-- The first part that is replaced. -/
  nth : Nat
  /-- All parts behind that one are replaced too. -/
  all : Bool
  /-- The line is written when something was replaced. -/
  shows : Bool
  /-- The file to which the line is then written. -/
  file : Option Bytes

/-- A command. -/
inductive Edit where
  /-- Nothing. -/
  | nothing
  /-- Goes on behind a step when the lines are not reached. -/
  | block (behind : Nat)
  | append (text : Bytes)
  | insert (text : Bytes)
  | change (text : Bytes)
  /-- Goes on at a label, or at the end. -/
  | branch (label : Bytes)
  /-- Does so when something has been replaced since the line was read, or with `other` when
  nothing has. -/
  | branchIf (other : Bool) (label : Bytes)
  | delete
  /-- Deletes the first line of what is at hand. -/
  | deleteFirst
  | get
  | getBehind
  | hold
  | holdBehind
  | exchange
  | empty
  /-- Writes what is at hand so that all of it can be seen, in lines of a width. -/
  | list (width : Option Nat)
  | next
  | nextBehind
  | print
  | printFirst
  | number
  | fileName
  | quit (code : Nat)
  | quitSilently (code : Nat)
  | readFile (file : Bytes)
  | readLine (file : Bytes)
  | writeFile (file : Bytes)
  | writeFirst (file : Bytes)
  | replace (r : Replacing)
  | replaceLetters (pairs : List (Char × Char))

/-- A command and the lines to which it is done; with `others`, it is done to all other lines. -/
structure Step where
  reach : Reach
  others : Bool
  edit : Edit

/-- A script: its steps, and the steps of its labels. -/
structure Script where
  steps : Array Step
  labels : List (Bytes × Nat)
  /-- The script opens with a mark that asks for no lines but those that commands write. -/
  quiet : Bool

end MojoToolchain.Shell.Editing
