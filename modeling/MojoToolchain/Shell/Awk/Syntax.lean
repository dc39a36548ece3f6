import MojoToolchain.Decimal.Double
import MojoToolchain.Shell.Syntax

/-!
# Programs over records

An awk program is a row of rules, each a pattern and what is done to the records that it fits, and
of functions.  Rules without a pattern fit every record; some are for the start and the end.
-/

namespace MojoToolchain.Shell.Awk

/-- An operation on numbers. -/
inductive Operation where
  | add
  | sub
  | mul
  | div
  | rem
  | pow
  deriving DecidableEq, Repr

/-- A comparison. -/
inductive Relation where
  | less
  | atMost
  | equal
  | different
  | greater
  | atLeast
  deriving DecidableEq, Repr

/-- A function that every program has. -/
inductive Builtin where
  | length
  | substr
  | index
  | split
  | sub
  | gsub
  | match_
  | sprintf
  | sin
  | cos
  | atan2
  | exp
  | log
  | sqrt
  | int
  | rand
  | srand
  | lower
  | upper
  | system
  | close
  | flush
  deriving DecidableEq, Repr

/-- An expression. -/
inductive Expr where
  | number (x : Double)
  | text (s : Bytes)
  /-- A regular expression, which alone asks whether it finds something in the record. -/
  | regex (s : Bytes)
  | var (name : Bytes)
  /-- An item of a table. -/
  | item (name : Bytes) (keys : List Expr)
  | field (number : Expr)
  | assign (op : Option Operation) (target value : Expr)
  /-- Adds one or takes one away; `after` gives what was there before. -/
  | step (after up : Bool) (target : Expr)
  | choose (condition then_ else_ : Expr)
  | not (e : Expr)
  | negate (e : Expr)
  | plus (e : Expr)
  | both (a b : Expr)
  | either (a b : Expr)
  | compute (op : Operation) (a b : Expr)
  | compare (r : Relation) (a b : Expr)
  | join (a b : Expr)
  | finds (negated : Bool) (a b : Expr)
  /-- A table has an item. -/
  | isIn (keys : List Expr) (name : Bytes)
  | call (name : Bytes) (args : List Expr)
  | builtin (b : Builtin) (args : List Expr)
  /-- Reads the next record of the input. -/
  | getline (target : List Expr)
  /-- Reads the next record of a file, or of what a command writes. -/
  | getlineFrom (ofCommand : Bool) (source : Expr) (target : List Expr)

/-- Where something is written. -/
inductive Output where
  | standard
  | file (append : Bool) (name : Expr)
  | command (text : Expr)

/-- A statement. -/
inductive Stmt where
  | expr (e : Expr)
  | print (args : List Expr) (target : Output)
  | printf (args : List Expr) (target : Output)
  | block (body : List Stmt)
  | branch (condition : Expr) (then_ : Stmt) (else_ : Stmt)
  /-- A loop that asks before each round, and what is done behind each. -/
  | loop (condition : Expr) (behind : Stmt) (body : Stmt)
  /-- A loop that asks behind each round. -/
  | repeat_ (body : Stmt) (condition : Expr)
  | forIn (name table : Bytes) (body : Stmt)
  | next
  | nextFile
  | exit (code : List Expr)
  | return_ (value : List Expr)
  | break_
  | continue_
  /-- Takes an item out of a table, or all of them. -/
  | delete (table : Bytes) (keys : List Expr)

/-- The records that a rule fits. -/
inductive Pattern where
  | start
  | end_
  | always
  | when (e : Expr)
  | between (first last : Expr)

/-- A rule; without a body, the record is written. -/
structure Rule where
  pattern : Pattern
  body : Option Stmt

/-- A function of a program. -/
structure Function where
  name : Bytes
  params : List Bytes
  body : Stmt

/-- A program. -/
structure Program where
  rules : List Rule
  functions : List Function

end MojoToolchain.Shell.Awk
