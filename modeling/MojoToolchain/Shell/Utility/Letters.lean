import MojoToolchain.Shell.Utility.Basic

/-!
# Arguments of commands of the shell

The commands that a shell has itself read their options and numbers in a way of their own, and say
so when an argument is none.
-/

namespace MojoToolchain.Shell

/-- Reads the options in front of the arguments of a command of the shell; or says what is wrong
with them. -/
def readLetters (flags valued : String) : List Bytes → Except String Call
  | [] => .ok ⟨[], []⟩
  | ['-', '-'] :: rest => .ok ⟨[], rest⟩
  | ('-' :: c :: more) :: rest => do
    let (options, open_) ← inArgument (c :: more)
    let add (call : Call) : Call := { call with options := options ++ call.options }
    match open_, rest with
    | none, rest => return add (← readLetters flags valued rest)
    | some letter, value :: rest =>
      return add ((← readLetters flags valued rest).withOption letter value)
    | some letter, [] => .error ("No arg for -" ++ String.ofList [letter] ++ " option")
  | rest => .ok ⟨[], rest⟩
where
  /-- The options of one argument, and a letter that waits for a value. -/
  inArgument : Bytes → Except String (List (Char × Bytes) × Option Char)
    | [] => .ok ([], none)
    | c :: r =>
      if valued.toList.contains c then
        .ok (if r.isEmpty then ([], some c) else ([(c, r)], none))
      else if flags.toList.contains c then do
        let (more, open_) ← inArgument r
        return ((c, []) :: more, open_)
      else .error ("Illegal option -" ++ String.ofList [c])

/-- A command of the shell with options. -/
def withLetters (flags valued : String) (f : Call → State → State) : Utility := fun args s =>
  match readLetters flags valued args with
  | .ok call => f call s
  | .error reason => s.abort 2 reason

/-- A number in an argument of a command of the shell; another text ends that. -/
def withDigits (arg : Bytes) (s : State) (f : Nat → State) : State :=
  match naturalOf arg with
  | some n => f n
  | none => s.abort 2 ("Illegal number: " ++ String.ofList arg)

/-- The number that the first argument is, or another one without arguments. -/
def withNumber (args : List Bytes) (other : Nat) (s : State) (f : Nat → State) : State :=
  match args with
  | [] => f other
  | arg :: _ => withDigits arg s f

end MojoToolchain.Shell
