import MojoToolchain.Shell.Calls

/-!
# Calls with arguments from an input

`xargs` makes arguments of its input: words, lines, or pieces between marks.  A command is called
with so many of them at a time, or with one in place of a text in its own arguments.
-/

namespace MojoToolchain.Shell

/-- How calls are made of an input. -/
structure ArgumentsCall where
  /-- The greatest number of arguments of a call. -/
  size : Option Nat
  /-- The greatest number of lines for a call. -/
  lines : Option Nat
  /-- What is replaced by a line. -/
  place : Option Bytes
  /-- What separates arguments, instead of white space. -/
  mark : Option Char
  /-- A word or line that ends the input. -/
  last : Option Bytes
  /-- The file that is read in place of the input. -/
  file : Option Bytes
  skipsNothing : Bool
  shows : Bool
  command : List Bytes

namespace ArgumentsCall

/-! ### Options -/

/-- The options of a call. -/
def forms : OptionForms where
  flags := "0oprtx"
  valued := "aEILndPs"
  names := [("null", '0'), ("arg-file", 'a'), ("delimiter", 'd'), ("eof", 'e'), ("replace", 'i'),
    ("max-lines", 'l'), ("max-args", 'n'), ("open-tty", 'o'), ("interactive", 'p'),
    ("no-run-if-empty", 'r'), ("max-chars", 's'), ("verbose", 't'), ("exit", 'x'),
    ("max-procs", 'P')]
  loose := "eil"
  inFront := true

/-- The character that a text such as `,`, `\t` or `\x41` writes. -/
def markOf (text : Bytes) : Except String Char :=
  let shown := String.ofList text
  match text with
  | [c] => .ok c
  | '\\' :: 'x' :: digits =>
    .ok (Char.ofNat (digits.foldl (fun n c => 16 * n + Quantity.digitValue c) 0 % 256))
  | '\\' :: '0' :: digits => .ok (ofOctal digits)
  | ['\\', c] =>
    match escapeOf c with
    | some d => .ok d
    | none => .error ("Invalid escape sequence " ++ shown ++ " in input delimiter specification.")
  | _ =>
    .error ("Invalid input delimiter specification " ++ shown ++ ": the delimiter must be either a "
      ++ "single character or an escape sequence starting with \\.")

/-- The number of an option, which has a least value. -/
def numberFor (letter : Char) (least : Nat) (value : Bytes) : Except String Nat :=
  match numberOf value with
  | none =>
    .error ("invalid number \"" ++ String.ofList value ++ "\" for -" ++ String.ofList [letter]
      ++ " option")
  | some n =>
    if n < least then
      .error ("value " ++ String.ofList value ++ " for -" ++ String.ofList [letter]
        ++ " option should be >= " ++ toString least)
    else .ok n.toNat

/-- What is said of an option, by its letter, that takes the place of others which say how much
goes into a call. -/
def warnings (x : ArgumentsCall) (letter : Char) (own : String) : List String :=
  let set : List (Char × String × Bool) :=
    [('L', "--max-lines", x.lines.isSome), ('I', "--replace", x.place.isSome),
     ('n', "--max-args", x.size.isSome)]
  (set.filter fun (other, _, isSet) => other != letter && isSet).map fun (_, name, _) =>
    "warning: options " ++ name ++ " and " ++ own
      ++ " are mutually exclusive, ignoring previous " ++ name ++ " value"

/-- A call with one more option, and warnings. -/
def withOption (x : ArgumentsCall) (letter : Char) (value : Bytes) :
    Except (Bool × String) (ArgumentsCall × List String) := do
  let number (letter : Char) (least : Nat) : Except (Bool × String) Nat :=
    (numberFor letter least value).mapError fun reason => (true, reason)
  match letter with
  | '0' => .ok ({ x with mark := some '\x00' }, [])
  | 'd' => do
    let mark ← (markOf value).mapError fun reason => (false, reason)
    .ok ({ x with mark := some mark }, [])
  | 'E' => .ok ({ x with last := if value.isEmpty then none else some value }, [])
  | 'e' => .ok ({ x with last := if value.isEmpty then none else some value }, [])
  | 'a' => .ok ({ x with file := some value }, [])
  | 'n' => do
    let n ← number 'n' 1
    -- one argument at a time is what a text that is replaced asks for anyway
    if n == 1 && x.place.isSome then .ok (x, [])
    else
      .ok ({ x with size := some n, lines := none, place := none },
        x.warnings 'n' "--max-args/-n")
  | 'L' => do
    let n ← number 'L' 1
    .ok ({ x with lines := some n, size := none, place := none }, x.warnings 'L' "-L")
  | 'l' => do
    let n ← if value.isEmpty then .ok 1 else number 'l' 1
    .ok ({ x with lines := some n, size := none, place := none },
      x.warnings 'L' "--max-lines/-l")
  | 'I' =>
    .ok ({ x with place := some value, size := none, lines := none },
      x.warnings 'I' "--replace/-I/-i")
  | 'i' =>
    let place := if value.isEmpty then ['\x7b', '\x7d'] else value
    .ok ({ x with place := some place, size := none, lines := none },
      x.warnings 'I' "--replace/-I/-i")
  | 'P' => do
    let _ ← number 'P' 0
    .ok (x, [])
  | 's' => do
    let _ ← number 's' 1
    .ok (x, [])
  | 'r' => .ok ({ x with skipsNothing := true }, [])
  | 't' => .ok ({ x with shows := true }, [])
  | _ => .ok (x, [])

/-- The way that a call asks for, and warnings. -/
def ofCall (call : Call) : Except (Bool × String) (ArgumentsCall × List String) :=
  let command := if call.operands.isEmpty then ["echo".toList] else call.operands
  call.options.foldlM (fun (x, said) (letter, value) => do
    let (x, more) ← withOption x letter value
    .ok (x, said ++ more))
    ((⟨none, none, none, none, none, none, false, false, command⟩ : ArgumentsCall), [])

/-! ### Reading -/

/-- What is read of an input, piece by piece. -/
inductive Token where
  | word (text : Bytes)
  /-- A line that counts ends. -/
  | line
  /-- So much has been read that a call may be made. -/
  | pause
  /-- A quote has no end. -/
  | openQuote (mark : Char)

/-- Where the reading of words has come to. -/
inductive Reading where
  | gap
  | inWord
  | quoted (mark : Char)
  | escaped
  deriving DecidableEq

/-- A blank. -/
def isBlank (c : Char) : Bool := c == ' ' || c == '\t'

/-- The words of an input, where quotes and backslashes keep characters from separating; `word` is
the one that is being read, from its end, `seen` says that it is there even if it is empty, and
`first` that it is the first one of its line. -/
def words (x : ArgumentsCall) (at_ : Reading) (word : Bytes) (seen first : Bool)
    (before : Option Char) : Bytes → List Token
  | [] =>
    match at_ with
    | .quoted mark => [.openQuote mark]
    | _ =>
      if word.isEmpty || first && x.last == some word.reverse then []
      else [.word word.reverse]
  | c :: r =>
    let isGap := c == ' ' || ('\t' ≤ c && c ≤ '\r')
    let counted : List Token := if before.any isBlank then [] else [.line]
    let text := word.reverse
    match at_ with
    | .quoted mark =>
      if c == '\n' then [.openQuote mark]
      else if c == mark then words x .inWord word true first (some c) r
      else words x at_ (c :: word) seen first (some c) r
    | .escaped => words x .inWord (c :: word) true first (some c) r
    | _ =>
      if at_ == .gap && isGap then words x .gap [] false first (some c) r
      else if c == '\n' then
        if x.last == some text then []
        else counted ++ .word text :: .pause :: words x .gap [] false true none r
      else if x.place.isNone && isBlank c then
        if x.last == some text then []
        else .word text :: words x .gap [] false false (some c) r
      else
        match c with
        | '\\' => words x .escaped word true first (some c) r
        | '\'' => words x (.quoted c) word true first (some c) r
        | '"' => words x (.quoted c) word true first (some c) r
        | c => words x .inWord (c :: word) true first (some c) r

/-- The pieces of an input. -/
def tokens (x : ArgumentsCall) (input : Bytes) : List Token :=
  match x.mark with
  | some mark => (rowsBy mark input).flatMap fun row => [.line, .word row, .pause]
  | none => words x .gap [] false true none input

/-! ### Calls -/

/-- A text with a part of it replaced. -/
def replaced (old new : Bytes) : Nat → Bytes → Bytes
  | 0, s => s
  | _ + 1, [] => []
  | bound + 1, c :: r =>
    if !old.isEmpty && old.isPrefixOf (c :: r) then
      new ++ replaced old new bound ((c :: r).drop old.length)
    else c :: replaced old new bound r

/-- The calls that come of pieces, and the quote that has no end if there is one; `args` are those
of the call that is being made, from the last one on, with how many there are and how many lines
they come from. -/
def calls (x : ArgumentsCall) (args : List Bytes) (size lines : Nat) (any : Bool) :
    List Token → List (List Bytes) × Option Char
  | [] =>
    if size != 0 || !any && !x.skipsNothing then ([x.command ++ args.reverse], none) else ([], none)
  | token :: rest =>
    let after (call : List Bytes) (rest : List (List Bytes) × Option Char) :
        List (List Bytes) × Option Char :=
      (call :: rest.1, rest.2)
    match token with
    | .openQuote mark => (if size == 0 then [] else [x.command ++ args.reverse], some mark)
    | .line => calls x args size (lines + 1) any rest
    | .pause =>
      if x.lines.any (· ≤ lines) then
        after (x.command ++ args.reverse) (calls x [] 0 0 true rest)
      else calls x args size lines any rest
    | .word text =>
      let arg := text.takeWhile (· != '\x00')
      if x.size.any (· ≤ size) then
        after (x.command ++ args.reverse) (calls x [arg] 1 lines true rest)
      else calls x (arg :: args) (size + 1) lines any rest

/-- The calls with one piece each, which takes the place of a text. -/
def callsInPlace (x : ArgumentsCall) (place : Bytes) : List Token → List (List Bytes) × Option Char
  | [] => ([], none)
  | .openQuote mark :: _ => ([], some mark)
  | .word text :: rest =>
    let item := text.takeWhile (· != '\x00')
    let args := x.command.tail.map fun arg => replaced place item (arg.length + 1) arg
    let (more, open_) := callsInPlace x place rest
    ((x.command.take 1 ++ args) :: more, open_)
  | _ :: rest => callsInPlace x place rest

/-- The calls that come of an input, and the quote that has no end if there is one. -/
def callsOf (x : ArgumentsCall) (input : Bytes) : List (List Bytes) × Option Char :=
  match x.place with
  | some place => x.callsInPlace place (x.tokens input)
  | none => x.calls [] 0 0 false (x.tokens input)

end ArgumentsCall

/-- The calls that come of arguments and an input, whether they are shown, and the quote without an
end; or the state at the end when there are none. -/
def argumentsOf (args : List Bytes) (s : State) :
    Except State ((List (List Bytes) × Bool × Option Char) × State) :=
  match Call.read ArgumentsCall.forms args with
  | .error reason => .error (misused 1 reason s)
  | .ok call =>
    match ArgumentsCall.ofCall call with
    | .error (true, reason) => .error (misused 1 reason s)
    | .error (false, reason) => .error (s.report 1 reason)
    | .ok (x, said) =>
      let s := said.foldl (fun s reason => s.report 0 reason) s
      let given : Except State (Bytes × State) :=
        match x.file with
        | none =>
          let (text, s) := drain s
          .ok (text, s)
        | some file =>
          match fileText file s with
          | (.ok text, s) => .ok (text, s)
          | (.error fault, s) =>
            .error (s.report 1
              ("Cannot open input file " ++ Quoting.always file ++ ": " ++ reasonOf fault))
      given.map fun (text, s) =>
        let (calls, open_) := x.callsOf text
        let s :=
          if x.mark.isNone && text.contains '\x00' then
            s.report 0 ("WARNING: a NUL character occurred in the input.  It cannot be passed "
              ++ "through in the argument list.  Did you mean to use the --null option?")
          else s
        ((calls, x.shows, open_), s)

/-- A quote that has no end. -/
def openQuoteMessage (mark : Char) : String :=
  "unmatched " ++ (if mark == '"' then "double" else "single")
    ++ " quote; by default quotes are special to xargs unless you use the -0 option"

end MojoToolchain.Shell
