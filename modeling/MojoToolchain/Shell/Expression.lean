import MojoToolchain.Shell.Pattern

/-!
# Regular expressions

An `Expression` describes parts of texts.  `Expression.parse` reads the basic and the extended
form.  `find?` gives the first place where a part starts and, of the parts there, the longest; of
the ways to divide a part among its pieces, the one that comes first: alternatives are tried in
order, and what is repeated goes on as long as it can.
-/

namespace MojoToolchain.Shell

/-- A place between two characters. -/
inductive Boundary where
  | lineStart
  | lineEnd
  | textStart
  | textEnd
  /-- At the start or at the end of a word. -/
  | word
  | noWord
  | wordStart
  | wordEnd
  deriving DecidableEq, Repr

/-- A regular expression. -/
inductive Expression where
  | empty
  | char (c : Char)
  | any
  | oneOf (set : CharSet)
  | boundary (b : Boundary)
  | append (a b : Expression)
  | either (a b : Expression)
  /-- Repeats at least `least` and at most `most` times. -/
  | repeated (a : Expression) (least : Nat) (most : Option Nat)
  | group (number : Nat) (a : Expression)
  /-- The text of a group. -/
  | back (number : Nat)
  deriving Repr

/-- A place in a text: what is left of it, how much that is and the character before, and the texts
of the groups behind which the place lies. -/
structure Match where
  rest : Bytes
  left : Nat
  before : Option Char
  groups : List (Nat × Bytes)
  deriving DecidableEq, Repr

/-- How an expression is looked for. -/
structure Manner where
  /-- The characters that are alike. -/
  same : Char → Char → Bool
  /-- Every line of a text has a start and an end. -/
  byLines : Bool

namespace Expression

/-! ### Finding -/

/-- Characters are alike only when they are equal. -/
def exactly : Manner := ⟨fun a b => a == b, false⟩

/-- Characters are alike when they differ in nothing but case. -/
def ignoringCase : Manner := ⟨fun a b => a.toLower == b.toLower, false⟩

/-- The manner for a choice about case. -/
def manner (ignoreCase : Bool) : Manner := if ignoreCase then ignoringCase else exactly

/-- A character of a word. -/
def isWordChar (c : Char) : Bool := c.isAlphanum || c == '_'

/-- A place is a boundary. -/
def holdsAt (byLines : Bool) (b : Boundary) (m : Match) : Bool :=
  let inWord (c : Option Char) : Bool := c.any isWordChar
  let before := inWord m.before
  let behind := inWord m.rest.head?
  match b with
  | .lineStart => m.before.isNone || (byLines && m.before == some '\n')
  | .lineEnd => m.rest.isEmpty || (byLines && m.rest.head? == some '\n')
  | .textStart => m.before.isNone
  | .textEnd => m.rest.isEmpty
  | .word => before != behind
  | .noWord => before == behind
  | .wordStart => !before && behind
  | .wordEnd => before && !behind

/-- Ways that lead to places where none before them leads; `seen` has a bit for each place. -/
def distinct (seen : Nat) : List Match → List Match
  | [] => []
  | m :: rest =>
    if seen.testBit m.left then distinct seen rest
    else m :: distinct (seen ||| (1 <<< m.left)) rest

/-- Ways in the order in which they come, one for each place unless `all` are wanted. -/
def arranged (all : Bool) (ways : List Match) : List Match := if all then ways else distinct 0 ways

/-- Repeats a step at most so many times, as often as it goes first, in front of other ways. -/
def iterate (step : Match → List Match) : Nat → Match → List Match → List Match
  | 0, m, others => m :: others
  | times + 1, m, others =>
    (step m).foldr (fun next others =>
      if next.left < m.left then iterate step times next others else others) (m :: others)

/-- Repeats a step as often as it goes, through each place once; the places where ways have led, and
the ways, the last one first. -/
def exhaust (step : Match → List Match) : Nat → Match → Nat × List Match → Nat × List Match
  | 0, _, found => found
  | bound + 1, m, found =>
    if found.1.testBit m.left then found
    else
      let (seen, ways) := (step m).foldl (fun found next => exhaust step bound next found)
        (found.1 ||| (1 <<< m.left), found.2)
      (seen, m :: ways)

/-- Repeats a step exactly so many times. -/
def insist (all : Bool) (step : Match → List Match) : Nat → List Match → List Match
  | 0, ways => ways
  | n + 1, ways => insist all step n (arranged all (ways.flatMap step))

/-- The ways in which an expression describes the front of a text, in the order in which they are
tried; `all` says that ways to the same place count as different. -/
def ways (all : Bool) (h : Manner) : Expression → Match → List Match
  | empty, m => [m]
  | char d, m =>
    match m.rest with
    | c :: r => if h.same c d then [⟨r, m.left - 1, some c, m.groups⟩] else []
    | [] => []
  | any, m =>
    match m.rest with
    | c :: r => if h.byLines && c == '\n' then [] else [⟨r, m.left - 1, some c, m.groups⟩]
    | [] => []
  | oneOf set, m =>
    match m.rest with
    | c :: r =>
      if h.byLines && set.outside && c == '\n' then []
      else if set.holds c || h.same c c.toUpper && set.holds c.toUpper
          || h.same c c.toLower && set.holds c.toLower then [⟨r, m.left - 1, some c, m.groups⟩]
      else []
    | [] => []
  | boundary b, m => if holdsAt h.byLines b m then [m] else []
  | append a b, m =>
    match ways all h a m with
    | [next] => ways all h b next
    | nexts => arranged all (nexts.flatMap (ways all h b))
  | either a b, m => arranged all (ways all h a m ++ ways all h b m)
  | repeated a least most, m =>
    let step := ways all h a
    let starts := insist all step least [m]
    match most with
    | some most =>
      arranged all (starts.flatMap fun start => iterate step (most - least) start [])
    | none =>
      if all then arranged all (starts.flatMap fun start => iterate step start.left start [])
      else
        let (_, found) :=
          starts.foldl (fun found start => exhaust step (start.left + 2) start found) (0, [])
        arranged all found.reverse
  | group n a, m =>
    (ways all h a m).map fun next =>
      { next with groups := (n, m.rest.take (m.left - next.left)) :: next.groups }
  | back n, m =>
    match m.groups.lookup n with
    | none => []
    | some text =>
      let front := m.rest.take text.length
      if front.length == text.length && (front.zip text).all fun (c, d) => h.same c d then
        [⟨m.rest.drop text.length, m.left - text.length, front.getLast? <|> m.before, m.groups⟩]
      else []

/-- An expression asks for the text of a group. -/
def asksBack : Expression → Bool
  | back _ => true
  | append a b => a.asksBack || b.asksBack
  | either a b => a.asksBack || b.asksBack
  | repeated a _ _ => a.asksBack
  | group _ a => a.asksBack
  | _ => false

/-- The longest way at the front of a text, behind a character if there is one. -/
def longest? (h : Manner) (e : Expression) (before : Option Char) (s : Bytes) : Option Match :=
  (e.ways e.asksBack h ⟨s, s.length, before, []⟩).foldl (fun best m =>
    match best with
    | some b => if m.left < b.left then some m else best
    | none => some m) none

/-- The first part of a text that an expression describes: what stands before it, the part
itself, and what is left. -/
def find? (h : Manner) (e : Expression) (before : Option Char) (s : Bytes) :
    Option (Bytes × Bytes × Match) :=
  match e.longest? h before s, s with
  | some m, s => some ([], s.take (s.length - m.left), m)
  | none, [] => none
  | none, c :: r => (find? h e (some c) r).map fun (before, part, m) => (c :: before, part, m)

/-- An expression describes a part of a text. -/
def isFound (h : Manner) (e : Expression) (s : Bytes) : Bool := (e.find? h none s).isSome

/-! ### Reading -/

/-- A form in which expressions are written. -/
structure Form where
  /-- Groups, alternatives and repetitions are written without backslashes. -/
  extended : Bool
  /-- Signs that make no sense where they stand are no faults. -/
  lenient : Bool
  /-- A backslash in a set lets any character be a member. -/
  escapes : Bool
  deriving DecidableEq, Repr

/-- The basic form, or the extended one. -/
def form (extended : Bool) : Form := ⟨extended, false, false⟩

/-- The extended form without faults in its repetitions. -/
def lenientForm : Form := ⟨true, true, false⟩

/-- The extended form with backslashes in sets. -/
def escapedForm : Form := ⟨true, true, true⟩

/-- Decimal digits, as a number. -/
def numberFrom (digits : Bytes) : Nat := digits.foldl (fun n c => 10 * n + (c.toNat - 48)) 0

/-- Reads how often something is repeated, after the opening brace, up to `close`. -/
def readTimes (close : Bytes) (s : Bytes) : Except String (Nat × Option Nat × Bytes) :=
  let low := s.takeWhile Char.isDigit
  let rest := s.drop low.length
  let (high, rest) : Option Bytes × Bytes :=
    match rest with
    | ',' :: r => (some (r.takeWhile Char.isDigit), r.dropWhile Char.isDigit)
    | r => (none, r)
  let least := numberFrom low
  let most : Option Nat :=
    match high with
    | none => some least
    | some [] => none
    | some digits => some (numberFrom digits)
  if close.isPrefixOf rest && !(low.isEmpty && high.isNone) && most.all (least ≤ ·) then
    if 32767 < max least (most.getD 0) then .error "Regular expression too big"
    else .ok (least, most, rest.drop close.length)
  else if rest.any (close.getLast? == some ·) then .error "Invalid content of \\\x7b\\\x7d"
  else .error "Unmatched \\\x7b"

/-- A sign that repeats what stands before it, and the text after it. -/
def readRepetition (x : Form) (s : Bytes) : Except String (Option (Nat × Option Nat × Bytes)) :=
  match x.extended, s with
  | _, '*' :: r => .ok (some (0, none, r))
  | true, '+' :: r => .ok (some (1, none, r))
  | true, '?' :: r => .ok (some (0, some 1, r))
  | true, '\x7b' :: r =>
    match readTimes ['\x7d'] r with
    | .ok times => .ok (some times)
    | .error reason => if x.lenient then .ok none else .error reason
  | false, '\\' :: '+' :: r => .ok (some (1, none, r))
  | false, '\\' :: '?' :: r => .ok (some (0, some 1, r))
  | false, '\\' :: '\x7b' :: r => return some (← readTimes ['\\', '\x7d'] r)
  | _, _ => .ok none

/-- The sign between alternatives, dropped. -/
def dropBar (x : Form) : Bytes → Option Bytes
  | '|' :: r => if x.extended then some r else none
  | '\\' :: '|' :: r => if x.extended then none else some r
  | _ => none

/-- The sign that opens a group, dropped. -/
def dropOpening (x : Form) : Bytes → Option Bytes
  | '(' :: r => if x.extended then some r else none
  | '\\' :: '(' :: r => if x.extended then none else some r
  | _ => none

/-- The sign that closes a group, dropped. -/
def dropClosing (x : Form) : Bytes → Option Bytes
  | ')' :: r => if x.extended then some r else none
  | '\\' :: ')' :: r => if x.extended then none else some r
  | _ => none

/-- The set of the characters of words, or of all others. -/
def wordSet (outside : Bool) : CharSet :=
  ⟨outside, [('0', '9'), ('A', 'Z'), ('_', '_'), ('a', 'z')]⟩

/-- The set of the characters that are white space, or of all others. -/
def spaceSet (outside : Bool) : CharSet := ⟨outside, [('\t', '\r'), (' ', ' ')]⟩

/-- What a character after a backslash stands for. -/
def escaped (c : Char) : Expression :=
  match c with
  | 'w' => oneOf (wordSet false)
  | 'W' => oneOf (wordSet true)
  | 's' => oneOf (spaceSet false)
  | 'S' => oneOf (spaceSet true)
  | 'b' => boundary .word
  | 'B' => boundary .noWord
  | '<' => boundary .wordStart
  | '>' => boundary .wordEnd
  | '`' => boundary .textStart
  | '\'' => boundary .textEnd
  | c => if c.isDigit && c != '0' then back (c.toNat - 48) else char c

/-- Where in a sequence a piece stands. -/
inductive Standing where
  | start
  /-- Behind the mark of the start of a line, which cannot be repeated. -/
  | anchored
  | inside
  deriving DecidableEq, Repr

/-- Applies the signs that repeat what stands before them. -/
def applyRepetitions (x : Form) : Nat → Expression → Bytes →
    Except String (Expression × Bytes)
  | 0, e, s => .ok (e, s)
  | bound + 1, e, s => do
    match ← readRepetition x s with
    | some (least, most, rest) => applyRepetitions x bound (repeated e least most) rest
    | none => .ok (e, s)

/-- The text opens with a sign that repeats, but nothing stands in front of it. -/
def opensWithRepetition (x : Form) (s : Bytes) : Bool :=
  match x.extended, s with
  | true, c :: _ => ['*', '+', '?', '\x7b'].contains c
  | false, '\\' :: '\x7b' :: _ => true
  | _, _ => false

/-- Reads one character, set or sign. -/
def readOne (x : Form) (at_ : Standing) (s : Bytes) : Except String (Expression × Bytes) :=
  match s with
  | [] => .error "Premature end of regular expression"
  | '.' :: r => .ok (any, r)
  | '[' :: r =>
    match CharSet.read x.escapes ['^'] r with
    | some (set, rest) =>
      if set.ranges.any fun (low, high) => high < low then .error "Invalid range end"
      else .ok (oneOf set, rest)
    | none => .error "Unmatched [, [^, [:, [., or [="
  | '^' :: r => .ok (if at_ == .start || x.extended then boundary .lineStart else char '^', r)
  | '$' :: r => .ok (boundary .lineEnd, r)
  | ['\\'] => .error "Trailing backslash"
  | '\\' :: c :: r => .ok (escaped c, r)
  | c :: r => .ok (char c, r)

/-- A dollar sign that stands inside a sequence of the basic form is a character. -/
def isPlainDollar (x : Form) (s : Bytes) : Bool :=
  match s with
  | '$' :: r =>
    !x.extended && !r.isEmpty && (dropBar x r).isNone && (dropClosing x r).isNone
  | _ => false

mutual

/-- Reads alternatives; `groups` counts the groups that are open or closed. -/
def read (x : Form) (bound groups : Nat) (s : Bytes) :
    Except String (Expression × Nat × Bytes) :=
  match bound with
  | 0 => .error "Memory exhausted"
  | bound + 1 => do
    let (a, groups, rest) ← readSequence x bound groups .start s
    match dropBar x rest with
    | some rest => do
      let (b, groups, rest) ← read x bound groups rest
      .ok (either a b, groups, rest)
    | none => .ok (a, groups, rest)

/-- Reads a sequence. -/
def readSequence (x : Form) (bound groups : Nat) (at_ : Standing) (s : Bytes) :
    Except String (Expression × Nat × Bytes) :=
  match bound with
  | 0 => .error "Memory exhausted"
  | bound + 1 =>
    if s.isEmpty || (dropBar x s).isSome || (dropClosing x s).isSome then
      .ok (empty, groups, s)
    else if at_ != .inside && !x.lenient && opensWithRepetition x s then
      .error "Invalid preceding regular expression"
    else do
      let (a, groups, rest) ←
        if at_ != .inside && opensWithRepetition x s then .ok (empty, groups, s)
        else
          match dropOpening x s with
          | some rest => do
            let number := groups + 1
            let (a, groups, rest) ← read x bound number rest
            match dropClosing x rest with
            | some rest => .ok (group number a, groups, rest)
            | none => .error "Unmatched ( or \\("
          | none => do
            let (a, rest) ←
              if isPlainDollar x s then .ok (char '$', s.drop 1)
              else readOne x at_ s
            .ok (a, groups, rest)
      -- a star behind the start of a line is a character of the basic form
      let anchored := at_ == .start && !x.lenient && s.head? == some '^'
      let (a, rest) ←
        if anchored then .ok (a, rest) else applyRepetitions x (rest.length + 1) a rest
      let next : Standing := if anchored then .anchored else .inside
      let (b, groups, rest) ← readSequence x bound groups next rest
      .ok (append a b, groups, rest)

end

/-- The greatest number of a group that an expression asks for. -/
def greatestBack : Expression → Nat
  | back n => n
  | append a b => max a.greatestBack b.greatestBack
  | either a b => max a.greatestBack b.greatestBack
  | repeated a _ _ => a.greatestBack
  | group _ a => a.greatestBack
  | _ => 0

/-- The expression that a text is, and the number of its groups; or what is wrong with it. -/
def parse (x : Form) (s : Bytes) : Except String (Expression × Nat) := do
  let (e, groups, rest) ← read x (4 * s.length + 8) 0 s
  if !rest.isEmpty then .error "Unmatched ) or \\)"
  else if groups < e.greatestBack then .error "Invalid back reference"
  else .ok (e, groups)

end Expression

end MojoToolchain.Shell
