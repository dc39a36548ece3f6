import MojoToolchain.Shell.Awk.Scanner

/-!
# Reading expressions

Expressions are read from tokens.  Operators bind in levels: alternatives, conditions, items
of tables, searches, comparisons, texts side by side, sums, products, signs, powers and steps.
-/

namespace MojoToolchain.Shell.Awk

/-- Why tokens are no program. -/
inductive ParseFault where
  /-- The tokens that are left make no sense. -/
  | near (rest : Tokens)
  /-- A block does not end. -/
  | openBlock
  | message (row : Nat) (text : String)

/-- What is read with the tokens behind it; or why there is nothing. -/
abbrev Parsed := Except ParseFault

/-! ### Tokens -/

/-- The first token is a sign. -/
def atSign (s : String) : Tokens → Bool
  | (_, .sign t) :: _ => t == s
  | _ => false

/-- The first token is a word. -/
def atWord (w : String) : Tokens → Bool
  | (_, .word t) :: _ => t == w
  | _ => false

/-- Drops a sign. -/
def dropSign (s : String) (ts : Tokens) : Except ParseFault Tokens :=
  if atSign s ts then .ok ts.tail else .error (.near ts)

/-- Drops the parenthesis that closes a list. -/
def dropClosing (ts : Tokens) : Except ParseFault Tokens :=
  match ts with
  | [] => .error (.near [])
  | (row, t) :: rest =>
    if t == .sign ")" then .ok rest else .error (.message row ("missing ) near " ++ t.shown))

/-- Drops the ends of lines. -/
def skipLines (ts : Tokens) : Tokens :=
  ts.dropWhile fun (_, t) => t == .newLine

/-- Drops the ends of lines and semicolons. -/
def skipEnds (ts : Tokens) : Tokens :=
  ts.dropWhile fun (_, t) => t == .newLine || t == .sign ";"

/-- The end of a simple statement: a semicolon or the end of a line, or what closes a block. -/
def endStatement (ts : Tokens) : Except ParseFault Tokens :=
  match ts with
  | [] => .ok []
  | (_, t) :: rest =>
    if t == .newLine || t == .sign ";" then .ok rest
    else if t == .sign "\x7d" then .ok ts
    else .error (.near ts)

/-- Nothing more belongs to a list of what is written. -/
def endsList (ts : Tokens) : Bool :=
  match ts with
  | [] => true
  | (_, t) :: _ =>
    t == .newLine || [";", "\x7d", ">", ">>", "|"].any fun s => t == .sign s

/-- Something can be assigned to an expression. -/
def isTarget : Expr → Bool
  | .var _ => true
  | .item _ _ => true
  | .field _ => true
  | _ => false

/-- The operation of a sign that assigns; nothing inside stands for a plain assignment. -/
def assignment : Tokens → Option (Option Operation)
  | (_, .sign s) :: _ =>
    match s with
    | "=" => some none
    | "+=" => some (some .add)
    | "-=" => some (some .sub)
    | "*=" => some (some .mul)
    | "/=" => some (some .div)
    | "%=" => some (some .rem)
    | "^=" => some (some .pow)
    | _ => none
  | _ => none

/-- A token can open an expression that stands right behind another one. -/
def opensJoined : Tokens → Bool
  | (_, t) :: _ =>
    match t with
    | .number _ => true
    | .text _ => true
    | .regex _ => true
    | .name _ => true
    | .function _ => true
    | .builtin _ _ => true
    | .sign s => ["$", "(", "!", "++", "--"].contains s
    | _ => false
  | [] => false

/-- Where an expression stands. -/
structure Place where
  /-- A greater-than sign opens the name of a file. -/
  inPrint : Bool
  /-- The word `in` belongs to a loop. -/
  inLoop : Bool

/-- An expression on its own. -/
def Place.free : Place := ⟨false, false⟩

/-- The operator of a level at the front: what it makes of both sides. -/
def operatorAt (x : Place) (level : Nat) (ts : Tokens) : Option (Expr → Expr → Expr) :=
  match ts with
  | (_, .sign s) :: _ =>
    match level, s with
    | 0, "||" => some .either
    | 1, "&&" => some .both
    | 3, "~" => some (.finds false)
    | 3, "!~" => some (.finds true)
    | 4, "<" => some (.compare .less)
    | 4, "<=" => some (.compare .atMost)
    | 4, "==" => some (.compare .equal)
    | 4, "!=" => some (.compare .different)
    | 4, ">=" => some (.compare .atLeast)
    | 4, ">" => if x.inPrint then none else some (.compare .greater)
    | 6, "+" => some (.compute .add)
    | 6, "-" => some (.compute .sub)
    | 7, "*" => some (.compute .mul)
    | 7, "/" => some (.compute .div)
    | 7, "%" => some (.compute .rem)
    | _, _ => none
  | _ => none

/-- A function takes so many arguments. -/
def takes (b : Builtin) (n : Nat) : Bool :=
  match b with
  | .length => n ≤ 1
  | .substr => n == 2 || n == 3
  | .index => n == 2
  | .split => n == 2 || n == 3
  | .sub => n == 2 || n == 3
  | .gsub => n == 2 || n == 3
  | .match_ => n == 2
  | .sprintf => 1 ≤ n
  | .atan2 => n == 2
  | .rand => n == 0
  | .srand => n ≤ 1
  | .flush => n ≤ 1
  | _ => n == 1

/-! ### Expressions -/

mutual

/-- Reads an expression, which may assign. -/
def parseExpr (x : Place) (bound : Nat) (ts : Tokens) : Parsed (Expr × Tokens) :=
  match bound with
  | 0 => .error (.near ts)
  | bound + 1 => do
    let (a, rest) ← parseLevel x bound 0 ts
    let (a, rest) ←
      if atSign "?" rest then do
        let (b, rest) ← parseExpr x bound (skipLines rest.tail)
        let rest ← dropSign ":" (skipLines rest)
        let (c, rest) ← parseExpr x bound (skipLines rest)
        .ok (Expr.choose a b c, rest)
      else .ok (a, rest)
    match isTarget a, assignment rest with
    | true, some op => do
      let (b, rest) ← parseExpr x bound (skipLines rest.tail)
      .ok (.assign op a b, rest)
    | _, _ => .ok (a, rest)

/-- Reads an expression of a level. -/
def parseLevel (x : Place) (bound level : Nat) (ts : Tokens) : Parsed (Expr × Tokens) :=
  match bound with
  | 0 => .error (.near ts)
  | bound + 1 => do
    if level == 8 then parseSigned bound ts
    else
      let (a, rest) ← parseLevel x bound (level + 1) ts
      parseTail x bound level a rest

/-- Reads what follows an expression on a level. -/
def parseTail (x : Place) (bound level : Nat) (a : Expr) (ts : Tokens) : Parsed (Expr × Tokens) :=
  match bound with
  | 0 => .error (.near ts)
  | bound + 1 => do
    match operatorAt x level ts with
    | some f => do
      let rest := if level ≤ 1 then skipLines ts.tail else ts.tail
      let (b, rest) ← parseLevel x bound (level + 1) rest
      -- what is assigned to a target on the right belongs to it
      match isTarget b && level ≤ 3, assignment rest with
      | true, some op => do
        let (c, rest) ← parseExpr x bound (skipLines rest.tail)
        parseTail x bound level (f a (.assign op b c)) rest
      | _, _ => parseTail x bound level (f a b) rest
    | none =>
      if level == 2 && atWord "in" ts && !x.inLoop then
        match ts.tail with
        | (_, .name n) :: rest => parseTail x bound level (.isIn [a] n) rest
        | rest => .error (.near rest)
      else if level == 4 && atSign "|" ts && atWord "getline" ts.tail then do
        let (target, rest) ← parseTarget bound ts.tail.tail
        parseTail x bound level (.getlineFrom true a target) rest
      else if level == 5 && opensJoined ts then do
        let (b, rest) ← parseLevel x bound 6 ts
        parseTail x bound level (.join a b) rest
      else .ok (a, ts)

/-- Reads an expression with signs in front. -/
def parseSigned (bound : Nat) (ts : Tokens) : Parsed (Expr × Tokens) :=
  match bound with
  | 0 => .error (.near ts)
  | bound + 1 => do
    if atSign "!" ts then do
      let (a, rest) ← parseSigned bound ts.tail
      .ok (.not a, rest)
    else if atSign "-" ts then do
      let (a, rest) ← parseSigned bound ts.tail
      .ok (.negate a, rest)
    else if atSign "+" ts then do
      let (a, rest) ← parseSigned bound ts.tail
      .ok (.plus a, rest)
    else
      let (a, rest) ← parseStep bound ts
      if atSign "^" rest then do
        let (b, rest) ← parseSigned bound rest.tail
        .ok (.compute .pow a b, rest)
      else .ok (a, rest)

/-- Reads an expression with a step in front of it or behind it. -/
def parseStep (bound : Nat) (ts : Tokens) : Parsed (Expr × Tokens) :=
  match bound with
  | 0 => .error (.near ts)
  | bound + 1 => do
    let up := atSign "++" ts
    if up || atSign "--" ts then do
      let (a, rest) ← parsePrimary bound ts.tail
      if isTarget a then .ok (.step false up a, rest) else .error (.near ts)
    else
      let (a, rest) ← parsePrimary bound ts
      let up := atSign "++" rest
      if isTarget a && (up || atSign "--" rest) then .ok (.step true up a, rest.tail)
      else .ok (a, rest)

/-- Reads what a record is read into, if anything is named. -/
def parseTarget (bound : Nat) (ts : Tokens) : Parsed (List Expr × Tokens) :=
  match bound with
  | 0 => .error (.near ts)
  | bound + 1 =>
    match ts with
    | (_, .name _) :: _ => do
      let (a, rest) ← parsePrimary bound ts
      .ok ([a], rest)
    | ts =>
      if atSign "$" ts then do
        let (a, rest) ← parsePrimary bound ts
        .ok ([a], rest)
      else .ok ([], ts)

/-- Reads expressions with commas between them. -/
def parseList (x : Place) (bound : Nat) (ts : Tokens) : Parsed (List Expr × Tokens) :=
  match bound with
  | 0 => .error (.near ts)
  | bound + 1 => do
    let (a, rest) ← parseExpr x bound ts
    if atSign "," rest then do
      let (more, rest) ← parseList x bound (skipLines rest.tail)
      .ok (a :: more, rest)
    else .ok ([a], rest)

/-- Reads expressions in parentheses, behind the opening one. -/
def parseArgs (bound : Nat) (ts : Tokens) : Parsed (List Expr × Tokens) :=
  match bound with
  | 0 => .error (.near ts)
  | bound + 1 => do
    if atSign ")" ts then .ok ([], ts.tail)
    else
      let (args, rest) ← parseList .free bound (skipLines ts)
      .ok (args, ← dropClosing (skipLines rest))

/-- Reads an expression that nothing divides. -/
def parsePrimary (bound : Nat) (ts : Tokens) : Parsed (Expr × Tokens) :=
  match bound with
  | 0 => .error (.near ts)
  | bound + 1 =>
    match ts with
    | [] => .error (.near [])
    | (_, .number n) :: rest => .ok (.number n, rest)
    | (_, .text s) :: rest => .ok (.text s, rest)
    | (_, .regex s) :: rest => .ok (.regex s, rest)
    | (_, .name n) :: rest =>
      if atSign "[" rest then do
        let (keys, rest) ← parseList .free bound (skipLines rest.tail)
        .ok (.item n keys, ← dropSign "]" (skipLines rest))
      else .ok (.var n, rest)
    | (_, .function n) :: rest => do
      let (args, rest) ← parseArgs bound rest.tail
      .ok (.call n args, rest)
    | (row, .builtin b word) :: rest =>
      if b == .length && atSign "(" rest && !atSign ")" rest.tail then do
        let (a, rest) ← parseExpr .free bound (skipLines rest.tail)
        .ok (.builtin b [a], ← dropSign ")" (skipLines rest))
      else if atSign "(" rest then do
        let (args, after) ← parseArgs bound rest.tail
        if takes b args.length then .ok (.builtin b args, after)
        else .error (.message row ("wrong number of arguments in call to " ++ word))
      else if b == .length then .ok (.builtin .length [], rest)
      else .error (.near rest)
    | (row, .word w) :: rest =>
      if w == "getline" then do
        let (target, rest) ← parseTarget bound rest
        if atSign "<" rest then do
          let (source, rest) ← parseStep bound rest.tail
          .ok (.getlineFrom false source target, rest)
        else .ok (.getline target, rest)
      else .error (.near ((row, .word w) :: rest))
    | (row, .sign s) :: rest =>
      if s == "$" then do
        let (a, rest) ← parseField bound rest
        .ok (.field a, rest)
      else if s == "(" then do
        let (args, after) ← parseArgs bound rest
        match args, after with
        | [a], after => .ok (a, after)
        | args, (_, .word "in") :: (_, .name n) :: after => .ok (.isIn args n, after)
        | _, after => .error (.near after)
      else if s == "-" || s == "+" || s == "!" then parseSigned bound ((row, .sign s) :: rest)
      else .error (.near ((row, .sign s) :: rest))
    | ts => .error (.near ts)

/-- Reads the number of a field. -/
def parseField (bound : Nat) (ts : Tokens) : Parsed (Expr × Tokens) :=
  match bound with
  | 0 => .error (.near ts)
  | bound + 1 => do
    let up := atSign "++" ts
    if up || atSign "--" ts then do
      let (a, rest) ← parsePrimary bound ts.tail
      if isTarget a then .ok (.step false up a, rest) else .error (.near ts)
    else parsePrimary bound ts

end
end MojoToolchain.Shell.Awk
