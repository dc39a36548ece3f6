import MojoToolchain.Shell.Awk.Parser

/-!
# Reading programs

`parse` reads a program from its text: rules and functions, and the statements in them.
-/

namespace MojoToolchain.Shell.Awk

/-- What stands around a statement. -/
structure Around where
  /-- A rule for records, or a function. -/
  records : Bool
  function : Bool
  loop : Bool

/-- The statement that does nothing. -/
def nothing : Stmt := .block []

/-- Where output goes that nothing directs. -/
def takeOutput (bound : Nat) (ts : Tokens) : Parsed (Output × Tokens) :=
  match ts with
  | (_, .sign s) :: rest =>
    if s == ">" || s == ">>" then do
      let (e, rest) ← parseExpr ⟨true, false⟩ bound rest
      .ok (.file (s == ">>") e, rest)
    else if s == "|" then do
      let (e, rest) ← parseExpr ⟨true, false⟩ bound rest
      .ok (.command e, rest)
    else .ok (.standard, ts)
  | ts => .ok (.standard, ts)

/-- Reads what is written, which may stand in parentheses. -/
def parseWritten (bound : Nat) (ts : Tokens) : Parsed (List Expr × Tokens) :=
  let plain : Parsed (List Expr × Tokens) := parseList ⟨true, false⟩ bound ts
  if endsList ts then .ok ([], ts)
  else if atSign "(" ts then
    match parseArgs bound ts.tail with
    | .ok (args, rest) => if endsList rest && !args.isEmpty then .ok (args, rest) else plain
    | .error _ => plain
  else plain

/-- Reads a statement that is neither a block nor has others inside. -/
def parseSimple (around : Around) (bound : Nat) (ts : Tokens) : Parsed (Stmt × Tokens) :=
  let optional (rest : Tokens) : Parsed (List Expr × Tokens) :=
    if endsList rest then .ok ([], rest)
    else do
      let (e, rest) ← parseExpr .free bound rest
      .ok ([e], rest)
  match ts with
  | (row, .word w) :: rest =>
    let only (allowed : Bool) (message : String) : Except ParseFault Unit :=
      if allowed then .ok () else .error (.message row message)
    match w with
    | "print" => do
      let (args, rest) ← parseWritten bound rest
      let (target, rest) ← takeOutput bound rest
      .ok (.print args target, rest)
    | "printf" => do
      let (args, rest) ← parseWritten bound rest
      let (target, rest) ← takeOutput bound rest
      if args.isEmpty then .error (.near rest) else .ok (.printf args target, rest)
    | "next" => do
      let _ ← only around.records "improper use of next"
      .ok (.next, rest)
    | "nextfile" => do
      let _ ← only around.records "improper use of nextfile"
      .ok (.nextFile, rest)
    | "break" => do
      let _ ← only around.loop "break statement outside of loop"
      .ok (.break_, rest)
    | "continue" => do
      let _ ← only around.loop "continue statement outside of loop"
      .ok (.continue_, rest)
    | "exit" => do
      let (code, rest) ← optional rest
      .ok (.exit code, rest)
    | "return" => do
      let _ ← only around.function "return outside function body"
      let (value, rest) ← optional rest
      .ok (.return_ value, rest)
    | "delete" =>
      match rest with
      | (_, .name n) :: rest =>
        if atSign "[" rest then do
          let (keys, rest) ← parseList .free bound rest.tail
          .ok (.delete n keys, ← dropSign "]" rest)
        else .ok (.delete n [], rest)
      | rest => .error (.near rest)
    | _ => do
      let (e, rest) ← parseExpr .free bound ts
      .ok (.expr e, rest)
  | ts => do
    let (e, rest) ← parseExpr .free bound ts
    .ok (.expr e, rest)

/-- Reads a condition in parentheses. -/
def parseCondition (bound : Nat) (ts : Tokens) : Parsed (Expr × Tokens) := do
  let rest ← dropSign "(" ts
  let (e, rest) ← parseExpr .free bound (skipLines rest)
  .ok (e, ← dropSign ")" (skipLines rest))

mutual

/-- Reads a statement. -/
def parseStmt (around : Around) (bound : Nat) (ts : Tokens) : Parsed (Stmt × Tokens) :=
  match bound with
  | 0 => .error (.near ts)
  | bound + 1 =>
    let size := 40 * (ts.length + 2)
    let inLoop : Around := { around with loop := true }
    match ts with
    | [] => .error .openBlock
    | (_, .sign "\x7b") :: rest => do
      let (body, rest) ← parseBody around bound rest
      .ok (.block body, rest)
    | (_, .sign ";") :: rest => .ok (nothing, rest)
    | (_, .word "if") :: rest => do
      let (condition, rest) ← parseCondition size rest
      let (then_, rest) ← parseStmt around bound (skipLines rest)
      let after := skipEnds rest
      if atWord "else" after then do
        let (else_, rest) ← parseStmt around bound (skipLines after.tail)
        .ok (.branch condition then_ else_, rest)
      else .ok (.branch condition then_ nothing, rest)
    | (_, .word "while") :: rest => do
      let (condition, rest) ← parseCondition size rest
      let (body, rest) ← parseStmt inLoop bound (skipLines rest)
      .ok (.loop condition nothing body, rest)
    | (_, .word "do") :: rest => do
      let (body, rest) ← parseStmt inLoop bound (skipLines rest)
      let rest := skipEnds rest
      if atWord "while" rest then do
        let (condition, rest) ← parseCondition size rest.tail
        .ok (.repeat_ body condition, ← endStatement rest)
      else .error (.near rest)
    | (_, .word "for") :: (_, .sign "(") :: (_, .name n) :: (_, .word "in") :: (_, .name t)
        :: (_, .sign ")") :: rest => do
      let (body, rest) ← parseStmt inLoop bound (skipLines rest)
      .ok (.forIn n t body, rest)
    | (_, .word "for") :: rest => do
      let rest ← dropSign "(" rest
      let (first, rest) ←
        if atSign ";" rest then .ok (nothing, rest) else parseSimple around size rest
      let rest := skipLines (← dropSign ";" rest)
      let (condition, rest) ←
        if atSign ";" rest then .ok (Expr.number (.ofNat 1), rest) else parseExpr .free size rest
      let rest := skipLines (← dropSign ";" rest)
      let (behind, rest) ←
        if atSign ")" rest then .ok (nothing, rest) else parseSimple around size rest
      let rest ← dropSign ")" rest
      let (body, rest) ← parseStmt inLoop bound (skipLines rest)
      .ok (.block [first, .loop condition behind body], rest)
    | ts => do
      let (s, rest) ← parseSimple around size ts
      .ok (s, ← endStatement rest)

/-- Reads the statements of a block and its closing brace. -/
def parseBody (around : Around) (bound : Nat) (ts : Tokens) : Parsed (List Stmt × Tokens) :=
  match bound with
  | 0 => .error (.near ts)
  | bound + 1 =>
    match skipEnds ts with
    | [] => .error .openBlock
    | (_, .sign "\x7d") :: rest => .ok ([], rest)
    | ts => do
      let (s, rest) ← parseStmt around bound ts
      let (more, rest) ← parseBody around bound rest
      .ok (s :: more, rest)

end

/-- Reads the names of the parameters of a function, behind the opening parenthesis. -/
def parseParams : Tokens → Parsed (List Bytes × Tokens)
  | (_, .sign ")") :: rest => .ok ([], rest)
  | (_, .name n) :: (_, .sign ",") :: rest => do
    let (more, rest) ← parseParams rest
    .ok (n :: more, rest)
  | (_, .name n) :: (_, .sign ")") :: rest => .ok ([n], rest)
  | (_, .newLine) :: rest => parseParams rest
  | ts => .error (.near ts)

/-- Reads the body of a rule. -/
def parseRuleBody (around : Around) (bound : Nat) (ts : Tokens) : Parsed (Stmt × Tokens) := do
  let (body, rest) ← parseBody around bound (← dropSign "\x7b" ts)
  .ok (.block body, rest)

/-- Reads the rules and functions of a program. -/
def parseItems : Nat → Program → Tokens → Except ParseFault Program
  | 0, p, _ => .ok p
  | bound + 1, p, ts => do
    let size := 40 * (ts.length + 2)
    let one (pattern : Pattern) (body : Option Stmt) : Program :=
      { p with rules := p.rules ++ [⟨pattern, body⟩] }
    let edge : Around := ⟨false, false, false⟩
    let inRule : Around := ⟨true, false, false⟩
    match skipEnds ts with
    | [] => .ok p
    | (row, .sign "\x7d") :: _ =>
      let near := atRow row "syntax error at or near end of line"
      .error (.message row ("extra '\x7d'\nawk: " ++ near))
    | (_, .word "BEGIN") :: rest => do
      let (body, rest) ← parseRuleBody edge size rest
      parseItems bound (one .start (some body)) rest
    | (_, .word "END") :: rest => do
      let (body, rest) ← parseRuleBody edge size rest
      parseItems bound (one .end_ (some body)) rest
    | (_, .word "function") :: rest => do
      let (name, rest) ←
        match rest with
        | (_, .function n) :: rest => .ok (n, rest)
        | (_, .name n) :: rest => .ok (n, rest)
        | rest => .error (.near rest)
      let (params, rest) ← parseParams (← dropSign "(" rest)
      let (body, rest) ← parseRuleBody ⟨true, true, false⟩ size (skipLines rest)
      parseItems bound { p with functions := p.functions ++ [⟨name, params, body⟩] } rest
    | ts =>
      if atSign "\x7b" ts then do
        let (body, rest) ← parseRuleBody inRule size ts
        parseItems bound (one .always (some body)) rest
      else do
        let (first, rest) ← parseExpr .free size ts
        let (pattern, rest) ←
          if atSign "," rest then do
            let (last, rest) ← parseExpr .free size (skipLines rest.tail)
            .ok (Pattern.between first last, rest)
          else .ok (Pattern.when first, rest)
        if atSign "\x7b" rest then do
          let (body, rest) ← parseRuleBody inRule size rest
          parseItems bound (one pattern (some body)) rest
        else do
          let rest ← endStatement rest
          parseItems bound (one pattern none) rest

/-- Reads a program; or says why a text is none. -/
def parse (s : Bytes) : Except (List String) Program :=
  match tokens s with
  | .error message => .error [message]
  | .ok ts =>
    let rows := 1 + s.count '\n'
    let open_ := atRow (rows + 1) "missing \x7d near end of file"
    match parseItems (ts.length + 2) ⟨[], []⟩ ts with
    | .ok p => .ok p
    | .error .openBlock => .error [open_]
    | .error (.message row text) => .error [atRow row text]
    | .error (.near ((row, t) :: _)) => .error [atRow row ("syntax error at or near " ++ t.shown)]
    | .error (.near []) =>
      let depth (sign : String) : Nat := ts.countP fun (_, t) => t == .sign sign
      let near := atRow rows "syntax error at or near end of line"
      .error (if depth "\x7d" < depth "\x7b" then [near, open_] else [near])

end MojoToolchain.Shell.Awk
