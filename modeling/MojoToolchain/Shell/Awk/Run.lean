import MojoToolchain.Shell.Awk.Machine

/-!
# Running awk programs

Expressions give values and statements say where a program goes on, each in a machine.  Each
recursive call takes one from the bound in front; a program that uses it up is ended.
-/

namespace MojoToolchain.Shell.Awk

/-- Where a program goes on behind a statement. -/
inductive Flow where
  | on
  /-- Behind the loop. -/
  | leave
  /-- With the next round of the loop. -/
  | again
  /-- With the next record. -/
  | next
  /-- With the next file. -/
  | nextFile
  | exit
  /-- Behind the function. -/
  | back (v : Value)
  deriving DecidableEq, Repr

/-- What does not change while a program runs. -/
structure Setting where
  program : Program
  run : RunCommand

/-- A machine that has used up its bound. -/
def tired (m : Machine) : Machine := { m with ended := some (m.ended.getD 2), broken := true }

/-- A number as an argument of `substr`, without its decimals. -/
def wholeOf (v : Value) : Int :=
  let n := v.toInt
  let most : Int := 2147483647
  max (-most) (min most n)

/-- A part of a text, from a place on and with a length. -/
def partOf (s : Bytes) (place : Int) (length : Option Int) : Bytes :=
  let first := max place 1
  let length : Int :=
    match length with
    | some n =>
      let n := if place < 0 then n - place else n
      if 2147483647 < n then 0 else n
    | none => s.length
  (s.drop (first - 1).toNat).take length.toNat

/-- Where a text first stands in another one; zero when it does not. -/
def indexOf (s part : Bytes) : Nat :=
  let rec find (n : Nat) (s : Bytes) : Nat :=
    if part.isPrefixOf s then n
    else
      match s with
      | [] => 0
      | _ :: r => find (n + 1) r
  if part.isEmpty then 1 else find 1 s

/-- The next number of a seed, between zero and one. -/
def randomOf (seed : Double × Nat) : Double :=
  let mix (n : Nat) : Nat := (n * 6364136223846793005 + 1442695040888963407) % (1 <<< 64)
  let n := mix (mix (seed.1.magnitude + seed.2))
  Double.ofQuotient ((n >>> 11 : Nat) : Int) (1 <<< 53)

/-- The value of a function of numbers. -/
def numeric (b : Builtin) (x : Double) : Option Double :=
  match b with
  | .sin => some x.sin
  | .cos => some x.cos
  | .exp => some x.exp
  | .log => some x.log
  | .sqrt => some x.sqrt
  | .int => some x.truncate
  | _ => none

/-- The value of a function of values. -/
def apply (x : Setting) (b : Builtin) (vs : List Value) (m : Machine) : Value × Machine :=
  let text (n : Nat) : Bytes := m.shown ((vs[n]?).getD Value.unset)
  let first := (vs.headD .unset).toNumber
  match b with
  | .length => (.ofNat (if vs.isEmpty then m.record else text 0).length, m)
  | .substr =>
    let start := wholeOf ((vs[1]?).getD Value.unset)
    (.text (partOf (text 0) start (vs[2]?.map wholeOf)), m)
  | .index => (.ofNat (indexOf (text 0) (text 1)), m)
  | .lower => (.text ((text 0).map Char.toLower), m)
  | .upper => (.text ((text 0).map Char.toUpper), m)
  | .atan2 => (.number (first.atan2 ((vs[1]?).getD Value.unset).toNumber), m)
  | .sprintf =>
    let format := text 0
    let (made, lack) := follow (format.length + 1) 1 format (vs.tail.map fun v => (v, m.shown v))
    (.text made, complain "sprintf" format lack m)
  | .rand => (.number (randomOf m.seed), { m with seed := (m.seed.1, m.seed.2 + 1) })
  | .srand => (.number m.seed.1, { m with seed := (first, 0) })
  | .system =>
    let m := m.letOutFiles
    let ran := x.run (text 0) m.s
    (.ofNat ran.status, { m with s := ran })
  | .close =>
    let (code, m) := m.close x.run (text 0)
    (.number (.ofInt code), m)
  | .flush => (.ofNat 0, m.letOutFiles)
  | b => (.number ((numeric b first).getD .zero), m)
where
  /-- Says why a format cannot be followed. -/
  complain (name : String) (format : Bytes) (lack : Option FormatLack) (m : Machine) : Machine :=
    let call := name ++ "(" ++ Machine.inMarks format ++ ")"
    match lack with
    | none => m
    | some .arguments => m.abort ("not enough arguments passed to " ++ call)
    | some (.conversion n) =>
      m.abort ("improper conversion(number " ++ toString n ++ ") in " ++ call)

mutual

/-- The value of an expression. -/
def eval (x : Setting) (bound : Nat) (e : Expr) (m : Machine) : Value × Machine :=
  match bound with
  | 0 => (.unset, tired m)
  | bound + 1 =>
    let number (e : Expr) (m : Machine) : Double × Machine :=
      let (v, m) := eval x bound e m
      (v.toNumber, m)
    let second (e : Expr) (m : Machine) : Value × Machine := m.holding 1 (eval x bound e)
    match e with
    | .number n => (.number n, m)
    | .text s => (.text s, m)
    | .regex s =>
      let (e, m) := m.compile s
      (.ofBool (e.any fun e => e.isFound Expression.exactly m.record), m)
    | .var name => (m.get name, m)
    | .item name keys =>
      let (vs, m) := evalAll x bound keys m
      let (key, t, _, m) := m.touch name vs true
      (t.get key, m)
    | .field n =>
      let (v, m) := eval x bound n m
      let n := v.toInt
      if n < 0 then (.unset, m.abort ("negative field index $" ++ toString n))
      else (m.field n.toNat, m)
    | .assign op target value =>
      let (v, m) := second value m
      match op with
      | none => store x bound target v m
      | some op =>
        let (old, m) := number target m
        store x bound target (.number (op.apply old v.toNumber)) m
    | .step after up target =>
      let (old, m) := number target m
      let new := if up then old.add (.ofNat 1) else old.sub (.ofNat 1)
      let (v, m) := store x bound target (.number new) m
      (if after then .number old else v, m)
    | .choose c a b =>
      let (v, m) := eval x bound c m
      if v.isTrue then eval x bound a m else eval x bound b m
    | .not a =>
      let (v, m) := eval x bound a m
      (.ofBool !v.isTrue, m)
    | .negate a =>
      let (n, m) := number a m
      (.number n.neg, m)
    | .plus a =>
      let (n, m) := number a m
      (.number n, m)
    | .both a b =>
      let (v, m) := eval x bound a m
      if !v.isTrue then (.ofBool false, m)
      else
        let (w, m) := eval x bound b m
        (.ofBool w.isTrue, m)
    | .either a b =>
      let (v, m) := eval x bound a m
      if v.isTrue then (.ofBool true, m)
      else
        let (w, m) := eval x bound b m
        (.ofBool w.isTrue, m)
    | .compute op a b =>
      let (n, m) := number a m
      let (v, m) := second b m
      (.number (op.apply n v.toNumber), m)
    | .compare r a b =>
      let (v, m) := eval x bound a m
      let (w, m) := second b m
      (.ofBool (r.holds (v.compare? (m.textOf "CONVFMT") w)), m)
    | .join a b =>
      let (v, m) := eval x bound a m
      let (w, m) := second b m
      (.text (m.shown v ++ m.shown w), m)
    | .finds negated a b =>
      let (v, m) := eval x bound a m
      let (e, m) := expressionOf x bound b m
      (.ofBool ((e.any fun e => e.isFound Expression.exactly (m.shown v)) != negated), m)
    | .isIn keys name =>
      let (vs, m) := evalAll x bound keys m
      let (key, t, _, m) := m.touch name vs false
      (.ofBool (t.cells.any (·.1 == key)), m)
    | .call name args => call x bound name args m
    | .builtin b args => evalBuiltin x bound b args m
    | .getline target =>
      match m.nextRecord (m.slots.size + 1000000) with
      | (none, m) => (.ofNat 0, m)
      | (some record, m) =>
        let m := m.count ["NR", "FNR"]
        match target with
        | [] => (.ofNat 1, m.setRecord record)
        | target :: _ =>
          let (_, m) := store x bound target (.ofInput record) m
          (.ofNat 1, m)
    | .getlineFrom ofCommand source target =>
      let (v, m) := eval x bound source m
      match m.recordFrom x.run ofCommand (m.shown v) with
      | (1, record, m) =>
        match target with
        | [] => (.ofNat 1, m.setRecord record)
        | target :: _ =>
          let (_, m) := store x bound target (.ofInput record) m
          (.ofNat 1, m)
      | (code, _, m) => (.number (.ofInt code), m)

/-- The values of expressions. -/
def evalAll (x : Setting) (bound : Nat) (es : List Expr) (m : Machine) : List Value × Machine :=
  match bound with
  | 0 => ([], tired m)
  | bound + 1 =>
    match es with
    | [] => ([], m)
    | e :: rest =>
      let (v, m) := eval x bound e m
      let (vs, m) := m.holding 1 (evalAll x bound rest)
      (v :: vs, m)

/-- The regular expression that an expression stands for. -/
def expressionOf (x : Setting) (bound : Nat) (e : Expr) (m : Machine) :
    Option Expression × Machine :=
  match bound with
  | 0 => (none, tired m)
  | bound + 1 =>
    match e with
    | .regex s => m.compile s
    | e =>
      let (v, m) := eval x bound e m
      m.compile (m.shown v)

/-- Sets a target. -/
def store (x : Setting) (bound : Nat) (target : Expr) (v : Value) (m : Machine) :
    Value × Machine :=
  match bound with
  | 0 => (v, tired m)
  | bound + 1 =>
    match target with
    | .var name => (v, m.set name v)
    | .item name keys =>
      let (vs, m) := evalAll x bound keys m
      let (key, t, n, m) := m.touch name vs true
      (v, m.putTable n (t.set key v))
    | .field e =>
      let (n, m) := eval x bound e m
      if n.toInt < 0 then (v, m.abort ("negative field index $" ++ toString n.toInt))
      else (v, m.setField n.toInt.toNat v)
    | _ => (v, m)

/-- The value of a call of a function of the program. -/
def call (x : Setting) (bound : Nat) (name : Bytes) (args : List Expr) (m : Machine) :
    Value × Machine :=
  match bound with
  | 0 => (.unset, tired m)
  | bound + 1 =>
    match x.program.functions.find? fun f => f.name == name with
    | none => (.unset, m)
    | some f =>
      let (slots, m) := slotsOf x bound args m
      let missing := List.replicate (f.params.length - slots.length) Slot.unset
      let start := m.slots.size
      let held := m.held + f.params.length
      if Machine.mostHeld ≤ held then (.unset, m.overflow)
      else if m.calls == Machine.deepestCall then (.unset, m.crash)
      else
        let inside := { m with
          slots := m.slots ++ (slots ++ missing).toArray
          frame := f.params.zipIdx.map fun (p, i) => (p, start + i)
          held := held
          calls := m.calls + 1 }
        let (flow, ran) := exec x bound f.body inside
        let back := { ran with
          slots := ran.slots.take start ++ (ran.slots.toList.drop (start + f.params.length)).toArray
          globals := ran.globals.map fun (n, i) =>
            if i < start then (n, i) else (n, i - f.params.length)
          frame := m.frame
          held := m.held
          calls := m.calls }
        match flow with
        | .back v => (v, back)
        | _ => (.unset, back)

/-- What the parameters of a function hold at first; a variable that holds nothing yet may become a
table there. -/
def slotsOf (x : Setting) (bound : Nat) (args : List Expr) (m : Machine) : List Slot × Machine :=
  match bound with
  | 0 => ([], tired m)
  | bound + 1 =>
    match args with
    | [] => ([], m)
    | arg :: rest =>
      let (slot, m) : Slot × Machine :=
        match arg with
        | .var name =>
          let (n, m) := m.slotOf name
          match name == ['N', 'F'], m.slots[n]? with
          | false, some (.scalar v) => (.scalar v, m)
          | true, _ => (.scalar (m.get name), m)
          | false, _ => (.like n, m)
        | e =>
          let (v, m) := eval x bound e m
          (.scalar v, m)
      let (slots, m) := m.holding 1 (slotsOf x bound rest)
      (slot :: slots, m)

/-- The value of a function that every program has. -/
def evalBuiltin (x : Setting) (bound : Nat) (b : Builtin) (args : List Expr) (m : Machine) :
    Value × Machine :=
  match bound with
  | 0 => (.unset, tired m)
  | bound + 1 =>
    match b, args with
    | .length, [.var name] =>
      let (n, t, m') := m.tableOf name
      match m'.slots[n]? with
      | some (.table _) => (.ofNat t.cells.length, m')
      | _ => (.ofNat (m.shown (m.get name)).length, m)
    | .match_, [s, e] =>
      let (v, m) := eval x bound s m
      let (e, m) := expressionOf x bound e m
      let found := e.bind fun e => e.find? Expression.exactly none (m.shown v)
      let (place, length) : Int × Int :=
        match found with
        | some (front, part, _) => ((front.length : Int) + 1, (part.length : Int))
        | none => (0, -1)
      let m := m.put "RSTART".toList (.number (.ofInt place))
      (.number (.ofInt place), m.put "RLENGTH".toList (.number (.ofInt length)))
    | .split, s :: .var name :: separator =>
      let (v, m) := eval x bound s m
      let text := m.shown v
      let (pieces, m) : List Bytes × Machine :=
        match separator with
        | [.regex r] =>
          match m.compile r with
          | (some e, m) =>
            (if text.isEmpty then [] else splitBy e (text.length + 1) none text, m)
          | (none, m) => ([], m)
        | [e] =>
          let (v, m) := eval x bound e m
          m.split text (m.shown v)
        | _ => m.split text (m.textOf "FS")
      let (n, _, m) := m.tableOf name
      (.ofNat pieces.length, m.putTable n (.ofPieces (pieces.map Value.ofInput)))
    | .sub, e :: new :: target => substitute x bound false e new target m
    | .gsub, e :: new :: target => substitute x bound true e new target m
    | b, args =>
      let (vs, m) := evalAll x bound args m
      apply x b vs m

/-- Replaces parts of a target, or of the record. -/
def substitute (x : Setting) (bound : Nat) (all : Bool) (e new : Expr) (target : List Expr)
    (m : Machine) : Value × Machine :=
  match bound with
  | 0 => (.unset, tired m)
  | bound + 1 =>
    let (e, m) := expressionOf x bound e m
    let (new, m) := eval x bound new m
    let target := target.headD (.field (.number .zero))
    let (old, m) := eval x bound target m
    let text := m.shown old
    match e with
    | none => (.ofNat 0, m)
    | some e =>
      let (made, count) :=
        replaceParts e all (m.shown new) (2 * text.length + 2) false none text
      if count == 0 then (.ofNat 0, m)
      else
        let (_, m) := store x bound target (.text made) m
        (.ofNat count, m)

/-- Does a statement. -/
def exec (x : Setting) (bound : Nat) (s : Stmt) (m : Machine) : Flow × Machine :=
  match bound with
  | 0 => (.exit, tired m)
  | bound + 1 =>
    if m.ended.isSome then (.exit, m)
    else
      match s with
      | .expr e =>
        let (_, m) := eval x bound e m
        (if m.ended.isSome then .exit else .on, m)
      | .print args target =>
        let (vs, m) := evalAll x bound args m
        let show_ (v : Value) : Bytes :=
          match v with
          | .number n => numberText (m.textOf "OFMT") n
          | v => v.toText []
        let text := if vs.isEmpty then m.record else (m.textOf "OFS").intercalate (vs.map show_)
        if m.ended.isSome then (.exit, m) else emit x bound target (text ++ m.textOf "ORS") m
      | .printf args target =>
        let (vs, m) := evalAll x bound args m
        let format := m.shown (vs.headD .unset)
        let (text, lack) :=
          follow (format.length + 1) 1 format (vs.tail.map fun v => (v, m.shown v))
        if m.ended.isSome then (.exit, m)
        else
          let (flow, m) := emit x bound target text m
          let m := apply.complain "printf" format lack m
          (if m.ended.isSome then .exit else flow, m)
      | .block body => execAll x bound body m
      | .branch c a b =>
        let (v, m) := eval x bound c m
        if v.isTrue then exec x bound a m else exec x bound b m
      | .loop c behind body => loop x bound c behind body m
      | .repeat_ body c =>
        let (flow, m) := exec x bound body m
        match flow with
        | .on => loop x bound c (.block []) body m
        | .again => loop x bound c (.block []) body m
        | .leave => (.on, m)
        | flow => (flow, m)
      | .forIn name table body =>
        let (n, t, m) := m.tableOf table
        let t := t.withNames
        each x bound name t.keys body (m.putTable n t)
      | .next => (.next, m)
      | .nextFile => (.nextFile, m)
      | .exit code =>
        match code with
        | [] => (.exit, { m with ended := some m.code })
        | e :: _ =>
          let (v, m) := eval x bound e m
          let most : Int := greatestWhole
          let code := (max (-most) (min most v.toInt) % 256).toNat
          (.exit, { m with code := code, ended := some (m.ended.getD code) })
      | .return_ value =>
        match value with
        | [] => (.back .unset, m)
        | e :: _ =>
          let (v, m) := eval x bound e m
          (.back v, m)
      | .break_ => (.leave, m)
      | .continue_ => (.again, m)
      | .delete table keys =>
        if keys.isEmpty then
          let (n, _, m) := m.tableOf table
          (.on, m.putTable n .empty)
        else
          let (vs, m) := evalAll x bound keys m
          let (key, t, n, m) := m.touch table vs false
          (.on, m.putTable n (t.remove key))

/-- Does statements, one after the other. -/
def execAll (x : Setting) (bound : Nat) (body : List Stmt) (m : Machine) : Flow × Machine :=
  match bound with
  | 0 => (.exit, tired m)
  | bound + 1 =>
    match body with
    | [] => (.on, m)
    | s :: rest =>
      match exec x bound s m with
      | (.on, m) => execAll x bound rest m
      | other => other

/-- Repeats a body as long as a condition holds. -/
def loop (x : Setting) (bound : Nat) (c : Expr) (behind body : Stmt) (m : Machine) :
    Flow × Machine :=
  match bound with
  | 0 => (.exit, tired m)
  | bound + 1 =>
    let (v, m) := eval x bound c m
    if m.ended.isSome then (.exit, m)
    else if !v.isTrue then (.on, m)
    else
      let (flow, m) := exec x bound body m
      match flow with
      | .leave => (.on, m)
      | .on =>
        let (_, m) := exec x bound behind m
        loop x bound c behind body m
      | .again =>
        let (_, m) := exec x bound behind m
        loop x bound c behind body m
      | flow => (flow, m)

/-- Does a body for each key. -/
def each (x : Setting) (bound : Nat) (name : Bytes) (keys : List Bytes) (body : Stmt)
    (m : Machine) :
    Flow × Machine :=
  match bound with
  | 0 => (.exit, tired m)
  | bound + 1 =>
    match keys with
    | [] => (.on, m)
    | key :: rest =>
      let (flow, m) := exec x bound body (m.set name (.text key))
      match flow with
      | .leave => (.on, m)
      | .on => each x bound name rest body m
      | .again => each x bound name rest body m
      | flow => (flow, m)

/-- Writes to where output is directed. -/
def emit (x : Setting) (bound : Nat) (target : Output) (text : Bytes) (m : Machine) :
    Flow × Machine :=
  match bound with
  | 0 => (.exit, tired m)
  | bound + 1 =>
    let m :=
      match target with
      | .standard => { m with out := text.reverseAux m.out }
      | .file append name =>
        let (v, m) := eval x bound name m
        m.writeTo (m.shown v) false append text
      | .command e =>
        let (v, m) := eval x bound e m
        m.writeTo (m.shown v) true false text
    (if m.ended.isSome then .exit else .on, m)

end

/-! ### Rules -/

/-- The bound of everything that a program does with one record. -/
def depthOfPrograms : Nat := 100000000

/-- Does what the rules of the start or of the end say, one after the other. -/
def runEdge (x : Setting) (isEdge : Pattern → Bool) (m : Machine) : Machine :=
  x.program.rules.foldl (fun m rule =>
    if !isEdge rule.pattern || m.ended.isSome then m
    else
      match rule.body with
      | some body => (exec x depthOfPrograms body m).2
      | none => m) m

/-- A rule fits the record. -/
def fits (x : Setting) (number : Nat) (pattern : Pattern) (m : Machine) : Bool × Machine :=
  match pattern with
  | .start => (false, m)
  | .end_ => (false, m)
  | .always => (true, m)
  | .when e =>
    let (v, m) := eval x depthOfPrograms e m
    (v.isTrue, m)
  | .between first last =>
    let close (m : Machine) : Bool × Machine :=
      let (v, m) := eval x depthOfPrograms last m
      (true, if v.isTrue then { m with spans := m.spans.filter (· != number) } else m)
    if m.spans.contains number then close m
    else
      let (v, m) := eval x depthOfPrograms first m
      if v.isTrue then close { m with spans := number :: m.spans } else (false, m)

/-- Does what the rules say about the record, from one of them on. -/
def runRules (x : Setting) : Nat → List Rule → Machine → Flow × Machine
  | _, [], m => (.on, m)
  | n, rule :: rest, m =>
    if m.ended.isSome then (.exit, m)
    else
      let (chosen, m) := fits x n rule.pattern m
      if !chosen || m.ended.isSome then runRules x (n + 1) rest m
      else
        let body := rule.body.getD (.print [] .standard)
        match exec x depthOfPrograms body m with
        | (.on, m) => runRules x (n + 1) rest m
        | (.leave, m) => runRules x (n + 1) rest m
        | (.again, m) => runRules x (n + 1) rest m
        | other => other

/-- Reads all records, and does what the rules say about each. -/
def runRecords (x : Setting) : Nat → Machine → Machine
  | 0, m => m
  | bound + 1, m =>
    if m.ended.isSome then m
    else
      match m.nextRecord 1000000 with
      | (none, m) => m
      | (some record, m) =>
        let m := (m.count ["NR", "FNR"]).setRecord record
        let (flow, m) := runRules x 0 x.program.rules m
        runRecords x bound (if flow == .nextFile then { m with input := none } else m)

/-- Runs a program: the rules of the start, those of the records, and those of the end. -/
def runProgram (x : Setting) (m : Machine) : Machine :=
  let isStart : Pattern → Bool
    | .start => true
    | _ => false
  let isEnd : Pattern → Bool
    | .end_ => true
    | _ => false
  let has (p : Pattern → Bool) : Bool := x.program.rules.any fun r => p r.pattern
  let reads := x.program.rules.any fun r => !isStart r.pattern
  let m := runEdge x isStart m
  let m := if reads then runRecords x depthOfPrograms m else m
  let m :=
    if !has isEnd then m
    else
      match m.broken, m.ended with
      | true, _ => m
      | false, some code =>
        let last := runEdge x isEnd { m with ended := none }
        { last with ended := some (last.ended.getD code) }
      | false, none => runEdge x isEnd m
  m.finish x.run

end MojoToolchain.Shell.Awk
