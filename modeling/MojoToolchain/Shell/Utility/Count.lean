import MojoToolchain.Shell.Utility.Amount
import MojoToolchain.Shell.Utility.Filter

/-!
# Counting

`wc` counts lines, words and bytes, and `nl` numbers lines.
-/

namespace MojoToolchain.Shell

/-! ### Lines, words and bytes -/

/-- White space. -/
def isGap (c : Char) : Bool := c == ' ' || ('\t' ≤ c && c ≤ '\r')

/-- What is counted of a text. -/
structure Tally where
  lines : Nat
  words : Nat
  bytes : Nat
  /-- The columns of the widest line. -/
  widest : Nat

namespace Tally

/-- The number of words of a text; a word has a byte that is seen. -/
def wordsIn : Bool → Bytes → Nat
  | inWord, [] => inWord.toNat
  | inWord, c :: r =>
    if isGap c then inWord.toNat + wordsIn false r
    else wordsIn (inWord || Quoting.isSeen c) r

/-- The column behind a byte. -/
def columnBehind (column : Nat) (c : Char) : Nat :=
  if c == '\t' then column + (8 - column % 8)
  else if Quoting.isSeen c then column + 1
  else column

/-- The greatest column that a text reaches. -/
def widestOf (column widest : Nat) : Bytes → Nat
  | [] => max widest column
  | c :: r =>
    if c == '\n' || c == '\r' || c == '\x0c' then widestOf 0 (max widest column) r
    else widestOf (columnBehind column c) widest r

/-- What is counted of a text. -/
def ofText (text : Bytes) : Tally :=
  ⟨text.count '\n', wordsIn false text, text.length, widestOf 0 0 text⟩

/-- What is counted of two texts. -/
def add (a b : Tally) : Tally :=
  ⟨a.lines + b.lines, a.words + b.words, a.bytes + b.bytes, max a.widest b.widest⟩

/-- The count that the letter of an option stands for. -/
def count (x : Tally) : Char → Nat
  | 'l' => x.lines
  | 'w' => x.words
  | 'L' => x.widest
  | _ => x.bytes

end Tally

/-- The width of counts: that of the size of all files, or a greater one if some are no files. -/
def widthOfCounts (files : List Bytes) (s : State) : Nat :=
  let sizes : List (Option Nat) := (if files.isEmpty then [['-']] else files).map fun file =>
    if file == ['-'] then if s.rewinds then some s.input.length else none
    else
      match s.disk.read (pathOf file) with
      | .ok bytes => some bytes.size
      | .error .isDirectory => none
      | .error _ => some 0
  let total := sizes.foldl (fun n size => n + size.getD 0) 0
  max (Nat.toDigits 10 total).length (if sizes.any Option.isNone then 7 else 1)

/-- Counts what is wanted of files; `total` says when their sum is written. -/
def countFiles (wanted : List Char) (total : Option String) (files : List Bytes) (s : State) :
    State :=
  let only := total == some "only"
  let width :=
    if only || (wanted.length == 1 && files.length ≤ 1) then 1 else widthOfCounts files s
  let row (x : Tally) (file : Bytes) : Bytes :=
    let numbers := wanted.map fun c => filled width (Nat.toDigits 10 (x.count c))
    [' '].intercalate (numbers ++ if file.isEmpty then [] else [file])
  let counted (sum : Tally) (file text : Bytes) (s : State) : Tally × State :=
    let own := Tally.ofText text
    let title := if files.isEmpty then [] else file
    (sum.add own, if only then s else emitLines s [row own title])
  -- a directory is opened before it turns out that it cannot be read
  let reported (sum : Tally) (file : Bytes) (s : State) : Tally × State :=
    match fileText file s with
    | (.ok text, s) => counted sum file text s
    | (.error fault, s) =>
      let s := s.report 1 ((Reports.plain 1).wording file fault)
      if fault == .isDirectory then counted sum file [] s else (sum, s)
  let (sum, s) := (if files.isEmpty then [['-']] else files).foldl (fun (sum, s) file =>
    reported sum file s) ((⟨0, 0, 0, 0⟩ : Tally), s.withStatus 0)
  let summed :=
    match total with
    | some "always" => true
    | some "only" => true
    | some "never" => false
    | _ => 1 < files.length
  if summed then emitLines s [row sum (if only then [] else "total".toList)] else s

/-- Counts lines, words and bytes, and the columns of the widest line. -/
def wc : Utility :=
  withOptions 1
    { flags := "lwcmL"
      valued := "τ"
      names := [("lines", 'l'), ("words", 'w'), ("bytes", 'c'), ("chars", 'm'),
        ("max-line-length", 'L'), ("total", 'τ'), ("files0-from", 'φ')] } fun call s =>
    let letters := call.options.filter fun (c, _) => c != 'τ'
    let wanted := ['l', 'w', 'm', 'c', 'L'].filter fun c =>
      if letters.isEmpty then ['l', 'w', 'c'].contains c else call.has c
    match ((call.value? 'τ').mapM (choose "--total" ["auto", "always", "only", "never"])) with
    | .error reason => misused 1 reason s
    | .ok total => countFiles wanted total call.operands s

/-! ### Numbers of lines -/

/-- Which lines are numbered. -/
inductive Numbering where
  | all
  | filledLines
  | none
  | found (e : Expression)

/-- The numbering that a text asks for in a part of a page; or what is wrong with it, and whether
it is said how to go on. -/
def Numbering.read (part : String) (text : Bytes) : Except (Bool × String) Numbering :=
  match text with
  | ['a'] => .ok .all
  | ['t'] => .ok .filledLines
  | ['n'] => .ok .none
  | 'p' :: expression =>
    match Expression.parse (Expression.form false) expression with
    | .ok (e, _) => .ok (.found e)
    | .error reason => .error (false, reason)
  | _ => .error (true, "invalid " ++ part ++ " numbering style: " ++ Quoting.plain text)

/-- How lines are numbered: in the head, the body and the foot of a page. -/
structure Pages where
  head : Numbering
  body : Numbering
  foot : Numbering
  first : Int
  step : Int
  width : Nat
  mark : Bytes
  format : Bytes
  /-- Of so many empty lines that follow one another one counts. -/
  joined : Nat
  /-- The numbers go on from page to page. -/
  goesOn : Bool
  /-- What a line that starts a part of a page is made of. -/
  sign : Bytes

namespace Pages

/-- Where the numbering has come to. -/
structure Place where
  part : Numbering
  number : Int
  empty : Nat

/-- A number as it is written. -/
def numberText (x : Pages) (n : Int) : Bytes :=
  let digits := (toString n).toList
  let gap (c : Char) : Bytes := List.replicate (x.width - digits.length) c
  match x.format with
  | ['l', 'n'] => digits ++ gap ' '
  | ['r', 'z'] =>
    if n < 0 then '-' :: gap '0' ++ digits.drop 1 else gap '0' ++ digits
  | _ => gap ' ' ++ digits

/-- The part of a page that a line starts. -/
def partAt (x : Pages) (row : Bytes) : Option Numbering :=
  if x.sign.isEmpty then Option.none
  else if row == x.sign ++ x.sign ++ x.sign then some x.head
  else if row == x.sign ++ x.sign then some x.body
  else if row == x.sign then some x.foot
  else Option.none

/-- A line with its number, or with as much space. -/
def numbered (x : Pages) (at_ : Place) (row : Bytes) : Place × Bytes :=
  let plain := List.replicate (x.width + x.mark.length) ' ' ++ row
  let counted (at_ : Place) : Place × Bytes :=
    ({ at_ with number := at_.number + x.step },
      x.numberText at_.number ++ x.mark ++ row)
  match at_.part with
  | .none => (at_, plain)
  | .filledLines => if row.isEmpty then (at_, plain) else counted at_
  | .found e => if e.isFound Expression.exactly row then counted at_ else (at_, plain)
  | .all =>
    if x.joined ≤ 1 then counted at_
    else if !row.isEmpty || at_.empty + 1 == x.joined then counted { at_ with empty := 0 }
    else ({ at_ with empty := at_.empty + 1 }, plain)

/-- Lines with their numbers. -/
def pass (x : Pages) : Place → List Bytes → Place × List Bytes
  | at_, [] => (at_, [])
  | at_, row :: rest =>
    match x.partAt row with
    | some part =>
      let number := if x.goesOn then at_.number else x.first
      let (at_, more) := pass x { at_ with part := part, number := number } rest
      (at_, [] :: more)
    | Option.none =>
      let (at_, line) := x.numbered at_ row
      let (at_, more) := pass x at_ rest
      (at_, line :: more)

/-- The pages that a call asks for; or what is wrong with it, and whether it is said how to go
on. -/
def ofCall (call : Call) : Except (Bool × String) Pages := do
  let numbering (letter : Char) (part : String) (other : Char) : Except (Bool × String) Numbering :=
    Numbering.read part ((call.value? letter).getD [other])
  let number (letter : Char) (what : String) (least most other : Int) :
      Except (Bool × String) Int :=
    match call.value? letter with
    | Option.none => .ok other
    | some text =>
      (Amount.integerIn "" least most ("invalid " ++ what) text).mapError fun reason =>
        (false, reason)
  let far : Int := (1 <<< 63) - 1
  let first ← number 'v' "starting line number" (-far) far 1
  let step ← number 'i' "line number increment" (-far) far 1
  let joined ← number 'l' "line number of blank lines" 1 far 1
  let width ← number 'w' "line number field width" 1 ((1 <<< 31) - 1) 6
  let head ← numbering 'h' "header" 'n'
  let body ← numbering 'b' "body" 't'
  let foot ← numbering 'f' "footer" 'n'
  let format := (call.value? 'n').getD ['r', 'n']
  let sign : Bytes :=
    match call.value? 'd' with
    | some [c] => [c, ':']
    | some text => text
    | Option.none => ['\\', ':']
  if format != ['l', 'n'] && format != ['r', 'n'] && format != ['r', 'z'] then
    .error (true, "invalid line numbering format: " ++ Quoting.plain format)
  else
    .ok ⟨head, body, foot, first, step, width.toNat, (call.value? 's').getD ['\t'], format,
      joined.toNat, call.has 'p', sign⟩

end Pages

/-- Writes lines with their numbers. -/
def nl : Utility :=
  withOptions 1
    { flags := "p"
      valued := "bfhwsvildn"
      names := [("body-numbering", 'b'), ("footer-numbering", 'f'), ("header-numbering", 'h'),
        ("number-width", 'w'), ("number-separator", 's'), ("starting-line-number", 'v'),
        ("line-increment", 'i'), ("join-blank-lines", 'l'), ("section-delimiter", 'd'),
        ("number-format", 'n'), ("no-renumber", 'p')] } fun call s =>
    match Pages.ofCall call with
    | .error (true, reason) => misused 1 reason s
    | .error (false, reason) => s.report 1 reason
    | .ok x =>
      (foldTexts (.plain 1) call.operands (fun at_ _ text s =>
        let (at_, lines) := x.pass at_ (rowsOf text)
        (at_, emitLines s lines)) (⟨x.body, x.first, 0⟩ : Pages.Place) s).2

/-- The utilities that count. -/
def countUtilities : Utilities := [("wc", wc), ("nl", nl)]

end MojoToolchain.Shell
