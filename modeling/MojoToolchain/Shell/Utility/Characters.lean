import MojoToolchain.Shell.Pattern
import MojoToolchain.Shell.Utility.Amount
import MojoToolchain.Shell.Utility.Writing

/-!
# Characters

The utility that replaces characters by others, deletes them, and leaves out those that repeat.
Its arguments are lists of characters, in which ranges, classes and repetitions may stand.
-/

namespace MojoToolchain.Shell

/-- The characters from one to another. -/
def charsBetween (low high : Char) : Bytes :=
  (List.range (high.toNat - low.toNat + 1)).map fun i => Char.ofNat (low.toNat + i)

/-- A part of a list of characters. -/
inductive CharPart where
  | char (c : Char)
  | range (low high : Char)
  | class_ (name : String)
  /-- A character and those that are equivalent to it, which are none. -/
  | equivalent (c : Char)
  /-- A character so many times; without a number, as often as it takes. -/
  | repeated (c : Char) (count : Option Nat)

namespace CharPart

/-! ### Reading -/

/-- A text in which each character has a mark that says whether it was written with a backslash. -/
abbrev Marked := List (Char × Bool)

/-- The characters of a text behind its escapes, and what is said of the text. -/
def unescaped : Nat → Bytes → Marked × List String
  | 0, _ => ([], [])
  | _ + 1, [] => ([], [])
  | _ + 1, ['\\'] =>
    ([('\\', false)], ["warning: an unescaped backslash at end of string is not portable"])
  | bound + 1, '\\' :: c :: r =>
    let digits := ((c :: r).take 3).takeWhile isOctal
    let isLarge := 255 < digits.foldl (fun n d => 8 * n + (d.toNat - 48)) 0
    let kept := if isLarge then digits.take 2 else digits
    let (more, said) := unescaped bound (if digits.isEmpty then r else (c :: r).drop kept.length)
    let shown := String.ofList
    let warning := "warning: the ambiguous octal escape \\" ++ shown digits
      ++ " is being\n\tinterpreted as the 2-byte sequence \\0" ++ shown kept ++ ", "
      ++ shown (digits.drop 2)
    let char := if digits.isEmpty then (escapeOf c).getD c else ofOctal kept
    ((char, true) :: more, if isLarge then warning :: said else said)
  | bound + 1, c :: r =>
    let (more, said) := unescaped bound r
    ((c, false) :: more, said)

/-- A text as it is shown. -/
def shown (text : Bytes) : Bytes :=
  text.flatMap fun c =>
    if c == '\\' || !Quoting.isSeen c then Quoting.escapeOf c else [c]

/-- A character as it is shown. -/
def shownChar (c : Char) : Bytes :=
  let digit (place : Nat) : Char := Char.ofNat (48 + c.toNat / place % 8)
  if Quoting.isSeen c then [c] else ['\\', digit 64, digit 8, digit 1]

/-- What stands in front of a sign and a closing bracket, and what stands behind them. -/
def upToClose (sign : Char) : Marked → Option (Bytes × Marked)
  | a :: b :: r =>
    if a == (sign, false) && b == (']', false) then some ([], r)
    else (upToClose sign (b :: r)).map fun (text, rest) => (a.1 :: text, rest)
  | _ => none

/-- A repetition stands behind a bracket and one more character, as in `[:*3]`. -/
def isCount (s : Marked) : Bool :=
  match s with
  | ('*', false) :: r => (r.dropWhile fun (c, _) => c.isDigit).head? == some (']', false)
  | _ => false

/-- The number of a repetition; one that starts with a zero is octal. -/
def countOf? (digits : Bytes) : Option Nat :=
  if digits.head? == some '0' then
    if digits.all isOctal then some (digits.foldl (fun n c => 8 * n + (c.toNat - 48)) 0) else none
  else Amount.natural? "" digits

/-- A repetition behind its bracket. -/
def readRepeated (s : Marked) : Except String (Option (CharPart × Marked)) :=
  match s with
  | (c, _) :: ('*', false) :: r =>
    let inside := r.takeWhile fun (d, escaped) => d != ']' && !escaped
    let digits := inside.map Prod.fst
    match r.drop inside.length with
    | (']', false) :: rest =>
      if digits.isEmpty then .ok (some (.repeated c none, rest))
      else
        match countOf? digits with
        | some 0 => .ok (some (.repeated c none, rest))
        | some n => .ok (some (.repeated c (some n), rest))
        | none =>
          .error ("invalid repeat count " ++ Quoting.plain (shown digits)
            ++ " in [c*n] construct")
    | _ => .ok none
  | _ => .ok none

/-- A class, an equivalence class or a repetition behind its bracket. -/
def readBracket (s : Marked) : Except String (Option (CharPart × Marked)) :=
  match s with
  | (sign, false) :: inside =>
    match if sign == ':' || sign == '=' then upToClose sign inside else none with
    | none => readRepeated s
    | some ([], _) =>
      .error <|
        if sign == ':' then "missing character class name '[::]'"
        else "missing equivalence class character '[==]'"
    | some (name, rest) =>
      let word := String.ofList name
      if sign == '=' && name.length == 1 then
        .ok (some (.equivalent (name.headD sign), rest))
      else if sign == ':' && (CharSet.classes.lookup ("[:" ++ word ++ ":]")).isSome then
        .ok (some (.class_ word, rest))
      else if isCount inside then readRepeated s
      else
        .error <|
          if sign == ':' then "invalid character class " ++ Quoting.plain (shown name)
          else
            String.ofList (shown name) ++ ": equivalence class operand must be a single character"
  | _ => readRepeated s

/-- The parts of a list. -/
def read : Nat → Marked → Except String (List CharPart)
  | 0, _ => .ok []
  | bound + 1, s => do
    if s.length ≤ 2 then return s.map fun (c, _) => .char c
    let bracket ← if s.head? == some ('[', false) then readBracket (s.drop 1) else .ok none
    match bracket, s with
    | some (part, rest), _ => return part :: (← read bound rest)
    | none, (low, _) :: ('-', false) :: (high, _) :: rest =>
      if high < low then
        .error ("range-endpoints of '" ++ String.ofList (shownChar low) ++ "-"
          ++ String.ofList (shownChar high) ++ "' are in reverse collating sequence order")
      else return .range low high :: (← read bound rest)
    | none, (c, _) :: rest => return .char c :: (← read bound rest)
    | none, [] => return []

/-! ### Characters -/

/-- The characters of a part. -/
def chars : CharPart → Bytes
  | char c => [c]
  | range low high => charsBetween low high
  | class_ name =>
    ((CharSet.classes.lookup ("[:" ++ name ++ ":]")).getD []).flatMap fun (low, high) =>
      charsBetween low high
  | equivalent c => [c]
  | repeated c count => List.replicate (count.getD 0) c

/-- All characters that are not among some. -/
def others (chars : Bytes) : Bytes :=
  (charsBetween '\x00' '\xff').filter fun c => !chars.contains c

/-- A part is a character that is repeated as often as it takes. -/
def isEndless : CharPart → Bool
  | repeated _ none => true
  | _ => false

/-- Whether the large letters or the small ones are the part. -/
def isUpper? : CharPart → Option Bool
  | class_ "upper" => some true
  | class_ "lower" => some false
  | _ => none

/-- Parts in which what is repeated as often as it takes fills up a length. -/
def filledTo (size : Nat) (parts : List CharPart) : List CharPart :=
  let length := (parts.flatMap chars).length
  parts.map fun part =>
    match part with
    | repeated c none => repeated c (some (size - length))
    | part => part

/-- Pairs of characters of two lists, one after the other; the letters of one case stand beside
those of the other. -/
def pairs : Nat → List CharPart → List CharPart → Except String (List (Char × Char))
  | 0, _, _ => .ok []
  | _ + 1, _, [] => .ok []
  | bound + 1, a, b :: bs =>
    match b.isUpper?, b.chars with
    | none, [] => pairs bound a bs
    | none, d :: ds =>
      match a with
      | [] => .ok []
      | part :: more =>
        match part.chars with
        | [] => pairs bound more (b :: bs)
        | c :: cs => do
          let rest ← pairs bound (cs.map char ++ more) (ds.map char ++ bs)
          return (c, d) :: rest
    | some _, ds =>
      match a with
      | [] => .error "misaligned [:upper:] and/or [:lower:] construct"
      | part :: more =>
        if part.isUpper?.isSome then do
          return part.chars.zip ds ++ (← pairs bound more bs)
        else if part.chars.isEmpty then pairs bound more (b :: bs)
        else .error "misaligned [:upper:] and/or [:lower:] construct"

end CharPart

/-! ### Translating -/

/-- What is done with a text: some characters are replaced or deleted, and of some that repeat one
is left. -/
structure Translation where
  replaced : List (Char × Char)
  deleted : Bytes
  squeezed : Bytes

namespace Translation

/-- A character of a set that follows an equal one is left out. -/
def squeeze (set : Bytes) : Bytes → Bytes
  | a :: b :: r =>
    if a == b && set.contains a then squeeze set (b :: r) else a :: squeeze set (b :: r)
  | s => s

/-- A text as it becomes. -/
def apply (x : Translation) (text : Bytes) : Bytes :=
  let kept := if x.deleted.isEmpty then text else text.filter fun c => !x.deleted.contains c
  let replaced := kept.map fun c => (x.replaced.lookup c).getD c
  if x.squeezed.isEmpty then replaced else squeeze x.squeezed replaced

/-- A class that may not stand in the list of the characters that others become. -/
def isForeignClass : CharPart → Bool
  | .class_ name => name != "upper" && name != "lower"
  | _ => false

/-- A part is a class. -/
def isClass : CharPart → Bool
  | .class_ _ => true
  | _ => false

/-- A part is an equivalence class. -/
def isEquivalence : CharPart → Bool
  | .equivalent _ => true
  | _ => false

/-- All characters of a list are one. -/
def isUniform (chars : Bytes) : Bool := chars.all fun c => some c == chars.head?

/-- What the characters of one list become; `outside` takes all that are not in it, and `cuts`
leaves the list as long as the other. -/
def between (outside cuts : Bool) (first second : List CharPart) :
    Except String (List (Char × Char) × List CharPart) := do
  let domain := first.flatMap CharPart.chars
  let domain := if outside then CharPart.others domain else domain
  let second := CharPart.filledTo domain.length second
  let size := (second.flatMap CharPart.chars).length
  if second.any isEquivalence then
    .error "[=c=] expressions may not appear in string2 when translating"
  if second.any isForeignClass then
    .error ("when translating, the only character classes that may appear in\n"
      ++ "string2 are 'upper' and 'lower'")
  let bound := domain.length + size + first.length + second.length + 1
  let _ ← if outside then .ok [] else CharPart.pairs bound first second
  let extends_ := size < domain.length && !cuts
  if extends_ && size == 0 then
    .error "when not truncating set1, string2 must be non-empty"
  if extends_ && second.getLast?.any isClass then
    .error ("when translating with string1 longer than string2,\n"
      ++ "the latter string must not end with a character class")
  let last := ((second.flatMap CharPart.chars).getLast?).getD '\x00'
  let second :=
    if extends_ then second ++ [.repeated last (some (domain.length - size))] else second
  let range := second.flatMap CharPart.chars
  if outside && first.any isClass && !(range.length == domain.length && isUniform range) then
    .error ("when translating with complemented character classes,\n"
      ++ "string2 must map all characters in the domain to one")
  let bound := bound + domain.length
  let pairs ←
    if outside then .ok (domain.zip range)
    else CharPart.pairs bound first second
  -- of characters that stand in the list twice the last one counts
  return (pairs.reverse, second)

/-- The translation that a call asks for. -/
def ofLists (call : Call) (first : List CharPart) (second : Option (List CharPart)) :
    Except String Translation := do
  let outside := call.has 'c' || call.has 'C'
  if first.any CharPart.isEndless then
    .error "the [c*] repeat construct may not appear in string1"
  if 1 < ((second.getD []).filter CharPart.isEndless).length then
    .error "only one [c*] repeat construct may appear in string2"
  let domain := first.flatMap CharPart.chars
  let domain := if outside then CharPart.others domain else domain
  match second, call.has 'd' with
  | none, true => return ⟨[], domain, []⟩
  | none, false => return ⟨[], [], domain⟩
  | some second, true =>
    if second.any CharPart.isEndless then
      .error "the [c*] construct may appear in string2 only when translating"
    return ⟨[], domain, second.flatMap CharPart.chars⟩
  | some second, false =>
    let (pairs, second) ← between outside (call.has 't') first second
    return ⟨pairs, [], if call.has 's' then second.flatMap CharPart.chars else []⟩

end Translation

/-- The operands of a call are too few or too many. -/
def operandsFault? (call : Call) : Option String :=
  let deletes := call.has 'd'
  let squeezes := call.has 's'
  let most := if deletes && !squeezes then 1 else 2
  let least := if deletes == squeezes then 2 else 1
  match call.operands with
  | [] => some "missing operand"
  | [only] =>
    if least ≤ 1 then none
    else
      let reason := if squeezes then "both deleting and squeezing repeats." else "translating."
      some ("missing operand after " ++ Quoting.plain only ++ "\nTwo strings must be given when "
        ++ reason)
  | operands =>
    match operands.drop most with
    | [] => none
    | extra :: _ =>
      let reason :=
        if operands.length == 2 then
          "\nOnly one string may be given when deleting without squeezing repeats."
        else ""
      some ("extra operand " ++ Quoting.plain extra ++ reason)

/-- Replaces each character of one list by the character of another at the same position, deletes
the characters of a list, or leaves out repeated ones. -/
def tr : Utility :=
  withOptions 1
    { flags := "cCdst"
      valued := ""
      names := [("complement", 'c'), ("delete", 'd'), ("squeeze-repeats", 's'),
        ("truncate-set1", 't')]
      inFront := true } fun call s =>
    match operandsFault? call with
    | some reason => misused 1 reason s
    | none =>
      let parts (s : State) (text : Bytes) : Except String (List CharPart) × State :=
        let (marked, said) := CharPart.unescaped (text.length + 1) text
        (CharPart.read (marked.length + 1) marked,
          said.foldl (fun s warning => s.report 0 warning) s)
      let (first, s) := parts s (call.operands.headD [])
      match first, call.operands.drop 1 with
      | .error reason, _ => s.report 1 reason
      | .ok first, more =>
        let (second, s) : Except String (Option (List CharPart)) × State :=
          match more with
          | [] => (.ok none, s)
          | text :: _ =>
            let (second, s) := parts s text
            (second.map some, s)
        match second >>= Translation.ofLists call first with
        | .error reason => s.report 1 reason
        | .ok x =>
          let (text, s) := drain s
          (s.emit 1 (x.apply text)).withStatus 0

/-! ### Other alphabets -/

namespace Base64

/-- The digits of a number in base 64. -/
def digits : Bytes :=
  "ABCDEFGHIJKLMNOPQRSTUVWXYZabcdefghijklmnopqrstuvwxyz0123456789+/".toList

/-- A text in base 64. -/
def encode : Bytes → Bytes
  | a :: b :: c :: r => first 4 (65536 * a.toNat + 256 * b.toNat + c.toNat) ++ encode r
  | [a, b] => first 3 (65536 * a.toNat + 256 * b.toNat) ++ ['=']
  | [a] => first 2 (65536 * a.toNat) ++ ['=', '=']
  | [] => []
where
  /-- The first digits of a number of 24 bits. -/
  first (count n : Nat) : Bytes :=
    (List.range count).map fun i => (digits[(n >>> (18 - 6 * i)) % 64]?).getD 'A'

/-- The bytes of a text in base 64, as far as it is one, and whether all of it is. -/
def decode (text : Bytes) : Bytes × Bool :=
  match text with
  | [] => ([], true)
  | a :: r =>
    let group := (a :: r).take 4
    let found := group.takeWhile digits.contains
    let filling := List.replicate (4 - found.length) '='
    let n := (found ++ filling).foldl (fun n c => 64 * n + digits.idxOf c % 64) 0
    let bytes := [n / 65536, n / 256, n].map fun n => Char.ofNat (n % 256)
    let bytes := bytes.take (found.length - 1)
    if 2 ≤ found.length && group == found ++ filling then
      let (more, whole) := decode ((a :: r).drop 4)
      (bytes ++ more, whole)
    else (bytes, false)
termination_by text.length
decreasing_by
  simp only [List.length_drop, List.length_cons]
  omega

end Base64

/-- Writes a text in base 64, or reads it. -/
def base64 : Utility :=
  withOptions 1
    { flags := "di"
      valued := "w"
      names := [("decode", 'd'), ("ignore-garbage", 'i'), ("wrap", 'w')] } fun call s =>
    let width := (call.value? 'w').elim (some 76) (Amount.natural? "")
    match width, call.operands with
    | none, _ =>
      s.report 1 ("invalid wrap size: " ++ Quoting.plain ((call.value? 'w').getD []))
    | _, _ :: extra :: _ => misused 1 ("extra operand " ++ Quoting.plain extra) s
    | some width, operands =>
      let wording (file : Bytes) (fault : Host.Fault) : String :=
        if fault == .isDirectory then "read error: Is a directory"
        else (Reports.plain 1).wording file fault
      forTexts ⟨1, wording⟩ operands (fun _ text s =>
        if call.has 'd' then
          let isKept (c : Char) : Bool :=
            if call.has 'i' then c == '=' || Base64.digits.contains c else c != '\n'
          let (bytes, whole) := Base64.decode (text.filter isKept)
          let s := s.emit 1 bytes
          if whole then s else s.report 1 "invalid input"
        else
          let written := Base64.encode text
          if width == 0 then s.emit 1 written
          else emitLines s (partsOf width (written.length + 1) written)) s

/-- The utilities that deal with characters. -/
def characterUtilities : Utilities := [("tr", tr), ("base64", base64)]

end MojoToolchain.Shell
