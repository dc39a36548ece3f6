import MojoToolchain.Decimal.Quantity
import MojoToolchain.Shell.Utility.Basic

/-!
# The calendar

`date` writes moments as a format says.  A moment is counted in seconds from the start of 1970, in
the time that has no offset; the moment at which a program runs is not known, and is that start.
-/

namespace MojoToolchain.Shell

/-- A moment, in seconds and parts of a thousand millions of a second. -/
structure Moment where
  seconds : Int
  parts : Nat
  deriving DecidableEq, Repr

/-- A day of a year. -/
structure Day where
  year : Int
  /-- The month, counted from one. -/
  month : Nat
  /-- The day of the month, counted from one. -/
  day : Nat
  deriving DecidableEq, Repr

namespace Day

/-- A year has a day more than others. -/
def isLeap (year : Int) : Bool := (year % 4 == 0 && year % 100 != 0) || year % 400 == 0

/-- The number of days of a month. -/
def daysIn (year : Int) (month : Nat) : Nat :=
  if month == 2 then if isLeap year then 29 else 28
  else if [4, 6, 9, 11].contains month then 30
  else 31

/-- There is such a day. -/
def exists_ (x : Day) : Bool :=
  1 ≤ x.month && x.month ≤ 12 && 1 ≤ x.day && x.day ≤ daysIn x.year x.month

/-- The number of days from the start of 1970 to the start of a year. -/
def daysBefore (year : Int) : Int :=
  let y := year - 1
  365 * (year - 1970) + (y.fdiv 4 - 492) - (y.fdiv 100 - 19) + (y.fdiv 400 - 4)

/-- The number of days of a year in front of a day. -/
def daysInto (x : Day) : Nat :=
  ((List.range (x.month - 1)).map fun m => daysIn x.year (m + 1)).foldl (· + ·) 0 + (x.day - 1)

/-- The number of days from the start of 1970 to a day. -/
def number (x : Day) : Int := daysBefore x.year + daysInto x

/-- The number of days of 400 years, after which the calendar repeats itself. -/
def cycle : Nat := 146097

/-- The day that so many days lead to from the start of 1970.  Years are counted from March on, so
that a leap day is the last one of its year. -/
def ofNumber (n : Int) : Day :=
  let n := n + 719468
  let rest := (n.fmod cycle).toNat
  let years := (rest - rest / 1460 + rest / 36524 - rest / 146096) / 365
  let days := rest - (365 * years + years / 4 - years / 100)
  let months := (5 * days + 2) / 153
  let month := if months < 10 then months + 3 else months - 9
  let year := n.fdiv cycle * 400 + years
  ⟨if month ≤ 2 then year + 1 else year, month, days - (153 * months + 2) / 5 + 1⟩

/-- The day of the week, counted from zero for a Sunday. -/
def weekday (x : Day) : Nat := ((x.number + 4) % 7).toNat

/-- The week of the year when weeks start on a day of the week; the days in front of the first one
are in the week zero. -/
def week (start : Nat) (x : Day) : Nat := (x.daysInto + 7 - (x.weekday + 7 - start) % 7) / 7

/-- The year and the week of a day when weeks start on Mondays and belong to the year of their
Thursdays. -/
def weekOfThursday (x : Day) : Int × Nat :=
  let thursday := ofNumber (x.number + 3 - ((x.weekday + 6) % 7 : Nat))
  (thursday.year, thursday.daysInto / 7 + 1)

/-- The names of the days of the week. -/
def names : List String :=
  ["Sunday", "Monday", "Tuesday", "Wednesday", "Thursday", "Friday", "Saturday"]

/-- The names of the months. -/
def monthNames : List String :=
  ["January", "February", "March", "April", "May", "June", "July", "August", "September",
   "October", "November", "December"]

end Day

namespace Moment

/-- The number of seconds of a day. -/
def daySeconds : Nat := 86400

/-- The start of 1970. -/
def start : Moment := ⟨0, 0⟩

/-- The day of a moment. -/
def day (x : Moment) : Day := .ofNumber (x.seconds.fdiv daySeconds)

/-- The seconds of the day that have gone. -/
def secondsOfDay (x : Moment) : Nat := (x.seconds.fmod daySeconds).toNat

/-- The moment of a day at which so many seconds of it have gone. -/
def on (day : Day) (seconds parts : Nat) : Moment := ⟨day.number * daySeconds + seconds, parts⟩

/-! ### Writing -/

/-- How a part of a format is written. -/
structure Flags where
  /-- What fills a number up, if something was asked for; nothing does for the null character. -/
  fill : Option Char
  upper : Bool
  swapped : Bool
  width : Option Nat

/-- A number filled up to a width. -/
def padded (flags : Flags) (fill : Char) (width : Nat) (n : Int) : Bytes :=
  let digits := Nat.toDigits 10 n.natAbs
  let sign : Bytes := if n < 0 then ['-'] else []
  let missing := flags.width.getD width - digits.length - sign.length
  match flags.fill.getD fill with
  | '\x00' => sign ++ digits
  | ' ' => List.replicate missing ' ' ++ sign ++ digits
  | c => sign ++ List.replicate missing c ++ digits

/-- A text filled up to a width. -/
def word (flags : Flags) (text : String) : Bytes :=
  let text := text.toList
  let text := if flags.upper then text.map Char.toUpper else text
  let isUpper := text.all fun c => !c.isLower
  let text :=
    if flags.swapped then text.map (if isUpper then Char.toLower else Char.toUpper) else text
  let fill := if flags.fill == some '0' then '0' else ' '
  List.replicate (flags.width.getD 0 - text.length) fill ++ text

/-- The parts of a format that stand for others. -/
def abbreviation : Char → Option String
  | 'c' => some "%a %b %e %H:%M:%S %Y"
  | 'D' | 'x' => some "%m/%d/%y"
  | 'F' => some "%Y-%m-%d"
  | 'r' => some "%I:%M:%S %p"
  | 'R' => some "%H:%M"
  | 'T' | 'X' => some "%H:%M:%S"
  | _ => none

/-- What a letter of a format stands for. -/
def part (x : Moment) (flags : Flags) (letter : Char) : Option Bytes :=
  let day := x.day
  let hour := x.secondsOfDay / 3600
  let hour12 := if hour % 12 == 0 then 12 else hour % 12
  let (weekYear, week) := day.weekOfThursday
  let two (n : Int) : Option Bytes := some (padded flags '0' 2 n)
  let name (names : List String) (i : Nat) : Option Bytes := some (word flags (names.getD i ""))
  let short (names : List String) (i : Nat) : Option Bytes :=
    some (word flags (String.ofList ((names.getD i "").toList.take 3)))
  match letter with
  | '%' => some ['%']
  | 'n' => some ['\n']
  | 't' => some ['\t']
  | 'a' => short Day.names day.weekday
  | 'A' => name Day.names day.weekday
  | 'b' | 'h' => short Day.monthNames (day.month - 1)
  | 'B' => name Day.monthNames (day.month - 1)
  | 'C' => two (day.year.fdiv 100)
  | 'd' => two day.day
  | 'e' => some (padded flags ' ' 2 day.day)
  | 'g' => two (weekYear.fmod 100)
  | 'G' => some (padded flags '0' 4 weekYear)
  | 'H' => two hour
  | 'I' => two hour12
  | 'j' => some (padded flags '0' 3 (day.daysInto + 1))
  | 'k' => some (padded flags ' ' 2 hour)
  | 'l' => some (padded flags ' ' 2 hour12)
  | 'm' => two day.month
  | 'M' => two (x.secondsOfDay / 60 % 60)
  | 'N' => some (padded { flags with width := none } '0' 9 x.parts)
  | 'p' => some (word flags (if hour < 12 then "AM" else "PM"))
  | 'P' => some (word flags (if hour < 12 then "am" else "pm"))
  | 'q' => some (padded flags '0' 1 ((day.month + 2) / 3))
  | 's' => some (padded flags '0' 1 x.seconds)
  | 'S' => two (x.secondsOfDay % 60)
  | 'u' => some (padded flags '0' 1 ((day.weekday + 6) % 7 + 1))
  | 'U' => two (day.week 0)
  | 'V' => two week
  | 'w' => some (padded flags '0' 1 day.weekday)
  | 'W' => two (day.week 1)
  | 'y' => two (day.year.fmod 100)
  | 'Y' => some (padded flags '0' 4 day.year)
  | 'z' => some "+0000".toList
  | 'Z' => some (word flags "UTC")
  | _ => none

/-- The flags in front of the letter of a format, and what follows. -/
def readFlags (flags : Flags) : Bytes → Flags × Bytes
  | [] => (flags, [])
  | c :: r =>
    match c with
    | '-' => readFlags { flags with fill := some '\x00' } r
    | '_' => readFlags { flags with fill := some ' ' } r
    | '0' => readFlags { flags with fill := some '0' } r
    | '+' => readFlags { flags with fill := some '0' } r
    | '^' => readFlags { flags with upper := true } r
    | '#' => readFlags { flags with swapped := true } r
    | c => (flags, c :: r)

/-- Writes a moment in a format. -/
def write (x : Moment) : Nat → Bytes → Bytes
  | 0, _ => []
  | _ + 1, [] => []
  | bound + 1, '%' :: r =>
    let (flags, rest) := readFlags ⟨none, false, false, none⟩ r
    let digits := rest.takeWhile Char.isDigit
    let flags := { flags with width := naturalOf digits }
    let rest := rest.drop digits.length
    let zone := rest.takeWhile (· == ':')
    let rest := if ['E', 'O'].any fun c => rest.head? == some c then rest.drop 1 else rest
    match zone.length, rest with
    | 0, c :: more =>
      match abbreviation c, x.part flags c with
      | some text, _ =>
        let text := x.write bound text.toList
        let text := if flags.upper then text.map Char.toUpper else text
        List.replicate (flags.width.getD 0 - text.length) ' ' ++ text ++ x.write bound more
      | none, some text => text ++ x.write bound more
      | none, none => '%' :: x.write bound r
    | colons, rest =>
      match colons, rest.drop colons with
      | 1, 'z' :: more => "+00:00".toList ++ x.write bound more
      | 2, 'z' :: more => "+00:00:00".toList ++ x.write bound more
      | 3, 'z' :: more => "+00".toList ++ x.write bound more
      | _, _ => '%' :: x.write bound r
  | bound + 1, c :: r => c :: x.write bound r

/-! ### Reading -/

/-- The numbers that digits write between marks, if there are so many. -/
def numbersIn (mark : Char) (count : Nat) (text : Bytes) : Option (List Nat) :=
  let numbers := (text.splitOn mark).mapM naturalOf
  numbers.filter fun numbers => numbers.length == count

/-- The day that a text writes, in one of some ways. -/
def dayOf? (text : Bytes) : Option Day :=
  let digits := text.all Char.isDigit && text.length == 8
  let day : Option Day :=
    match numbersIn '-' 3 text, numbersIn '/' 3 text, digits with
    | some [y, m, d], _, _ => some ⟨y, m, d⟩
    | none, some [a, b, c], _ => some (if 31 < a then ⟨a, b, c⟩ else ⟨c, a, b⟩)
    | none, none, true =>
      match naturalOf (text.take 4), naturalOf ((text.drop 4).take 2), naturalOf (text.drop 6) with
      | some y, some m, some d => some ⟨y, m, d⟩
      | _, _, _ => none
    | _, _, _ => none
  day.filter (·.exists_)

/-- The seconds of a day that a text such as `12:30` or `12:30:15` writes. -/
def timeOf? (text : Bytes) : Option Nat :=
  match (text.splitOn ':').mapM naturalOf with
  | some [h, m] => if h < 24 && m < 60 then some (3600 * h + 60 * m) else none
  | some [h, m, s] => if h < 24 && m < 60 && s < 61 then some (3600 * h + 60 * m + s) else none
  | _ => none

/-- The moment that words write: a day, and a time of it. -/
def ofWords? : List Bytes → Option Moment
  | [] => some start
  | [text] => do
    let day ← dayOf? text
    return .on day 0 0
  | [day, time] => do
    let day ← dayOf? day
    let seconds ← timeOf? time
    return .on day seconds 0
  | _ => none

/-- The moment that a text writes: seconds behind an `@`, or a day and a time of it. -/
def ofText? (text : Bytes) : Option Moment :=
  match text with
  | '@' :: number =>
    let isNumber := number.all fun c => c.isDigit || c == '-' || c == '+' || c == '.'
    match if isNumber then Quantity.read? number else none with
    | some (.ratio negative num den, []) =>
      let n : Int := num
      let n := if negative then -n else n
      let whole := n.fdiv den
      some ⟨whole, ((n - whole * den) * 1000000000 / den).toNat⟩
    | _ => none
  | text =>
    let words := (text.splitOn ' ').filter (!·.isEmpty)
    let words := match words with
      | [both] => both.splitOn 'T'
      | words => words
    let isZone (word : Bytes) : Bool :=
      ["UTC".toList, "GMT".toList, ['Z'], "+0000".toList].contains word
    let words := (words.filter fun word => !isZone word).map fun word =>
      if word.getLast? == some 'Z' then word.dropLast else word
    ofWords? words

end Moment

/-- The format that an option asks for. -/
def dateFormat? (letter : Char) (value : Bytes) : Except String (Option Bytes) :=
  let isoWords := ["hours", "minutes", "date", "seconds", "ns"]
  let standardWords := ["date", "seconds", "ns"]
  let ofWord (mark : String) : String → String
    | "hours" => "%Y-%m-%d" ++ mark ++ "%H+00:00"
    | "minutes" => "%Y-%m-%d" ++ mark ++ "%H:%M+00:00"
    | "seconds" => "%Y-%m-%d" ++ mark ++ "%H:%M:%S+00:00"
    | "ns" => "%Y-%m-%d" ++ mark ++ "%H:%M:%S,%N+00:00"
    | _ => "%Y-%m-%d"
  match letter with
  | 'I' => do
    let word ← if value.isEmpty then .ok "date" else choose "--iso-8601" isoWords value
    return some (ofWord "T" word).toList
  | 'ρ' => do
    let word ← choose "--rfc-3339" standardWords value
    let text := (ofWord " " word).toList.map fun c => if c == ',' then '.' else c
    return some text
  | 'R' => .ok (some "%a, %d %b %Y %H:%M:%S +0000".toList)
  | _ => .ok none

/-- Writes a moment. -/
def date : Utility :=
  let forms : OptionForms :=
    { flags := "Ruδ", valued := "dfrsρ",
      names := [("date", 'd'), ("debug", 'δ'), ("file", 'f'), ("iso-8601", 'I'),
        ("reference", 'r'), ("rfc-email", 'R'), ("rfc-822", 'R'), ("rfc-2822", 'R'),
        ("rfc-3339", 'ρ'), ("set", 's'), ("uct", 'u'), ("utc", 'u'), ("universal", 'u')],
      loose := "I" }
  withOptions 1 forms fun call s =>
    let formats := call.options.mapM fun (letter, value) => dateFormat? letter value
    let given := (call.operands.filter fun arg => arg.head? == some '+').map (·.drop 1)
    match formats with
    | .error reason => misused 1 reason s
    | .ok formats =>
      let formats := formats.filterMap fun format => format
      match call.operands, formats ++ given with
      | _ :: extra :: _, _ => misused 1 ("extra operand " ++ Quoting.plain extra) s
      | _, _ :: _ :: _ => s.report 1 "multiple output formats specified"
      | [text], [] => s.report 1 ("invalid date " ++ Quoting.plain text)
      | _, formats =>
        let format := formats.headD "%a %b %e %H:%M:%S %Z %Y".toList
        let badFile := (call.value? 'r').filter fun file => (s.kindAt file).isNone
        match badFile, (call.value? 'd').map fun text => (text, Moment.ofText? text) with
        | some file, _ =>
          s.report 1 (Quoting.asNeeded file ++ ": No such file or directory")
        | none, some (text, none) => s.report 1 ("invalid date " ++ Quoting.plain text)
        | none, some (_, some moment) =>
          (emitLines s [moment.write (8 * format.length + 8) format]).withStatus 0
        | none, none =>
          (emitLines s [Moment.start.write (8 * format.length + 8) format]).withStatus 0

end MojoToolchain.Shell
