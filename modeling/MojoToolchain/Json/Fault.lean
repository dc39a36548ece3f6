import MojoToolchain.Json.Mismatch

/-!
# Faults of a JSON text

A reader that stops says why and where.  The place is kept as the text that was not yet read,
and a number of bytes of it that were looked at; `Stop.message` turns it into a line and a
column, both counted as the reader goes: lines from one, columns in bytes since the last line
feed.
-/

namespace MojoToolchain.Json

/-- Why a text is not read. -/
inductive Fault where
  | endInValue
  | endInList
  | endInObject
  | endInString
  | expectedWord
  | expectedValue
  | expectedListCommaOrEnd
  | expectedObjectCommaOrEnd
  | expectedColon
  | keyNotString
  | trailingComma
  | trailingCharacters
  | invalidNumber
  | numberOutOfRange
  | controlCharacter
  | invalidEscape
  | loneSurrogate
  | unfinishedSurrogate
  | tooDeep
  | mismatch (what : Mismatch)
  deriving DecidableEq, Repr

/-- The wording of a fault. -/
def Fault.message : Fault → String
  | endInValue => "EOF while parsing a value"
  | endInList => "EOF while parsing a list"
  | endInObject => "EOF while parsing an object"
  | endInString => "EOF while parsing a string"
  | expectedWord => "expected ident"
  | expectedValue => "expected value"
  | expectedListCommaOrEnd => "expected `,` or `]`"
  | expectedObjectCommaOrEnd => "expected `,` or `\x7d`"
  | expectedColon => "expected `:`"
  | keyNotString => "key must be a string"
  | trailingComma => "trailing comma"
  | trailingCharacters => "trailing characters"
  | invalidNumber => "invalid number"
  | numberOutOfRange => "number out of range"
  | controlCharacter => "control character (\\u0000-\\u001F) found while parsing a string"
  | invalidEscape => "invalid escape"
  | loneSurrogate => "lone leading surrogate in hex escape"
  | unfinishedSurrogate => "unexpected end of hex escape"
  | tooDeep => "recursion limit exceeded"
  | mismatch what => what.message

/-- A fault, the text that was left when it was found, and how many bytes of that text the
reader had looked at. -/
structure Stop where
  fault : Fault
  rest : List Char
  seen : Nat
  deriving DecidableEq, Repr

namespace Stop

/-- A stop before the text that is left. -/
def before (fault : Fault) (rest : List Char) : Stop := ⟨fault, rest, 0⟩

/-- A stop at the next byte, or at the end. -/
def next (fault : Fault) (rest : List Char) : Stop := ⟨fault, rest, if rest.isEmpty then 0 else 1⟩

end Stop

/-- The number of bytes of a text. -/
def byteLength (s : List Char) : Nat := s.foldl (fun n c => n + c.utf8Size) 0

/-- The bytes of `text` up to a stop. -/
def Stop.consumed (stop : Stop) (text : List Char) : List UInt8 :=
  (text.flatMap String.utf8EncodeChar).take (byteLength text - byteLength stop.rest + stop.seen)

/-- The line of a stop, from one. -/
def Stop.line (stop : Stop) (text : List Char) : Nat :=
  1 + (stop.consumed text).count 10

/-- The column of a stop: the bytes since the last line feed. -/
def Stop.column (stop : Stop) (text : List Char) : Nat :=
  ((stop.consumed text).reverse.takeWhile (· != 10)).length

/-- The wording of a stop in `text`. -/
def Stop.message (stop : Stop) (text : List Char) : String :=
  stop.fault.message ++ " at line " ++ toString (stop.line text)
    ++ " column " ++ toString (stop.column text)

end MojoToolchain.Json
