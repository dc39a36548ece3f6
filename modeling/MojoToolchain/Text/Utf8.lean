/-!
# UTF-8

`decode` gives the text of bytes, or the first fault: where the bytes stop being UTF-8, and how
many of them make up the longest beginning of a character there.  `decodeLossy` writes one
replacement character for each such beginning.
-/

namespace MojoToolchain.Text

/-- A place where bytes stop being UTF-8: the bytes before it, and the length of the invalid
sequence; a sequence that the end cuts off has no length. -/
structure Utf8Fault where
  index : Nat
  length : Option Nat
  deriving DecidableEq, Repr

/-- The wording of a fault. -/
def Utf8Fault.message : Utf8Fault → String
  | ⟨index, some n⟩ =>
    "invalid utf-8 sequence of " ++ toString n ++ " bytes from index " ++ toString index
  | ⟨index, none⟩ => "incomplete utf-8 byte sequence from index " ++ toString index

/-- What stands at the start of bytes. -/
inductive Utf8Start where
  /-- The bytes of a character. -/
  | character (length : Nat)
  /-- The beginning of a character, of so many bytes, and then something else. -/
  | invalid (length : Nat)
  /-- The beginning of a character, cut off by the end. -/
  | incomplete
  deriving DecidableEq, Repr

/-- A byte that continues a character. -/
def isContinuation (b : UInt8) : Bool := 0x80 ≤ b && b ≤ 0xBF

/-- The range of the second byte of a character of three or four bytes, by its first byte. -/
def isSecondAfter (first second : UInt8) : Bool :=
  if first == 0xE0 then 0xA0 ≤ second && second ≤ 0xBF
  else if first == 0xED then 0x80 ≤ second && second ≤ 0x9F
  else if first == 0xF0 then 0x90 ≤ second && second ≤ 0xBF
  else if first == 0xF4 then 0x80 ≤ second && second ≤ 0x8F
  else isContinuation second

/-- Looks for `missing` more continuation bytes after the first `seen` bytes of a character. -/
def continuations (seen : Nat) : Nat → List UInt8 → Utf8Start
  | 0, _ => .character seen
  | _ + 1, [] => .incomplete
  | missing + 1, b :: bs =>
    if isContinuation b then continuations (seen + 1) missing bs else .invalid seen

/-- What stands at the start of bytes; the bytes are not empty. -/
def utf8Start : List UInt8 → Utf8Start
  | [] => .incomplete
  | a :: bs =>
    if a < 0x80 then .character 1
    else if a < 0xC2 || 0xF4 < a then .invalid 1
    else if a < 0xE0 then continuations 1 1 bs
    else
      match bs with
      | [] => .incomplete
      | b :: cs =>
        if !isSecondAfter a b then .invalid 1
        else continuations 2 (if a < 0xF0 then 1 else 2) cs

/-- The first fault of bytes, `index` bytes having gone before. -/
def firstFaultFrom (index : Nat) : Nat → List UInt8 → Option Utf8Fault
  | 0, _ => none
  | _ + 1, [] => none
  | bound + 1, bytes =>
    match utf8Start bytes with
    | .character n => firstFaultFrom (index + n) bound (bytes.drop n)
    | .invalid n => some ⟨index, some n⟩
    | .incomplete => some ⟨index, none⟩

/-- The first fault of bytes; each character is shorter than the bytes, so the bound holds. -/
def firstFault (bytes : List UInt8) : Option Utf8Fault :=
  firstFaultFrom 0 bytes.length bytes

/-- The text of bytes. -/
def decode (bytes : ByteArray) : Except Utf8Fault String :=
  match String.fromUTF8? bytes with
  | some text => .ok text
  | none => .error ((firstFault bytes.toList).getD ⟨0, none⟩)

theorem decode_toUTF8 (text : String) :
  decode text.toUTF8 = .ok text
  := by
  have h : String.fromUTF8? text.toUTF8 = some text := dif_pos text.isValidUTF8
  rw [decode, h]

/-- A text is read exactly from its own bytes. -/
theorem decode_eq_ok (bytes : ByteArray) (text : String) :
  decode bytes = .ok text ↔ bytes = text.toUTF8
  := by
  constructor
  · intro h
    simp only [decode, String.fromUTF8?] at h
    split at h
    case h_1 text' hread =>
      split at hread
      · cases h
        cases hread
        rfl
      · cases hread
    case h_2 => cases h
  · rintro rfl
    apply decode_toUTF8

/-- The characters of one character's bytes. -/
def characterOf (bytes : List UInt8) : List Char :=
  match String.fromUTF8? ⟨bytes.toArray⟩ with
  | some text => text.toList
  | none => []

/-- The characters of bytes, the last one first, with a replacement for each invalid sequence. -/
def lossyFrom (read : List Char) : Nat → List UInt8 → List Char
  | 0, _ => read
  | _ + 1, [] => read
  | bound + 1, bytes =>
    match utf8Start bytes with
    | .character n => lossyFrom (characterOf (bytes.take n) ++ read) bound (bytes.drop n)
    | .invalid n => lossyFrom ('\ufffd' :: read) bound (bytes.drop n)
    | .incomplete => '\ufffd' :: read

/-- The text of bytes, with a replacement character for each invalid sequence. -/
def decodeLossy (bytes : ByteArray) : String :=
  match String.fromUTF8? bytes with
  | some text => text
  | none =>
    let list := bytes.toList
    String.ofList (lossyFrom [] list.length list).reverse

end MojoToolchain.Text
