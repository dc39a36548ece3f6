import MojoToolchain.Json.Reader

/-!
# Reading records from a text

A `Typed α` reads a value of one known form.  `Typed.record` reads a record from an object,
whose unknown members it passes over, or from a list with the fields in order; a member that
comes twice is a fault.  A value of another form is a `Mismatch`, placed after the value, or
before it if it is a container.
-/

namespace MojoToolchain.Json

/-! ### Passing over values -/

/-- A container that is open. -/
inductive Frame where
  | list
  | object
  deriving DecidableEq, Repr

/-- Passes over the rest of a string literal; `\u` needs four hexadecimal digits, of any value. -/
def skipString (s : List Char) : Except Stop (Rest s) :=
  match s with
  | [] => .error (.before .endInString [])
  | '"' :: r => .ok (.after '"' r)
  | '\\' :: 'u' :: r =>
    match readHex r with
    | .error stop => .error stop
    | .ok (_, t) =>
      let behind := (t.cons 'u').cons '\\'
      (skipString t.val).map behind.trans
  | '\\' :: e :: r =>
    match simpleEscape? e with
    | none => .error (.next .invalidEscape (e :: r))
    | some _ =>
      let behind := (Rest.after e r).cons '\\'
      (skipString r).map behind.trans
  | ['\\'] => .error (.before .endInString [])
  | c :: r =>
    if c.toNat < 32 then .error (.before .controlCharacter (c :: r))
    else (skipString r).map (Rest.cons c)
termination_by s.length
decreasing_by
  · exact behind.property
  · exact behind.property
  · exact (Rest.after c r).property

/-- Passes over one digit or more. -/
def skipDigits (s : List Char) : Except Stop (Rest s) :=
  match h : spanDigits s with
  | ([], rest) => .error (.next .invalidNumber rest)
  | (_ :: _, rest) => .ok ⟨rest, length_lt_of_spanDigits h (List.cons_ne_nil _ _)⟩

/-- Passes over a sign, if there is one. -/
def skipSign (s : List Char) : Tail s :=
  match s with
  | '+' :: r => (Rest.after '+' r).tail
  | '-' :: r => (Rest.after '-' r).tail
  | s => .all s

/-- Passes over an exponent, if there is one. -/
def skipExponent (s : List Char) : Except Stop (Tail s) :=
  match s with
  | c :: r =>
    if c == 'e' || c == 'E' then do
      let t := skipSign r
      let u ← skipDigits t.val
      .ok ((t.rest u).cons c).tail
    else .ok (.all (c :: r))
  | [] => .ok (.all [])

/-- Passes over a fraction and an exponent, as far as they are there. -/
def skipFraction (s : List Char) : Except Stop (Tail s) :=
  match s with
  | '.' :: r => do
    let t ← skipDigits r
    let u ← skipExponent t.val
    .ok ((t.then u).cons '.').tail
  | s => skipExponent s

/-- Passes over the digits of a number and what may follow them. -/
def skipUnsigned (s : List Char) : Except Stop (Rest s) :=
  match s with
  | '0' :: t =>
    if (t.head?.map Char.isDigit).getD false then .error (.next .invalidNumber t)
    else do
      let u ← skipFraction t
      .ok (u.cons '0')
  | s => do
    let t ← skipDigits s
    let u ← skipFraction t.val
    .ok (t.then u)

/-- Passes over a number. -/
def skipNumber (s : List Char) : Except Stop (Rest s) :=
  match s with
  | '-' :: r => do
    let t ← skipUnsigned r
    .ok (t.cons '-')
  | s => skipUnsigned s

/-- Passes over a value that is no container, from a text that starts with it. -/
def skipScalar (s : List Char) : Except Stop (Rest s) :=
  match s with
  | '"' :: r => do
    let t ← skipString r
    .ok (t.cons '"')
  | c :: r =>
    if c == '-' || c.isDigit then skipNumber (c :: r)
    else do
      let (_, rest) ← readScalar (c :: r)
      .ok rest
  | [] => .error (.next .endInValue [])

/-- Passes over a key and its colon; `s` starts with the key. -/
def skipKey (s : List Char) : Except Stop (Rest s) :=
  match h : skipSpace s with
  | '"' :: r => do
    let t ← skipString r
    let u ← readColon t.val
    .ok ((Rest.afterSpace h).trans (t.trans u))
  | [] => .error (.next .endInObject [])
  | r => .error (.next .keyNotString r)

mutual

/-- Passes over a value and over what closes the containers around it, the innermost first. -/
def skipInside (frames : List Frame) (s : List Char) : Except Stop (Rest s) :=
  match h : skipSpace s with
  | '[' :: r =>
    let inner := Rest.afterSpace h
    match h' : skipSpace r with
    | [] => .error (.next .endInList [])
    | ']' :: _ => do
      let t := inner.trans (.afterSpace h')
      let u ← skipClosing frames t.val
      .ok (t.then u)
    | _ => do
      let u ← skipInside (.list :: frames) inner.val
      .ok (inner.trans u)
  | '\x7b' :: r =>
    let inner := Rest.afterSpace h
    match h' : skipSpace r with
    | [] => .error (.next .endInObject [])
    | '\x7d' :: _ => do
      let t := inner.trans (.afterSpace h')
      let u ← skipClosing frames t.val
      .ok (t.then u)
    | _ => do
      let k ← skipKey r
      let t := inner.trans k
      let u ← skipInside (.object :: frames) t.val
      .ok (t.trans u)
  | _ => do
    let v ← skipScalar (skipSpace s)
    let t := (Tail.afterSpace s).rest v
    let u ← skipClosing frames t.val
    .ok (t.then u)
termination_by s.length
decreasing_by
  · exact t.property
  · exact inner.property
  · exact t.property
  · exact t.property
  · exact t.property

/-- Passes over what follows a value inside containers. -/
def skipClosing (frames : List Frame) (s : List Char) : Except Stop (Tail s) :=
  match frames with
  | [] => .ok (.all s)
  | .list :: outer =>
    match h : skipSpace s with
    | [] => .error (.next .endInList [])
    | ',' :: _ => do
      let r := Rest.afterSpace h
      let u ← skipInside (.list :: outer) r.val
      .ok (r.trans u).tail
    | ']' :: _ => do
      let r := Rest.afterSpace h
      let u ← skipClosing outer r.val
      .ok (r.then u).tail
    | r => .error (.next .expectedListCommaOrEnd r)
  | .object :: outer =>
    match h : skipSpace s with
    | [] => .error (.next .endInObject [])
    | ',' :: r => do
      let k ← skipKey r
      let t := (Rest.afterSpace h).trans k
      let u ← skipInside (.object :: outer) t.val
      .ok (t.trans u).tail
    | '\x7d' :: _ => do
      let r := Rest.afterSpace h
      let u ← skipClosing outer r.val
      .ok (r.then u).tail
    | r => .error (.next .expectedObjectCommaOrEnd r)
termination_by s.length
decreasing_by
  · exact r.property
  · exact r.property
  · exact t.property
  · exact r.property

end

/-- Passes over a value. -/
def skipValue (s : List Char) : Except Stop (Rest s) := skipInside [] s

/-! ### Readers for known forms -/

/-- A reader for values of one form. -/
abbrev Typed (α : Type) := (s : List Char) → Reading α s

namespace Typed

/-- Reads a value that is no container and that `accept` takes; a container is no such value. -/
def scalar (shape : Shape) (accept : Json → Except Mismatch α) : Typed α := fun s =>
  match skipSpace s with
  | '[' :: r => .error (.before (.mismatch (.type .sequence shape)) ('[' :: r))
  | '\x7b' :: r => .error (.before (.mismatch (.type .mapping shape)) ('\x7b' :: r))
  | _ => do
    let (value, r) ← readScalar (skipSpace s)
    match accept value with
    | .ok a => .ok (a, (Tail.afterSpace s).rest r)
    | .error what => .error (.before (.mismatch what) r.val)

/-- Reads a truth value. -/
def boolean : Typed Bool := scalar .boolean toBool

/-- Reads a text. -/
def text (shape : Shape) : Typed String := scalar shape (toText shape)

/-- Reads a natural number of so many bits. -/
def unsigned (bits : Nat) : Typed Nat := scalar (.unsigned bits) (toUnsigned bits)

/-- Reads a value or `null`. -/
def optional (item : Typed α) : Typed (Option α) := fun s =>
  match skipSpace s with
  | 'n' :: _ => do
    let (_, r) ← readScalar (skipSpace s)
    .ok (none, (Tail.afterSpace s).rest r)
  | _ => do
    let (a, r) ← item s
    .ok (some a, r)

/-- Reads a list. -/
def list (item : Typed α) : Typed (List α) := fun s =>
  match h : skipSpace s with
  | '[' :: r => do
    let (items, t) ← readList item r
    .ok (items, (Tail.afterSpace s).rest (.ofEq h t))
  | _ => scalar .sequence (fun v => .error (.type v.found .sequence)) s

/-! ### Records -/

/-- A field of a record: its key, and a reader for its part of the record. -/
structure Field (σ : Type) where
  key : String
  read : Typed (σ → σ)

/-- A field that is read with `item` and stored with `store`. -/
def Field.of (key : String) (item : Typed α) (store : α → σ → σ) : Field σ where
  key := key
  read s := do
    let (a, r) ← item s
    .ok (store a, r)

/-- Where a repeated member is reported: after white space and a closing brace. -/
def afterBrace (s : List Char) : List Char :=
  match skipSpace s with
  | '\x7d' :: r => r
  | r => r

/-- Reads the members of a record up to the closing brace; `s` starts with a key, and `taken`
are the keys of the fields read before. -/
def members (fields : List (Field σ)) (taken : List String) (acc : σ) (s : List Char) :
    Reading σ s := do
  let (key, r) ← readKey s
  if taken.contains key then
    .error (.before (.mismatch (.duplicateField key)) (afterBrace r.val))
  else
    let t ← readColon r.val
    let (acc, taken, u) : σ × List String × Rest t.val ←
      match fields.find? (·.key == key) with
      | some field => do
        let (store, u) ← field.read t.val
        .ok (store acc, key :: taken, u)
      | none => do
        let u ← skipValue t.val
        .ok (acc, taken, u)
    let behind := (r.trans t).trans u
    match h : skipSpace u.val with
    | [] => .error (.next .endInObject [])
    | '\x7d' :: _ => .ok (acc, behind.trans (.afterSpace h))
    | ',' :: w =>
      let k ← nextKey w
      let start := (behind.trans (.afterSpace h)).then k
      let (acc, x) ← members fields taken acc start.val
      .ok (acc, start.trans x)
    | w => .error (.next .expectedObjectCommaOrEnd w)
termination_by s.length
decreasing_by exact start.property

/-- Passes over the closing bracket of a list with as many items as the record has fields. -/
def closeItems (s : List Char) : Except Stop (Rest s) :=
  match h : skipSpace s with
  | [] => .error (.next .endInList [])
  | ']' :: _ => .ok (.afterSpace h)
  | ',' :: r =>
    match skipSpace r with
    | ']' :: t => .error (.next .trailingComma (']' :: t))
    | t => .error (.next .trailingCharacters t)
  | r => .error (.next .trailingCharacters r)

/-- Where the next item of a list starts; there is none when the list ends. -/
def nextItem (first : Bool) (s : List Char) : Except Stop (Tail s ⊕ Rest s) :=
  match h : skipSpace s with
  | [] => .error (.next .endInList [])
  | ']' :: _ => .ok (.inr (.afterSpace h))
  | c :: r =>
    if first then .ok (.inl (.afterSpace s))
    else if c == ',' then
      match skipSpace r with
      | [] => .error (.next .endInValue [])
      | ']' :: t => .error (.next .trailingComma (']' :: t))
      | _ => .ok (.inl ((Rest.afterSpace h).then (.afterSpace r)).tail)
    else .error (.next .expectedListCommaOrEnd (c :: r))

/-- Reads the fields of a record from a list, in order, after the opening bracket; fields for
which there is no item stay as they are. -/
def items (first : Bool) (acc : σ) : List (Field σ) → (s : List Char) → Except Stop (σ × Rest s)
  | [], s => do
    let r ← closeItems s
    .ok (acc, r)
  | field :: fields, s => do
    match ← nextItem first s with
    | .inr r => .ok (acc, r)
    | .inl t =>
      let (store, u) ← field.read t.val
      let (acc, w) ← items false (store acc) fields u.val
      .ok (acc, t.rest (u.trans w))

/-- Reads a record, starting from `start`. -/
def record (name : String) (fields : List (Field σ)) (start : σ) : Typed σ := fun s =>
  match h : skipSpace s with
  | '[' :: r => do
    let (acc, t) ← items true start fields r
    .ok (acc, (Rest.afterSpace h).trans t)
  | '\x7b' :: r => do
    match ← firstKey r with
    | .inr t => .ok (start, (Rest.afterSpace h).trans t)
    | .inl k =>
      let (acc, u) ← members fields [] start k.val
      .ok (acc, (Rest.afterSpace h).trans (k.rest u))
  | _ => scalar (.record name) (fun v => .error (.type v.found (.record name))) s

end Typed

end MojoToolchain.Json
