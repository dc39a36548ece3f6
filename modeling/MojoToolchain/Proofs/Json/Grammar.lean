import MojoToolchain.Json.Literal

/-!
# The grammar of JSON texts

A `Tree` is a value as it is written.  It keeps each number, name and string literal character for
character, and says where a comma stands before a closing bracket or brace; without these commas
it is the value that the text denotes (`Tree.bare`).  `Tree.tokens` lists the tokens of a tree,
and `Spelled` relates a list of tokens to the texts that spell it.

What a text may hold beyond RFC 8259 is a matter of its `Dialect`: `Dialect.json` is RFC 8259
itself, and `Dialect.commented` is JSON with comments and trailing commas.
-/

namespace MojoToolchain.Json.Grammar

/-! ### Marks and words -/

/-- The tokens of one character. -/
inductive Mark where
  | openList
  | closeList
  | openObject
  | closeObject
  | colon
  | comma
  deriving DecidableEq, Repr

namespace Mark

/-- The character of a mark. -/
def char : Mark → Char
  | openList => '['
  | closeList => ']'
  | openObject => '\x7b'
  | closeObject => '\x7d'
  | colon => ':'
  | comma => ','

/-- The marks that end a container. -/
def closes : Mark → Bool
  | closeList => true
  | closeObject => true
  | _ => false

end Mark

/-- One digit or more. -/
def Digits (cs : List Char) : Prop := cs ≠ [] ∧ cs.all Char.isDigit

/-- Digits of which the first is zero only if there is no other. -/
def Whole (cs : List Char) : Prop := Digits cs ∧ (cs.head? = some '0' → cs = ['0'])

instance (cs : List Char) : Decidable (Digits cs) := inferInstanceAs (Decidable (_ ∧ _))

instance (cs : List Char) : Decidable (Whole cs) := inferInstanceAs (Decidable (_ ∧ _))

/-- The fraction of a number, which may be missing. -/
def Fraction (cs : List Char) : Prop := cs = [] ∨ ∃ ds, Digits ds ∧ cs = '.' :: ds

/-- The exponent of a number, which may be missing. -/
def Exponent (cs : List Char) : Prop :=
  cs = [] ∨ ∃ e ∈ ['e', 'E'], ∃ sign ∈ [[], ['+'], ['-']], ∃ ds, Digits ds ∧ cs = e :: (sign ++ ds)

/-- The numbers of RFC 8259. -/
def Number (cs : List Char) : Prop :=
  ∃ sign ∈ [[], ['-']], ∃ whole fraction exponent,
    Whole whole ∧ Fraction fraction ∧ Exponent exponent
      ∧ cs = sign ++ (whole ++ (fraction ++ exponent))

/-- The values that have a name. -/
def names : List (List Char) :=
  [['t', 'r', 'u', 'e'], ['f', 'a', 'l', 's', 'e'], ['n', 'u', 'l', 'l']]

/-- A number or a name. -/
@[ext]
structure Word where
  chars : List Char
  wellFormed : chars ∈ names ∨ Number chars

/-- An integer without a sign. -/
def Word.whole (cs : List Char) (h : Whole cs) : Word where
  chars := cs
  wellFormed := .inr ⟨[], by decide, cs, [], [], h, .inl rfl, .inl rfl, by simp⟩

/-! ### String literals -/

/-- The characters that stand for another one after a backslash. -/
def escapes : List Char := ['"', '\\', '/', 'b', 'f', 'n', 'r', 't']

/-- A hexadecimal digit. -/
def isHexDigit (c : Char) : Bool :=
  c.isDigit || ('a' ≤ c && c ≤ 'f') || ('A' ≤ c && c ≤ 'F')

/-- What may stand between the quotes of a string literal. -/
inductive Body : List Char → Prop
  | nil : Body []
  | char {c : Char} {cs : List Char} (hcontrol : 32 ≤ c.toNat) (hquote : c ≠ '"')
      (hbackslash : c ≠ '\\') :
      Body cs → Body (c :: cs)
  | escape {c : Char} {cs : List Char} (hc : c ∈ escapes) :
      Body cs → Body ('\\' :: c :: cs)
  | unicode {a b c d : Char} {cs : List Char} (hdigits : ∀ x ∈ [a, b, c, d], isHexDigit x) :
      Body cs → Body ('\\' :: 'u' :: a :: b :: c :: d :: cs)

/-- A string literal. -/
@[ext]
structure Literal where
  body : List Char
  wellFormed : Body body

/-! ### Tokens -/

/-- A token of a text. -/
inductive Token where
  | mark (m : Mark)
  | word (w : Word)
  | literal (l : Literal)

namespace Token

/-- The characters of a token. -/
def chars : Token → List Char
  | mark m => [m.char]
  | word w => w.chars
  | literal l => '"' :: (l.body ++ ['"'])

/-- The token is a mark that ends a container. -/
def closes : Token → Bool
  | mark m => m.closes
  | _ => false

/-- The token is a comma. -/
def isComma : Token → Bool
  | mark m => m == .comma
  | _ => false

end Token

/-! ### Trees -/

mutual

/-- A value as it is written. -/
inductive Tree where
  | word (w : Word)
  | literal (l : Literal)
  /-- A list of no items; `comma` says whether a comma stands in it. -/
  | emptyList (comma : Bool)
  | list (items : Items)
  /-- An object of no members; `comma` says whether a comma stands in it. -/
  | emptyObject (comma : Bool)
  | object (members : Members)

/-- The items of a list that has any. -/
inductive Items where
  /-- The last item; `comma` says whether a comma follows it. -/
  | last (item : Tree) (comma : Bool)
  | more (item : Tree) (rest : Items)

/-- The members of an object that has any. -/
inductive Members where
  /-- The last member; `comma` says whether a comma follows it. -/
  | last (key : Literal) (value : Tree) (comma : Bool)
  | more (key : Literal) (value : Tree) (rest : Members)

end

/-- The comma before the end of a container, when there is one. -/
def ending (comma : Bool) : List Token := if comma then [.mark .comma] else []

mutual

/-- The tokens of a value. -/
def Tree.tokens : Tree → List Token
  | .word w => [.word w]
  | .literal l => [.literal l]
  | .emptyList comma => .mark .openList :: (ending comma ++ [.mark .closeList])
  | .list items => .mark .openList :: (items.tokens ++ [.mark .closeList])
  | .emptyObject comma => .mark .openObject :: (ending comma ++ [.mark .closeObject])
  | .object members => .mark .openObject :: (members.tokens ++ [.mark .closeObject])

/-- The tokens between the brackets of a list. -/
def Items.tokens : Items → List Token
  | .last item comma => item.tokens ++ ending comma
  | .more item rest => item.tokens ++ .mark .comma :: rest.tokens

/-- The tokens between the braces of an object. -/
def Members.tokens : Members → List Token
  | .last key value comma => .literal key :: .mark .colon :: (value.tokens ++ ending comma)
  | .more key value rest =>
    .literal key :: .mark .colon :: (value.tokens ++ .mark .comma :: rest.tokens)

end

mutual

/-- What a value denotes: the value without the commas before the end of a container. -/
def Tree.bare : Tree → Tree
  | .word w => .word w
  | .literal l => .literal l
  | .emptyList _ => .emptyList false
  | .list items => .list items.bare
  | .emptyObject _ => .emptyObject false
  | .object members => .object members.bare

/-- The items without the commas before the end of a container. -/
def Items.bare : Items → Items
  | .last item _ => .last item.bare false
  | .more item rest => .more item.bare rest.bare

/-- The members without the commas before the end of a container. -/
def Members.bare : Members → Members
  | .last key value _ => .last key value.bare false
  | .more key value rest => .more key value.bare rest.bare

end

/-! ### Dialects -/

/-- What a text may hold beyond RFC 8259. -/
structure Dialect where
  /-- Comments may stand where white space may. -/
  comments : Bool
  /-- Block comments that hold no line feed may stand inside numbers and names. -/
  interruptions : Bool
  /-- A block comment at the end of the text needs no end. -/
  openComment : Bool
  /-- A comma may follow the last item of a list and the last member of an object. -/
  trailingCommas : Bool
  /-- A comma may stand in a list of no items and in an object of no members. -/
  loneCommas : Bool
  deriving DecidableEq, Repr

namespace Dialect

/-- RFC 8259. -/
def json : Dialect := ⟨false, false, false, false, false⟩

/-- JSON with comments and trailing commas. -/
def commented : Dialect := ⟨true, false, false, true, false⟩

/-- All that a dialect may permit. -/
def lenient : Dialect := ⟨true, true, true, true, true⟩

end Dialect

mutual

/-- Each comma of a value is one that the dialect permits. -/
def Tree.permitted (d : Dialect) : Tree → Bool
  | .word _ => true
  | .literal _ => true
  | .emptyList comma => !comma || d.loneCommas
  | .list items => items.permitted d
  | .emptyObject comma => !comma || d.loneCommas
  | .object members => members.permitted d

/-- Each comma of the items is one that the dialect permits. -/
def Items.permitted (d : Dialect) : Items → Bool
  | .last item comma => item.permitted d && (!comma || d.trailingCommas)
  | .more item rest => item.permitted d && rest.permitted d

/-- Each comma of the members is one that the dialect permits. -/
def Members.permitted (d : Dialect) : Members → Bool
  | .last _ value comma => value.permitted d && (!comma || d.trailingCommas)
  | .more _ value rest => value.permitted d && rest.permitted d

end

/-! ### Texts -/

/-- A text has no end of a block comment. -/
def Unclosed (t : List Char) : Prop := ¬ ['*', '/'] <:+: t

/-- A text is at an end of a line. -/
def AtLineEnd (s : List Char) : Prop := s = [] ∨ ∃ r, s = '\n' :: r

/-- A text that holds the characters of a word and between them block comments without line
feeds. -/
inductive Interrupted : List Char → List Char → Prop
  | nil : Interrupted [] []
  | char (c : Char) {cs t : List Char} : Interrupted cs t → Interrupted (c :: cs) (c :: t)
  | comment {t cs r : List Char} (ht : Unclosed t) (hline : '\n' ∉ t) :
      Interrupted cs r → Interrupted cs ('/' :: '*' :: (t ++ '*' :: '/' :: r))

/-- A text spells tokens. -/
inductive Spelled (d : Dialect) : List Token → List Char → Prop
  | nil : Spelled d [] []
  | space {c : Char} {ks : List Token} {s : List Char} (hc : isSpace c) :
      Spelled d ks s → Spelled d ks (c :: s)
  | line {t : List Char} {ks : List Token} {s : List Char} (hd : d.comments) (ht : '\n' ∉ t)
      (hs : AtLineEnd s) :
      Spelled d ks s → Spelled d ks ('/' :: '/' :: (t ++ s))
  | block {t : List Char} {ks : List Token} {s : List Char} (hd : d.comments) (ht : Unclosed t) :
      Spelled d ks s → Spelled d ks ('/' :: '*' :: (t ++ '*' :: '/' :: s))
  | openBlock {t : List Char} (hd : d.openComment) (ht : Unclosed t) :
      Spelled d [] ('/' :: '*' :: t)
  | token (k : Token) {ks : List Token} {s : List Char} :
      Spelled d ks s → Spelled d (k :: ks) (k.chars ++ s)
  | interrupted {w : Word} {t : List Char} {ks : List Token} {s : List Char}
      (hd : d.interruptions) (ht : Interrupted w.chars t) :
      Spelled d ks s → Spelled d (.word w :: ks) (t ++ s)

/-- A value is written as a text of a dialect. -/
structure Written (d : Dialect) (tree : Tree) (s : List Char) : Prop where
  permitted : tree.permitted d
  spelled : Spelled d tree.tokens s

end MojoToolchain.Json.Grammar
