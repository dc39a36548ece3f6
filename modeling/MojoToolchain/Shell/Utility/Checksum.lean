import MojoToolchain.Shell.Utility.Basic

/-!
# Checksums

Utilities that write a number for a text by which it can be told apart from others.  Three of them
fill a text up to whole blocks of 64 bytes and mix each block into a state of a few words.
-/

namespace MojoToolchain.Shell

/-! ### Words -/

/-- A word with its bits turned to the left. -/
def turnLeft (x : UInt32) (n : Nat) : UInt32 :=
  (x <<< UInt32.ofNat n) ||| (x >>> UInt32.ofNat (32 - n))

/-- A word with its bits turned to the right. -/
def turnRight (x : UInt32) (n : Nat) : UInt32 := turnLeft x (32 - n)

/-- The word that four bytes are, the first one being the highest. -/
def wordOf (bytes : Bytes) : UInt32 :=
  bytes.foldl (fun w c => (w <<< 8) ||| UInt32.ofNat c.toNat) 0

/-- The bytes of a word, the highest one first. -/
def bytesOf (w : UInt32) : Bytes :=
  [24, 16, 8, 0].map fun (n : Nat) => Char.ofNat ((w.toNat >>> n) % 256)

/-- Eight bytes for a length, the highest one first. -/
def lengthBytes (n : Nat) : Bytes := bytesOf (UInt32.ofNat (n >>> 32)) ++ bytesOf (UInt32.ofNat n)

/-- Bytes as hexadecimal digits. -/
def hexadecimal (bytes : Bytes) : Bytes :=
  bytes.flatMap fun c =>
    let digits := Nat.toDigits 16 c.toNat
    List.replicate (2 - digits.length) '0' ++ digits

/-! ### Blocks -/

/-- A way to mix a text into words. -/
structure Mixing where
  /-- The words before anything has been mixed. -/
  start : List UInt32
  /-- The first byte of a word is its lowest one. -/
  lowFirst : Bool
  /-- Mixes a block of sixteen words into a state. -/
  mix : Array UInt32 → List UInt32 → List UInt32

namespace Mixing

/-- A text, filled up to whole blocks; its length stands at the end. -/
def filledUp (x : Mixing) (text : Bytes) : Bytes :=
  let length := lengthBytes (8 * text.length)
  let missing := (119 - text.length % 64) % 64
  text ++ '\x80' :: List.replicate missing '\x00' ++ if x.lowFirst then length.reverse else length

/-- The words of a text. -/
def words (x : Mixing) : Bytes → List UInt32
  | a :: b :: c :: d :: rest =>
    wordOf (if x.lowFirst then [d, c, b, a] else [a, b, c, d]) :: words x rest
  | _ => []

/-- Mixes words into a state, block by block. -/
def mixAll (x : Mixing) : Nat → List UInt32 → List UInt32 → List UInt32
  | 0, _, state => state
  | bound + 1, words, state =>
    if words.isEmpty then state
    else mixAll x bound (words.drop 16) (x.mix (words.take 16).toArray state)

/-- The checksum of a text, in hexadecimal digits. -/
def sum (x : Mixing) (text : Bytes) : Bytes :=
  let words := x.words (x.filledUp text)
  (x.mixAll words.length words x.start).flatMap fun w =>
    hexadecimal (if x.lowFirst then (bytesOf w).reverse else bytesOf w)

/-- The sums of the words of two states. -/
def added (a b : List UInt32) : List UInt32 := List.zipWith (· + ·) a b

end Mixing

/-! ### Four words -/

/-- The numbers that MD5 adds, one in each round. -/
def sines : Array UInt32 :=
  #[0xd76aa478, 0xe8c7b756, 0x242070db, 0xc1bdceee, 0xf57c0faf, 0x4787c62a, 0xa8304613,
   0xfd469501, 0x698098d8, 0x8b44f7af, 0xffff5bb1, 0x895cd7be, 0x6b901122, 0xfd987193,
   0xa679438e, 0x49b40821, 0xf61e2562, 0xc040b340, 0x265e5a51, 0xe9b6c7aa, 0xd62f105d,
   0x02441453, 0xd8a1e681, 0xe7d3fbc8, 0x21e1cde6, 0xc33707d6, 0xf4d50d87, 0x455a14ed,
   0xa9e3e905, 0xfcefa3f8, 0x676f02d9, 0x8d2a4c8a, 0xfffa3942, 0x8771f681, 0x6d9d6122,
   0xfde5380c, 0xa4beea44, 0x4bdecfa9, 0xf6bb4b60, 0xbebfbc70, 0x289b7ec6, 0xeaa127fa,
   0xd4ef3085, 0x04881d05, 0xd9d4d039, 0xe6db99e5, 0x1fa27cf8, 0xc4ac5665, 0xf4292244,
   0x432aff97, 0xab9423a7, 0xfc93a039, 0x655b59c3, 0x8f0ccc92, 0xffeff47d, 0x85845dd1,
   0x6fa87e4f, 0xfe2ce6e0, 0xa3014314, 0x4e0811a1, 0xf7537e82, 0xbd3af235, 0x2ad7d2bb,
   0xeb86d391]

/-- How far MD5 turns, by the sixteenth part of the rounds and the place in it. -/
def turns : Array Nat := #[7, 12, 17, 22, 5, 9, 14, 20, 4, 11, 16, 23, 6, 10, 15, 21]

/-- One round of MD5. -/
def md5Round (block : Array UInt32) (state : List UInt32) (i : Nat) : List UInt32 :=
  match state with
  | [a, b, c, d] =>
    let (f, g) : UInt32 × Nat :=
      match i / 16 with
      | 0 => ((b &&& c) ||| (~~~b &&& d), i)
      | 1 => ((d &&& b) ||| (~~~d &&& c), 5 * i + 1)
      | 2 => (b ^^^ c ^^^ d, 3 * i + 5)
      | _ => (c ^^^ (b ||| ~~~d), 7 * i)
    let sum := a + f + sines.getD i 0 + block.getD (g % 16) 0
    [d, b + turnLeft sum (turns.getD (i / 16 * 4 + i % 4) 0), b, c]
  | state => state

/-- The mixing of MD5. -/
def md5 : Mixing where
  start := [0x67452301, 0xefcdab89, 0x98badcfe, 0x10325476]
  lowFirst := true
  mix block state := Mixing.added state ((List.range 64).foldl (md5Round block) state)

/-! ### More words -/

/-- A block with more words, each made of the ones before it. -/
def lengthened (next : Array UInt32 → Nat → UInt32) (block : Array UInt32) (more : Nat) :
    Array UInt32 :=
  (List.range more).foldl (fun w _ => w.push (next w w.size)) block

/-- The word of SHA-1 at a place. -/
def sha1Word (w : Array UInt32) (i : Nat) : UInt32 :=
  turnLeft (w.getD (i - 3) 0 ^^^ w.getD (i - 8) 0 ^^^ w.getD (i - 14) 0 ^^^ w.getD (i - 16) 0) 1

/-- One round of SHA-1. -/
def sha1Round (w : Array UInt32) (state : List UInt32) (i : Nat) : List UInt32 :=
  match state with
  | [a, b, c, d, e] =>
    let (f, k) : UInt32 × UInt32 :=
      match i / 20 with
      | 0 => ((b &&& c) ||| (~~~b &&& d), 0x5a827999)
      | 1 => (b ^^^ c ^^^ d, 0x6ed9eba1)
      | 2 => ((b &&& c) ||| (b &&& d) ||| (c &&& d), 0x8f1bbcdc)
      | _ => (b ^^^ c ^^^ d, 0xca62c1d6)
    [turnLeft a 5 + f + e + k + w.getD i 0, a, turnLeft b 30, c, d]
  | state => state

/-- The mixing of SHA-1. -/
def sha1 : Mixing where
  start := [0x67452301, 0xefcdab89, 0x98badcfe, 0x10325476, 0xc3d2e1f0]
  lowFirst := false
  mix block state :=
    Mixing.added state
      ((List.range 80).foldl (sha1Round (lengthened sha1Word block 64)) state)

/-- The numbers that SHA-256 adds, one in each round. -/
def roots : Array UInt32 :=
  #[0x428a2f98, 0x71374491, 0xb5c0fbcf, 0xe9b5dba5, 0x3956c25b, 0x59f111f1, 0x923f82a4,
   0xab1c5ed5, 0xd807aa98, 0x12835b01, 0x243185be, 0x550c7dc3, 0x72be5d74, 0x80deb1fe,
   0x9bdc06a7, 0xc19bf174, 0xe49b69c1, 0xefbe4786, 0x0fc19dc6, 0x240ca1cc, 0x2de92c6f,
   0x4a7484aa, 0x5cb0a9dc, 0x76f988da, 0x983e5152, 0xa831c66d, 0xb00327c8, 0xbf597fc7,
   0xc6e00bf3, 0xd5a79147, 0x06ca6351, 0x14292967, 0x27b70a85, 0x2e1b2138, 0x4d2c6dfc,
   0x53380d13, 0x650a7354, 0x766a0abb, 0x81c2c92e, 0x92722c85, 0xa2bfe8a1, 0xa81a664b,
   0xc24b8b70, 0xc76c51a3, 0xd192e819, 0xd6990624, 0xf40e3585, 0x106aa070, 0x19a4c116,
   0x1e376c08, 0x2748774c, 0x34b0bcb5, 0x391c0cb3, 0x4ed8aa4a, 0x5b9cca4f, 0x682e6ff3,
   0x748f82ee, 0x78a5636f, 0x84c87814, 0x8cc70208, 0x90befffa, 0xa4506ceb, 0xbef9a3f7,
   0xc67178f2]

/-- The word of SHA-256 at a place. -/
def sha256Word (w : Array UInt32) (i : Nat) : UInt32 :=
  let x := w.getD (i - 15) 0
  let y := w.getD (i - 2) 0
  w.getD (i - 16) 0 + (turnRight x 7 ^^^ turnRight x 18 ^^^ (x >>> 3)) + w.getD (i - 7) 0
    + (turnRight y 17 ^^^ turnRight y 19 ^^^ (y >>> 10))

/-- One round of SHA-256. -/
def sha256Round (w : Array UInt32) (state : List UInt32) (i : Nat) : List UInt32 :=
  match state with
  | [a, b, c, d, e, f, g, h] =>
    let first := h + (turnRight e 6 ^^^ turnRight e 11 ^^^ turnRight e 25)
      + ((e &&& f) ^^^ (~~~e &&& g)) + roots.getD i 0 + w.getD i 0
    let second := (turnRight a 2 ^^^ turnRight a 13 ^^^ turnRight a 22)
      + ((a &&& b) ^^^ (a &&& c) ^^^ (b &&& c))
    [first + second, a, b, c, d + first, e, f, g]
  | state => state

/-- The mixing of SHA-256. -/
def sha256 : Mixing where
  start :=
    [0x6a09e667, 0xbb67ae85, 0x3c6ef372, 0xa54ff53a, 0x510e527f, 0x9b05688c, 0x1f83d9ab,
   0x5be0cd19]
  lowFirst := false
  mix block state :=
    Mixing.added state
      ((List.range 64).foldl (sha256Round (lengthened sha256Word block 48)) state)

/-! ### Remainders -/

/-- A remainder after one more byte. -/
def remainderStep (crc : UInt32) (byte : Nat) : UInt32 :=
  (List.range 8).foldl (fun crc _ =>
    if crc &&& 0x80000000 != 0 then (crc <<< 1) ^^^ 0x04c11db7 else crc <<< 1)
    (crc ^^^ (UInt32.ofNat byte <<< 24))

/-- The bytes of a length, the lowest one first, as many as it needs. -/
def lengthDigits : Nat → Nat → List Nat
  | 0, _ => []
  | bound + 1, n => if n == 0 then [] else n % 256 :: lengthDigits bound (n / 256)

/-- The remainder of a text and its length. -/
def remainderOf (text : Bytes) : UInt32 :=
  let bytes := text.map Char.toNat ++ lengthDigits 8 text.length
  ~~~(bytes.foldl remainderStep 0)

/-! ### Utilities -/

/-- Writes the checksum of each text in front of its name. -/
def checksums (x : Mixing) : Utility :=
  withOptions 1
    { flags := "btz"
      valued := ""
      names := [("binary", 'b'), ("text", 't'), ("zero", 'z')] } fun call s =>
    let files := if call.operands.isEmpty then [['-']] else call.operands
    let between := if (call.last? "bt").any (·.1 == 'b') then [' ', '*'] else [' ', ' ']
    forTexts (.plain 1) files (fun file text s =>
      emitRows (if call.has 'z' then '\x00' else '\n') s [x.sum text ++ between ++ file]) s

/-- Writes the remainder and the length of each text. -/
def cksum : Utility :=
  withOptions 1 { flags := "", valued := "", names := [] } fun call s =>
    forTexts (.plain 1) call.operands (fun file text s =>
      let numbers := [(remainderOf text).toNat, text.length].map (Nat.toDigits 10)
      emitLines s [[' '].intercalate (numbers ++ if call.operands.isEmpty then [] else [file])]) s

/-- The utilities that write checksums. -/
def checksumUtilities : Utilities :=
  [("md5sum", checksums md5), ("sha1sum", checksums sha1), ("sha256sum", checksums sha256),
   ("cksum", cksum)]

end MojoToolchain.Shell
