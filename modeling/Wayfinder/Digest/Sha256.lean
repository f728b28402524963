/-
  Wayfinder/Digest/Sha256.lean
  ============================
  **The SHA-256 digest.**

  The message is padded to whole blocks of sixteen words.  Each block is stretched to
  sixty-four words and stirred into a state of eight words, round by round.
-/

namespace Wayfinder.Digest

/-! ## 1. Constants -/

/-- The first thirty-two bits of the fractional parts of the cube roots of the first
    sixty-four primes. -/
def roundConstants : List UInt32 :=
  [0x428a2f98, 0x71374491, 0xb5c0fbcf, 0xe9b5dba5, 0x3956c25b, 0x59f111f1, 0x923f82a4, 0xab1c5ed5,
    0xd807aa98, 0x12835b01, 0x243185be, 0x550c7dc3, 0x72be5d74, 0x80deb1fe, 0x9bdc06a7, 0xc19bf174,
    0xe49b69c1, 0xefbe4786, 0x0fc19dc6, 0x240ca1cc, 0x2de92c6f, 0x4a7484aa, 0x5cb0a9dc, 0x76f988da,
    0x983e5152, 0xa831c66d, 0xb00327c8, 0xbf597fc7, 0xc6e00bf3, 0xd5a79147, 0x06ca6351, 0x14292967,
    0x27b70a85, 0x2e1b2138, 0x4d2c6dfc, 0x53380d13, 0x650a7354, 0x766a0abb, 0x81c2c92e, 0x92722c85,
    0xa2bfe8a1, 0xa81a664b, 0xc24b8b70, 0xc76c51a3, 0xd192e819, 0xd6990624, 0xf40e3585, 0x106aa070,
    0x19a4c116, 0x1e376c08, 0x2748774c, 0x34b0bcb5, 0x391c0cb3, 0x4ed8aa4a, 0x5b9cca4f, 0x682e6ff3,
    0x748f82ee, 0x78a5636f, 0x84c87814, 0x8cc70208, 0x90befffa, 0xa4506ceb, 0xbef9a3f7, 0xc67178f2]

/-- The state: eight words. -/
structure State where
  a : UInt32
  b : UInt32
  c : UInt32
  d : UInt32
  e : UInt32
  f : UInt32
  g : UInt32
  h : UInt32
deriving DecidableEq, Repr

/-- The state before the first block: the first thirty-two bits of the fractional parts
    of the square roots of the first eight primes. -/
def State.initial : State :=
  ⟨0x6a09e667, 0xbb67ae85, 0x3c6ef372, 0xa54ff53a, 0x510e527f, 0x9b05688c, 0x1f83d9ab, 0x5be0cd19⟩

/-- Word by word addition. -/
def State.add (s t : State) : State :=
  ⟨s.a + t.a, s.b + t.b, s.c + t.c, s.d + t.d, s.e + t.e, s.f + t.f, s.g + t.g, s.h + t.h⟩

/-- The words. -/
def State.words (s : State) : List UInt32 := [s.a, s.b, s.c, s.d, s.e, s.f, s.g, s.h]

/-! ## 2. Rounds -/

/-- Rotate a word to the right. -/
def rotate (w : UInt32) (n : UInt32) : UInt32 := (w >>> n) ||| (w <<< (32 - n))

/-- One round, with a constant and a word of the stretched block. -/
def State.round (s : State) (k w : UInt32) : State :=
  let t1 := s.h + (rotate s.e 6 ^^^ rotate s.e 11 ^^^ rotate s.e 25) +
    ((s.e &&& s.f) ^^^ (~~~s.e &&& s.g)) + k + w
  let t2 := (rotate s.a 2 ^^^ rotate s.a 13 ^^^ rotate s.a 22) +
    ((s.a &&& s.b) ^^^ (s.a &&& s.c) ^^^ (s.b &&& s.c))
  ⟨t1 + t2, s.a, s.b, s.c, s.d + t1, s.e, s.f, s.g⟩

/-- The next word of a stretched block.  `recent` holds the words so far, the latest
    first. -/
def nextWord (recent : List UInt32) : UInt32 :=
  let back (n : Nat) := recent[n - 1]?.getD 0
  let small0 (w : UInt32) := rotate w 7 ^^^ rotate w 18 ^^^ (w >>> 3)
  let small1 (w : UInt32) := rotate w 17 ^^^ rotate w 19 ^^^ (w >>> 10)
  small1 (back 2) + back 7 + small0 (back 15) + back 16

/-- Stretch a block by some words. -/
def stretch : Nat → List UInt32 → List UInt32
  | 0, recent => recent
  | n + 1, recent => stretch n (nextWord recent :: recent)

/-- Stir a block of sixteen words into the state. -/
def State.stir (s : State) (block : List UInt32) : State :=
  let words := (stretch 48 block.reverse).reverse
  s.add ((roundConstants.zip words).foldl (fun t (k, w) => t.round k w) s)

/-! ## 3. Messages -/

/-- The eight bytes of a number, the highest first. -/
def eightBytes (n : Nat) : List UInt8 :=
  (List.range 8).map fun i => (n >>> (8 * (7 - i))).toUInt8

/-- The message, a set bit, zeros up to whole blocks, and the length in bits. -/
def padded (message : List UInt8) : List UInt8 :=
  let n := message.length
  let zeros := (119 - n % 64) % 64
  message ++ 0x80 :: (List.replicate zeros 0 ++ eightBytes (8 * n))

/-- The words of a row of bytes, the highest byte first. -/
def wordsOf : List UInt8 → List UInt32
  | a :: b :: c :: d :: rest =>
    ((a.toUInt32 <<< 24) ||| (b.toUInt32 <<< 16) ||| (c.toUInt32 <<< 8) ||| d.toUInt32) ::
      wordsOf rest
  | _ => []

/-- Stir in blocks of sixteen words.  The number bounds their count. -/
def stirAll : Nat → State → List UInt32 → State
  | 0, s, _ => s
  | n + 1, s, words =>
    if words.isEmpty then s else stirAll n (s.stir (words.take 16)) (words.drop 16)

/-- The bytes of a word, the highest first. -/
def bytesOf (w : UInt32) : List UInt8 :=
  [(w >>> 24).toUInt8, (w >>> 16).toUInt8, (w >>> 8).toUInt8, w.toUInt8]

/-- The digest of a message: thirty-two bytes. -/
def sha256 (message : List UInt8) : List UInt8 :=
  let words := wordsOf (padded message)
  (stirAll words.length .initial words).words.flatMap bytesOf

/-- A byte as two hexadecimal digits, in lower case. -/
def hexByte (b : UInt8) : List Char :=
  let digit (n : Nat) := if n < 10 then Char.ofNat (48 + n) else Char.ofNat (87 + n)
  [digit (b.toNat / 16), digit (b.toNat % 16)]

/-- A row of bytes in hexadecimal digits. -/
def hex (bytes : List UInt8) : String := String.ofList (bytes.flatMap hexByte)

end Wayfinder.Digest
