/-!
# SHA-256

The secure hash of 256 bits. The message is padded to blocks of sixteen words, and each block is
mixed into a state of eight words; the hash is the last state.
-/

namespace UserAgent.Sha256

/-! ### Words -/

/-- Rotate a word to the right. -/
def rotate (x : UInt32) (n : UInt32) : UInt32 :=
  (x >>> n) ||| (x <<< (32 - n))

/-- The first spreading function of the message schedule. -/
def smallSigma0 (x : UInt32) : UInt32 :=
  rotate x 7 ^^^ rotate x 18 ^^^ (x >>> 3)

/-- The second spreading function of the message schedule. -/
def smallSigma1 (x : UInt32) : UInt32 :=
  rotate x 17 ^^^ rotate x 19 ^^^ (x >>> 10)

/-- The first spreading function of a round. -/
def bigSigma0 (x : UInt32) : UInt32 :=
  rotate x 2 ^^^ rotate x 13 ^^^ rotate x 22

/-- The second spreading function of a round. -/
def bigSigma1 (x : UInt32) : UInt32 :=
  rotate x 6 ^^^ rotate x 11 ^^^ rotate x 25

/-- The bits of `y` where those of `x` are set, else those of `z`. -/
def choice (x y z : UInt32) : UInt32 :=
  (x &&& y) ^^^ (~~~x &&& z)

/-- The bits that two of three words share. -/
def majority (x y z : UInt32) : UInt32 :=
  (x &&& y) ^^^ (x &&& z) ^^^ (y &&& z)

/-- The constants of the rounds: the first bits after the point of the cube roots of the first
sixty-four primes. -/
def roundConstants : List UInt32 := [
  0x428a2f98, 0x71374491, 0xb5c0fbcf, 0xe9b5dba5, 0x3956c25b, 0x59f111f1, 0x923f82a4, 0xab1c5ed5,
  0xd807aa98, 0x12835b01, 0x243185be, 0x550c7dc3, 0x72be5d74, 0x80deb1fe, 0x9bdc06a7, 0xc19bf174,
  0xe49b69c1, 0xefbe4786, 0x0fc19dc6, 0x240ca1cc, 0x2de92c6f, 0x4a7484aa, 0x5cb0a9dc, 0x76f988da,
  0x983e5152, 0xa831c66d, 0xb00327c8, 0xbf597fc7, 0xc6e00bf3, 0xd5a79147, 0x06ca6351, 0x14292967,
  0x27b70a85, 0x2e1b2138, 0x4d2c6dfc, 0x53380d13, 0x650a7354, 0x766a0abb, 0x81c2c92e, 0x92722c85,
  0xa2bfe8a1, 0xa81a664b, 0xc24b8b70, 0xc76c51a3, 0xd192e819, 0xd6990624, 0xf40e3585, 0x106aa070,
  0x19a4c116, 0x1e376c08, 0x2748774c, 0x34b0bcb5, 0x391c0cb3, 0x4ed8aa4a, 0x5b9cca4f, 0x682e6ff3,
  0x748f82ee, 0x78a5636f, 0x84c87814, 0x8cc70208, 0x90befffa, 0xa4506ceb, 0xbef9a3f7, 0xc67178f2]

/-! ### States -/

/-- The eight words that a hash is computed in. -/
structure State where
  a : UInt32
  b : UInt32
  c : UInt32
  d : UInt32
  e : UInt32
  f : UInt32
  g : UInt32
  h : UInt32
deriving DecidableEq

/-- The state before the first block: the first bits after the point of the square roots of the
first eight primes. -/
def State.initial : State :=
  ⟨0x6a09e667, 0xbb67ae85, 0x3c6ef372, 0xa54ff53a, 0x510e527f, 0x9b05688c, 0x1f83d9ab, 0x5be0cd19⟩

/-- Add two states word by word. -/
def State.add (s t : State) : State :=
  ⟨s.a + t.a, s.b + t.b, s.c + t.c, s.d + t.d, s.e + t.e, s.f + t.f, s.g + t.g, s.h + t.h⟩

/-- The words of a state in order. -/
def State.words (s : State) : List UInt32 :=
  [s.a, s.b, s.c, s.d, s.e, s.f, s.g, s.h]

/-- One round, with its constant and a word of the schedule. -/
def State.round (s : State) (constant word : UInt32) : State :=
  let t₁ := s.h + bigSigma1 s.e + choice s.e s.f s.g + constant + word
  let t₂ := bigSigma0 s.a + majority s.a s.b s.c
  ⟨t₁ + t₂, s.a, s.b, s.c, s.d + t₁, s.e, s.f, s.g⟩

/-! ### Blocks -/

/-- Extend a schedule, which is given backwards, by a number of words. -/
def extend : Nat → List UInt32 → List UInt32
  | 0, schedule => schedule
  | n + 1, schedule =>
    let word := smallSigma1 (schedule.getD 1 0) + schedule.getD 6 0 +
      smallSigma0 (schedule.getD 14 0) + schedule.getD 15 0
    extend n (word :: schedule)

/-- Mix the sixteen words of a block into a state. -/
def State.mix (s : State) (block : List UInt32) : State :=
  let schedule := (extend 48 block.reverse).reverse
  s.add ((roundConstants.zip schedule).foldl (fun t (constant, word) => t.round constant word) s)

/-- The word of four bytes, of which the first is the most significant. -/
def wordOf (b₀ b₁ b₂ b₃ : UInt8) : UInt32 :=
  b₀.toUInt32 <<< 24 ||| b₁.toUInt32 <<< 16 ||| b₂.toUInt32 <<< 8 ||| b₃.toUInt32

/-- The words of a list of bytes. -/
def wordsOf : List UInt8 → List UInt32
  | b₀ :: b₁ :: b₂ :: b₃ :: rest => wordOf b₀ b₁ b₂ b₃ :: wordsOf rest
  | _ => []

/-- The bytes of a number, the most significant first. -/
def bytesOf (count n : Nat) : List UInt8 :=
  (List.range count).reverse.map fun i => UInt8.ofNat (n >>> (8 * i))

/-- A message with a mark at its end, filled up to whole blocks, the last eight bytes of which hold
the number of its bits. -/
def pad (message : List UInt8) : List UInt8 :=
  let zeros := (119 - message.length % 64) % 64
  message ++ 0x80 :: List.replicate zeros 0 ++ bytesOf 8 (8 * message.length)

/-- Mix a number of blocks of words into a state. -/
def mixBlocks : Nat → State → List UInt32 → State
  | 0, s, _ => s
  | n + 1, s, words => mixBlocks n (s.mix (words.take 16)) (words.drop 16)

/-- The last state of a message. -/
def hash (message : List UInt8) : State :=
  let words := wordsOf (pad message)
  mixBlocks (words.length / 16) .initial words

/-! ### Digests -/

/-- The hexadecimal digits of a word. -/
def wordDigits (word : UInt32) : List Char :=
  let digits := Nat.toDigits 16 word.toNat
  List.replicate (8 - digits.length) '0' ++ digits

/-- The hash of a message in lower-case hexadecimal digits. -/
def hexDigest (message : List UInt8) : String :=
  String.ofList ((hash message).words.flatMap wordDigits)

end UserAgent.Sha256
