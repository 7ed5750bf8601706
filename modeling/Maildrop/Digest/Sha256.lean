import Maildrop.Bytes

/-!
# The SHA-256 digest

The digest of a run of octets, as the secure hash standard defines it: the octets are
padded to whole blocks of sixty-four, each block is expanded to a schedule of
sixty-four words, and sixty-four rounds mix the schedule into a chaining value of
eight words, whose octets are the digest.

All arithmetic is on 32-bit words and wraps. The chaining value is a record of eight
words, so a digest has thirty-two octets whatever the rounds do
(`Maildrop.Sha256.length_digest`).
-/

namespace Maildrop.Sha256

/-! ### Words -/

/-- A word of 32 bits. -/
abbrev Word := UInt32

/-- The word rotated to the right by `k` bits. -/
def rotr (x : Word) (k : Word) : Word := (x >>> k) ||| (x <<< (32 - k))

/-- The function that mixes old words into the schedule, for the word fifteen back. -/
def smallSigma0 (x : Word) : Word := rotr x 7 ^^^ rotr x 18 ^^^ (x >>> 3)

/-- The function that mixes old words into the schedule, for the word two back. -/
def smallSigma1 (x : Word) : Word := rotr x 17 ^^^ rotr x 19 ^^^ (x >>> 10)

/-- The rotation sum of the first chaining word. -/
def bigSigma0 (x : Word) : Word := rotr x 2 ^^^ rotr x 13 ^^^ rotr x 22

/-- The rotation sum of the fifth chaining word. -/
def bigSigma1 (x : Word) : Word := rotr x 6 ^^^ rotr x 11 ^^^ rotr x 25

/-- Each bit of `x` chooses between the bits of `y` and `z`. -/
def choose (x y z : Word) : Word := (x &&& y) ^^^ (~~~x &&& z)

/-- Each bit is what most of the three bits are. -/
def majority (x y z : Word) : Word := (x &&& y) ^^^ (x &&& z) ^^^ (y &&& z)

/-- The word of four octets, most significant first. -/
def word (a b c d : UInt8) : Word :=
  (a.toUInt32 <<< 24) ||| (b.toUInt32 <<< 16) ||| (c.toUInt32 <<< 8) ||| d.toUInt32

/-- The four octets of a word, most significant first. -/
def octets (w : Word) : Bytes :=
  [(w >>> 24).toUInt8, (w >>> 16).toUInt8, (w >>> 8).toUInt8, w.toUInt8]

/-- The words of a run of octets; a last incomplete word is dropped. -/
def words : Bytes → List Word
  | a :: b :: c :: d :: s => word a b c d :: words s
  | _ => []

/-! ### The chaining value -/

/-- **The chaining value**: eight words. -/
structure Chain where
  a : Word
  b : Word
  c : Word
  d : Word
  e : Word
  f : Word
  g : Word
  h : Word

/-- The chaining value before the first block. -/
def Chain.start : Chain :=
  ⟨0x6a09e667, 0xbb67ae85, 0x3c6ef372, 0xa54ff53a, 0x510e527f, 0x9b05688c, 0x1f83d9ab, 0x5be0cd19⟩

/-- The word by word sum of two chaining values. -/
def Chain.add (x y : Chain) : Chain :=
  ⟨x.a + y.a, x.b + y.b, x.c + y.c, x.d + y.d, x.e + y.e, x.f + y.f, x.g + y.g, x.h + y.h⟩

/-- The octets of a chaining value. -/
def Chain.octets (x : Chain) : Bytes :=
  [x.a, x.b, x.c, x.d, x.e, x.f, x.g, x.h].flatMap Sha256.octets

/-- The round constants. -/
def constants : List Word :=
  [0x428a2f98, 0x71374491, 0xb5c0fbcf, 0xe9b5dba5, 0x3956c25b, 0x59f111f1, 0x923f82a4, 0xab1c5ed5,
   0xd807aa98, 0x12835b01, 0x243185be, 0x550c7dc3, 0x72be5d74, 0x80deb1fe, 0x9bdc06a7, 0xc19bf174,
   0xe49b69c1, 0xefbe4786, 0x0fc19dc6, 0x240ca1cc, 0x2de92c6f, 0x4a7484aa, 0x5cb0a9dc, 0x76f988da,
   0x983e5152, 0xa831c66d, 0xb00327c8, 0xbf597fc7, 0xc6e00bf3, 0xd5a79147, 0x06ca6351, 0x14292967,
   0x27b70a85, 0x2e1b2138, 0x4d2c6dfc, 0x53380d13, 0x650a7354, 0x766a0abb, 0x81c2c92e, 0x92722c85,
   0xa2bfe8a1, 0xa81a664b, 0xc24b8b70, 0xc76c51a3, 0xd192e819, 0xd6990624, 0xf40e3585, 0x106aa070,
   0x19a4c116, 0x1e376c08, 0x2748774c, 0x34b0bcb5, 0x391c0cb3, 0x4ed8aa4a, 0x5b9cca4f, 0x682e6ff3,
   0x748f82ee, 0x78a5636f, 0x84c87814, 0x8cc70208, 0x90befffa, 0xa4506ceb, 0xbef9a3f7, 0xc67178f2]

/-- One round: the words move down one place, and the first and fifth are mixed with
the round's constant and schedule word. -/
def Chain.round (x : Chain) (k w : Word) : Chain :=
  let t := x.h + bigSigma1 x.e + choose x.e x.f x.g + k + w
  let u := bigSigma0 x.a + majority x.a x.b x.c
  ⟨t + u, x.a, x.b, x.c, x.d + t, x.e, x.f, x.g⟩

/-! ### The schedule of a block -/

/-- The last sixteen schedule words, oldest first, after `n` more have been added;
the words that left the window come before them. -/
def extend : Nat → List Word → List Word
  | 0, w => w
  | n + 1, w =>
    let next := smallSigma1 (w[14]?.getD 0) + (w[9]?.getD 0) + smallSigma0 (w[1]?.getD 0) +
      (w[0]?.getD 0)
    w.headD 0 :: extend n (w.drop 1 ++ [next])

/-- The sixty-four schedule words of a block: its own sixteen, and forty-eight that
each mix four earlier ones. -/
def schedule (block : Bytes) : List Word := extend 48 (words block)

/-- The chaining value after one more block. -/
def Chain.compress (x : Chain) (block : Bytes) : Chain :=
  x.add ((constants.zip (schedule block)).foldl (fun y kw => y.round kw.1 kw.2) x)

/-! ### The digest -/

/-- How many zero octets fill the last block: the length and the closing octet take
nine. -/
def zeros (n : Nat) : Nat := (119 - n % 64) % 64

/-- The octets followed by the closing bit, zeros, and their length in bits as eight
octets, so that whole blocks result. -/
def pad (s : Bytes) : Bytes :=
  let bits := 8 * s.length
  s ++ (0x80 :: List.replicate (zeros s.length) 0) ++
    [56, 48, 40, 32, 24, 16, 8, 0].map fun k : Nat => (bits >>> k).toUInt8

/-- The chaining value after the first `n` blocks of the octets. -/
def absorb : Nat → Chain → Bytes → Chain
  | 0, x, _ => x
  | n + 1, x, s => absorb n (x.compress (s.take 64)) (s.drop 64)

/-- **The SHA-256 digest** of a run of octets. -/
def digest (s : Bytes) : Bytes :=
  let padded := pad s
  (absorb (padded.length / 64) Chain.start padded).octets

theorem length_octets (x : Chain) : x.octets.length = 32 := rfl

/-- A digest has thirty-two octets. -/
theorem length_digest (s : Bytes) : (digest s).length = 32 := length_octets _

end Maildrop.Sha256
