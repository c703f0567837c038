/-! The SHA-256 digest of a row of bytes. -/

namespace SqlSyntax.Sha256

/-- The first bits of the fractional parts of the cube roots of the first 64 primes. -/
def roundConstants : List UInt32 := [
  0x428a2f98, 0x71374491, 0xb5c0fbcf, 0xe9b5dba5, 0x3956c25b, 0x59f111f1,
  0x923f82a4, 0xab1c5ed5, 0xd807aa98, 0x12835b01, 0x243185be, 0x550c7dc3,
  0x72be5d74, 0x80deb1fe, 0x9bdc06a7, 0xc19bf174, 0xe49b69c1, 0xefbe4786,
  0x0fc19dc6, 0x240ca1cc, 0x2de92c6f, 0x4a7484aa, 0x5cb0a9dc, 0x76f988da,
  0x983e5152, 0xa831c66d, 0xb00327c8, 0xbf597fc7, 0xc6e00bf3, 0xd5a79147,
  0x06ca6351, 0x14292967, 0x27b70a85, 0x2e1b2138, 0x4d2c6dfc, 0x53380d13,
  0x650a7354, 0x766a0abb, 0x81c2c92e, 0x92722c85, 0xa2bfe8a1, 0xa81a664b,
  0xc24b8b70, 0xc76c51a3, 0xd192e819, 0xd6990624, 0xf40e3585, 0x106aa070,
  0x19a4c116, 0x1e376c08, 0x2748774c, 0x34b0bcb5, 0x391c0cb3, 0x4ed8aa4a,
  0x5b9cca4f, 0x682e6ff3, 0x748f82ee, 0x78a5636f, 0x84c87814, 0x8cc70208,
  0x90befffa, 0xa4506ceb, 0xbef9a3f7, 0xc67178f2]

/-- The first bits of the fractional parts of the square roots of the first eight primes. -/
def startWords : List UInt32 := [
  0x6a09e667, 0xbb67ae85, 0x3c6ef372, 0xa54ff53a, 0x510e527f, 0x9b05688c,
  0x1f83d9ab, 0x5be0cd19]

structure State where
  a : UInt32
  b : UInt32
  c : UInt32
  d : UInt32
  e : UInt32
  f : UInt32
  g : UInt32
  h : UInt32

namespace State

def start : State :=
  let w (i : Nat) : UInt32 := startWords.getD i 0
  ⟨w 0, w 1, w 2, w 3, w 4, w 5, w 6, w 7⟩

def add (s t : State) : State :=
  ⟨s.a + t.a, s.b + t.b, s.c + t.c, s.d + t.d, s.e + t.e, s.f + t.f, s.g + t.g, s.h + t.h⟩

def words (s : State) : List UInt32 :=
  [s.a, s.b, s.c, s.d, s.e, s.f, s.g, s.h]

end State

def rotated (x : UInt32) (n : UInt32) : UInt32 :=
  (x >>> n) ||| (x <<< (32 - n))

/-- The message, a bit, zeros up to whole blocks of 64 bytes less eight, and the length in bits. -/
def padded (message : List UInt8) : List UInt8 :=
  let zeros := (119 - message.length % 64) % 64
  let bits := 8 * message.length
  message ++ [0x80] ++ List.replicate zeros 0 ++
    (List.range 8).map fun i => (bits / Nat.pow 256 (7 - i) % 256).toUInt8

/-- Four bytes at a time, the first one highest. -/
def wordsOf : List UInt8 → List UInt32
  | a :: b :: c :: d :: rest =>
    ((a.toUInt32 <<< 24) ||| (b.toUInt32 <<< 16) ||| (c.toUInt32 <<< 8) ||| d.toUInt32) ::
      wordsOf rest
  | _ => []

/-- The word that follows the given ones, which come the latest first. -/
def nextWord (earlier : List UInt32) : UInt32 :=
  let w (back : Nat) : UInt32 := earlier.getD (back - 1) 0
  let x := w 15
  let y := w 2
  w 16 + (rotated x 7 ^^^ rotated x 18 ^^^ (x >>> 3)) + w 7 +
    (rotated y 17 ^^^ rotated y 19 ^^^ (y >>> 10))

/-- The 64 words of a block: sixteen that are given, the others made of earlier ones. -/
def schedule (block : List UInt32) : List UInt32 :=
  ((List.range 48).foldl (fun earlier _ => nextWord earlier :: earlier) block.reverse).reverse

def round (s : State) (constant word : UInt32) : State :=
  let big := rotated s.e 6 ^^^ rotated s.e 11 ^^^ rotated s.e 25
  let choice := (s.e &&& s.f) ^^^ (~~~s.e &&& s.g)
  let one := s.h + big + choice + constant + word
  let small := rotated s.a 2 ^^^ rotated s.a 13 ^^^ rotated s.a 22
  let majority := (s.a &&& s.b) ^^^ (s.a &&& s.c) ^^^ (s.b &&& s.c)
  ⟨one + small + majority, s.a, s.b, s.c, s.d + one, s.e, s.f, s.g⟩

def compress (s : State) (block : List UInt32) : State :=
  s.add ((roundConstants.zip (schedule block)).foldl (fun s (k, w) => round s k w) s)

/-- Sixteen words at a time; `count` is the number of blocks. -/
def absorb : Nat → State → List UInt32 → State
  | 0, s, _ => s
  | count + 1, s, words => absorb count (compress s (words.take 16)) (words.drop 16)

def digest (message : List UInt8) : List UInt32 :=
  let words := wordsOf (padded message)
  (absorb (words.length / 16) .start words).words

end SqlSyntax.Sha256
