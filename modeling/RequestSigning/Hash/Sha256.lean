import RequestSigning.Bytes

/-!
# SHA-256

`digest` pads a message to whole blocks of sixteen words and folds `compress` over them.
-/

namespace RequestSigning.Sha256

/-- The round constants: the fractions of the cube roots of the first 64 primes. -/
def roundConstants : List UInt32 := [
  0x428a2f98, 0x71374491, 0xb5c0fbcf, 0xe9b5dba5, 0x3956c25b, 0x59f111f1, 0x923f82a4, 0xab1c5ed5,
  0xd807aa98, 0x12835b01, 0x243185be, 0x550c7dc3, 0x72be5d74, 0x80deb1fe, 0x9bdc06a7, 0xc19bf174,
  0xe49b69c1, 0xefbe4786, 0x0fc19dc6, 0x240ca1cc, 0x2de92c6f, 0x4a7484aa, 0x5cb0a9dc, 0x76f988da,
  0x983e5152, 0xa831c66d, 0xb00327c8, 0xbf597fc7, 0xc6e00bf3, 0xd5a79147, 0x06ca6351, 0x14292967,
  0x27b70a85, 0x2e1b2138, 0x4d2c6dfc, 0x53380d13, 0x650a7354, 0x766a0abb, 0x81c2c92e, 0x92722c85,
  0xa2bfe8a1, 0xa81a664b, 0xc24b8b70, 0xc76c51a3, 0xd192e819, 0xd6990624, 0xf40e3585, 0x106aa070,
  0x19a4c116, 0x1e376c08, 0x2748774c, 0x34b0bcb5, 0x391c0cb3, 0x4ed8aa4a, 0x5b9cca4f, 0x682e6ff3,
  0x748f82ee, 0x78a5636f, 0x84c87814, 0x8cc70208, 0x90befffa, 0xa4506ceb, 0xbef9a3f7, 0xc67178f2]

/-- The eight words that a block is mixed into. -/
structure State where
  a : UInt32
  b : UInt32
  c : UInt32
  d : UInt32
  e : UInt32
  f : UInt32
  g : UInt32
  h : UInt32
  deriving DecidableEq, Repr

/-- The fractions of the square roots of the first eight primes. -/
def State.initial : State :=
  ⟨0x6a09e667, 0xbb67ae85, 0x3c6ef372, 0xa54ff53a, 0x510e527f, 0x9b05688c, 0x1f83d9ab, 0x5be0cd19⟩

def State.add (s t : State) : State :=
  ⟨s.a + t.a, s.b + t.b, s.c + t.c, s.d + t.d, s.e + t.e, s.f + t.f, s.g + t.g, s.h + t.h⟩

def State.words (s : State) : List UInt32 := [s.a, s.b, s.c, s.d, s.e, s.f, s.g, s.h]

def rotate (x n : UInt32) : UInt32 := (x >>> n) ||| (x <<< (32 - n))

def round (s : State) (k w : UInt32) : State :=
  let mix := s.h + (rotate s.e 6 ^^^ rotate s.e 11 ^^^ rotate s.e 25) +
    ((s.e &&& s.f) ^^^ (~~~ s.e &&& s.g)) + k + w
  let blend := (rotate s.a 2 ^^^ rotate s.a 13 ^^^ rotate s.a 22) +
    ((s.a &&& s.b) ^^^ (s.a &&& s.c) ^^^ (s.b &&& s.c))
  ⟨mix + blend, s.a, s.b, s.c, s.d + mix, s.e, s.f, s.g⟩

/-- The next word of the schedule after `words`. -/
def nextWord (words : Array UInt32) : UInt32 :=
  let n := words.size
  let x := words.getD (n - 15) 0
  let y := words.getD (n - 2) 0
  words.getD (n - 16) 0 + (rotate x 7 ^^^ rotate x 18 ^^^ (x >>> 3)) +
    words.getD (n - 7) 0 + (rotate y 17 ^^^ rotate y 19 ^^^ (y >>> 10))

def extend : Nat → Array UInt32 → Array UInt32
  | 0, words => words
  | n + 1, words => extend n (words.push (nextWord words))

def compress (s : State) (block : List UInt32) : State :=
  s.add ((roundConstants.zip (extend 48 block.toArray).toList).foldl
    (fun t kw => round t kw.1 kw.2) s)

def word (p q r s : UInt8) : UInt32 :=
  (p.toUInt32 <<< 24) ||| (q.toUInt32 <<< 16) ||| (r.toUInt32 <<< 8) ||| s.toUInt32

/-- Whole words of a message whose length is a multiple of four. -/
def toWords : Bytes → List UInt32
  | p :: q :: r :: s :: rest => word p q r s :: toWords rest
  | _ => []

def ofWord (w : UInt32) : Bytes :=
  [(w >>> 24).toUInt8, (w >>> 16).toUInt8, (w >>> 8).toUInt8, w.toUInt8]

/-- The last `n` octets of a number, most significant first. -/
def bigEndian (value : Nat) : Nat → Bytes
  | 0 => []
  | n + 1 => bigEndian (value / 256) n ++ [(value % 256).toUInt8]

/-- The blocks that a message of `length` octets fills with its padding. -/
def blockCount (length : Nat) : Nat := (length + 72) / 64

/-- The message, a set bit, zeros, and the length in bits. -/
def pad (message : Bytes) : Bytes :=
  let length := message.length
  message ++ 0x80 :: List.replicate (blockCount length * 64 - length - 9) 0 ++
    bigEndian (length * 8) 8

def blocks : Nat → List UInt32 → List (List UInt32)
  | 0, _ => []
  | n + 1, words => words.take 16 :: blocks n (words.drop 16)

def digest (message : Bytes) : Bytes :=
  ((blocks (blockCount message.length) (toWords (pad message))).foldl compress
    State.initial).words.flatMap ofWord

end RequestSigning.Sha256
