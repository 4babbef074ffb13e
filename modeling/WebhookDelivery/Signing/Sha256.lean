import WebhookDelivery.Text.LossyUtf8

/-!
# SHA-256

The hash function of FIPS 180-4 on lists of octets. A block's message schedule slides a window of
sixteen words along; the compression folds one round per scheduled word over the chaining state.
-/

namespace WebhookDelivery.Sha256

-- ---------------------------------------------------------------------------
-- Words
-- ---------------------------------------------------------------------------

/-- Rotation to the right. -/
def rotr (x : UInt32) (n : UInt32) : UInt32 :=
  (x >>> n) ||| (x <<< (32 - n))

/-- The octets of a word, most significant first. -/
def wordOctets (w : UInt32) : Octets :=
  [(w >>> 24).toUInt8, (w >>> 16).toUInt8, (w >>> 8).toUInt8, w.toUInt8]

/-- The words that octets spell, four to a word. -/
def wordsOf : Octets → List UInt32
  | a :: b :: c :: d :: rest =>
    ((a.toUInt32 <<< 24) ||| (b.toUInt32 <<< 16) ||| (c.toUInt32 <<< 8) ||| d.toUInt32) :: wordsOf rest
  | _ => []

/-- The constants of the rounds: cube roots of the first sixty-four primes. -/
def roundConstants : List UInt32 :=
  [0x428a2f98, 0x71374491, 0xb5c0fbcf, 0xe9b5dba5, 0x3956c25b, 0x59f111f1, 0x923f82a4, 0xab1c5ed5,
   0xd807aa98, 0x12835b01, 0x243185be, 0x550c7dc3, 0x72be5d74, 0x80deb1fe, 0x9bdc06a7, 0xc19bf174,
   0xe49b69c1, 0xefbe4786, 0x0fc19dc6, 0x240ca1cc, 0x2de92c6f, 0x4a7484aa, 0x5cb0a9dc, 0x76f988da,
   0x983e5152, 0xa831c66d, 0xb00327c8, 0xbf597fc7, 0xc6e00bf3, 0xd5a79147, 0x06ca6351, 0x14292967,
   0x27b70a85, 0x2e1b2138, 0x4d2c6dfc, 0x53380d13, 0x650a7354, 0x766a0abb, 0x81c2c92e, 0x92722c85,
   0xa2bfe8a1, 0xa81a664b, 0xc24b8b70, 0xc76c51a3, 0xd192e819, 0xd6990624, 0xf40e3585, 0x106aa070,
   0x19a4c116, 0x1e376c08, 0x2748774c, 0x34b0bcb5, 0x391c0cb3, 0x4ed8aa4a, 0x5b9cca4f, 0x682e6ff3,
   0x748f82ee, 0x78a5636f, 0x84c87814, 0x8cc70208, 0x90befffa, 0xa4506ceb, 0xbef9a3f7, 0xc67178f2]

-- ---------------------------------------------------------------------------
-- Compression
-- ---------------------------------------------------------------------------

/-- The eight words of the chaining state. -/
structure State where
  a : UInt32
  b : UInt32
  c : UInt32
  d : UInt32
  e : UInt32
  f : UInt32
  g : UInt32
  h : UInt32

/-- The state before the first block. -/
def initial : State :=
  ⟨0x6a09e667, 0xbb67ae85, 0x3c6ef372, 0xa54ff53a, 0x510e527f, 0x9b05688c, 0x1f83d9ab, 0x5be0cd19⟩

/-- The next `count` words of the schedule whose last sixteen words are `window`. -/
def schedule : Nat → List UInt32 → List UInt32
  | 0, _ => []
  | _, [] => []
  | count + 1, w :: window =>
    let early := window.getD 0 0
    let late := window.getD 13 0
    let s0 := rotr early 7 ^^^ rotr early 18 ^^^ (early >>> 3)
    let s1 := rotr late 17 ^^^ rotr late 19 ^^^ (late >>> 10)
    w :: schedule count (window ++ [w + s0 + window.getD 8 0 + s1])

/-- One round, with its constant and its scheduled word. -/
def round (s : State) (kw : UInt32 × UInt32) : State :=
  let s1 := rotr s.e 6 ^^^ rotr s.e 11 ^^^ rotr s.e 25
  let choice := (s.e &&& s.f) ^^^ (~~~ s.e &&& s.g)
  let t1 := s.h + s1 + choice + kw.1 + kw.2
  let s0 := rotr s.a 2 ^^^ rotr s.a 13 ^^^ rotr s.a 22
  let majority := (s.a &&& s.b) ^^^ (s.a &&& s.c) ^^^ (s.b &&& s.c)
  ⟨t1 + (s0 + majority), s.a, s.b, s.c, s.d + t1, s.e, s.f, s.g⟩

/-- The state after a block of sixteen words. -/
def compress (s : State) (block : List UInt32) : State :=
  let t := (roundConstants.zip (schedule 64 block)).foldl round s
  ⟨s.a + t.a, s.b + t.b, s.c + t.c, s.d + t.d, s.e + t.e, s.f + t.f, s.g + t.g, s.h + t.h⟩

-- ---------------------------------------------------------------------------
-- The hash
-- ---------------------------------------------------------------------------

/-- What follows the message: a one bit, zeros to fill the last block, and the length in bits. -/
def padding (length : Nat) : Octets :=
  0x80 :: List.replicate ((119 - length % 64) % 64) (0 : UInt8)
    ++ (List.range 8).map fun i => UInt8.ofNat ((length * 8) >>> (8 * (7 - i)))

/-- Compresses block after block of sixty-four octets. -/
def absorb : Nat → State → Octets → State
  | 0, s, _ => s
  | blocks + 1, s, bytes => absorb blocks (compress s (wordsOf (bytes.take 64))) (bytes.drop 64)

/-- The octets of the final state. -/
def State.octets (s : State) : Octets :=
  wordOctets s.a ++ wordOctets s.b ++ wordOctets s.c ++ wordOctets s.d
    ++ wordOctets s.e ++ wordOctets s.f ++ wordOctets s.g ++ wordOctets s.h

/-- The hash of a message. -/
def hash (message : Octets) : Octets :=
  let padded := message ++ padding message.length
  (absorb (padded.length / 64) initial padded).octets

end WebhookDelivery.Sha256
