/-!
# The SHA-256 digest

A message is padded to blocks of sixty-four bytes (`padded`), and each block changes eight
words of thirty-two bits by sixty-four rounds (`compress`). `sha256` is the eight words that
are left, as bytes. `hmac` is the digest of a message under a key.
-/

namespace QuizEngine.Token

/-! ## Constants -/

/-- The words that a digest starts from. -/
def initialWords : List UInt32 :=
  [0x6a09e667, 0xbb67ae85, 0x3c6ef372, 0xa54ff53a, 0x510e527f, 0x9b05688c, 0x1f83d9ab, 0x5be0cd19]

/-- One word per round. -/
def roundWords : List UInt32 :=
  [0x428a2f98, 0x71374491, 0xb5c0fbcf, 0xe9b5dba5, 0x3956c25b, 0x59f111f1, 0x923f82a4, 0xab1c5ed5,
   0xd807aa98, 0x12835b01, 0x243185be, 0x550c7dc3, 0x72be5d74, 0x80deb1fe, 0x9bdc06a7, 0xc19bf174,
   0xe49b69c1, 0xefbe4786, 0x0fc19dc6, 0x240ca1cc, 0x2de92c6f, 0x4a7484aa, 0x5cb0a9dc, 0x76f988da,
   0x983e5152, 0xa831c66d, 0xb00327c8, 0xbf597fc7, 0xc6e00bf3, 0xd5a79147, 0x06ca6351, 0x14292967,
   0x27b70a85, 0x2e1b2138, 0x4d2c6dfc, 0x53380d13, 0x650a7354, 0x766a0abb, 0x81c2c92e, 0x92722c85,
   0xa2bfe8a1, 0xa81a664b, 0xc24b8b70, 0xc76c51a3, 0xd192e819, 0xd6990624, 0xf40e3585, 0x106aa070,
   0x19a4c116, 0x1e376c08, 0x2748774c, 0x34b0bcb5, 0x391c0cb3, 0x4ed8aa4a, 0x5b9cca4f, 0x682e6ff3,
   0x748f82ee, 0x78a5636f, 0x84c87814, 0x8cc70208, 0x90befffa, 0xa4506ceb, 0xbef9a3f7, 0xc67178f2]

/-! ## Words and bytes -/

/-- The word with its bits turned to the right. -/
def rotateRight (x n : UInt32) : UInt32 := (x >>> n) ||| (x <<< (32 - n))

/-- The bytes of a number, highest first. -/
def bytesOf (count n : Nat) : List UInt8 :=
  (List.range count).reverse.map fun i => UInt8.ofNat (n >>> (8 * i))

/-- The number that bytes stand for, highest first. -/
def numberOf (bs : List UInt8) : Nat := bs.foldl (fun n b => n * 256 + b.toNat) 0

/-- Pieces of `size` bytes each. -/
def pieces (size : Nat) : (count : Nat) → List UInt8 → List (List UInt8)
  | 0, _ => []
  | count + 1, bs => bs.take size :: pieces size count (bs.drop size)

/-! ## The digest -/

/-- The message with a bit set behind it, zeros up to a whole block, and its length in
bits. -/
def padded (message : List UInt8) : List UInt8 :=
  let zeros := (119 - message.length % 64) % 64
  message ++ 0x80 :: List.replicate zeros 0 ++ bytesOf 8 (8 * message.length)

/-- The words of the rounds from the last sixteen on. -/
def schedule : (rounds : Nat) → (window : List UInt32) → List UInt32
  | 0, _ => []
  | rounds + 1, window =>
    let word (i : Nat) := window.getD i 0
    let low := rotateRight (word 1) 7 ^^^ rotateRight (word 1) 18 ^^^ (word 1 >>> 3)
    let high := rotateRight (word 14) 17 ^^^ rotateRight (word 14) 19 ^^^ (word 14 >>> 10)
    word 0 :: schedule rounds (window.drop 1 ++ [word 0 + low + word 9 + high])

/-- One round on eight words. -/
def round (state : List UInt32) (constant word : UInt32) : List UInt32 :=
  match state with
  | [a, b, c, d, e, f, g, h] =>
    let s1 := rotateRight e 6 ^^^ rotateRight e 11 ^^^ rotateRight e 25
    let choice := (e &&& f) ^^^ (~~~e &&& g)
    let first := h + s1 + choice + constant + word
    let s0 := rotateRight a 2 ^^^ rotateRight a 13 ^^^ rotateRight a 22
    let majority := (a &&& b) ^^^ (a &&& c) ^^^ (b &&& c)
    [first + (s0 + majority), a, b, c, d + first, e, f, g]
  | other => other

/-- What a block makes of eight words. -/
def compress (state : List UInt32) (block : List UInt8) : List UInt32 :=
  let words := schedule 64 ((pieces 4 16 block).map fun p => UInt32.ofNat (numberOf p))
  let final := (roundWords.zip words).foldl (fun s r => round s r.1 r.2) state
  List.zipWith (· + ·) state final

/-- The digest of a message. -/
def sha256 (message : List UInt8) : List UInt8 :=
  let blocks := padded message
  ((pieces 64 (blocks.length / 64) blocks).foldl compress initialWords).flatMap fun w =>
    bytesOf 4 w.toNat

/-- The digest of a message under a key; a key longer than a block is digested first. -/
def hmac (key message : List UInt8) : List UInt8 :=
  let key := if 64 < key.length then sha256 key else key
  let key := key ++ List.replicate (64 - key.length) 0
  sha256 (key.map (· ^^^ 0x5c) ++ sha256 (key.map (· ^^^ 0x36) ++ message))

end QuizEngine.Token
