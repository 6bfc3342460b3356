import CoinAddress.Digest.Block

/-!
# SHA-256

The digest folds the message blocks into a state of eight words. Within a block, each round consumes
the oldest of the last sixteen message words and appends the word that the recurrence derives from
them, so the schedule never has to be stored.
-/

namespace CoinAddress.Digest.Sha256

/-- The state between two blocks. -/
abbrev State := Vector UInt32 8

/-- The state before the first block. -/
def initial : State :=
  #v[0x6a09e667, 0xbb67ae85, 0x3c6ef372, 0xa54ff53a, 0x510e527f, 0x9b05688c, 0x1f83d9ab, 0x5be0cd19]

/-- The constants of the sixty-four rounds. -/
def roundConstants : List UInt32 :=
  [0x428a2f98, 0x71374491, 0xb5c0fbcf, 0xe9b5dba5, 0x3956c25b, 0x59f111f1, 0x923f82a4, 0xab1c5ed5,
   0xd807aa98, 0x12835b01, 0x243185be, 0x550c7dc3, 0x72be5d74, 0x80deb1fe, 0x9bdc06a7, 0xc19bf174,
   0xe49b69c1, 0xefbe4786, 0x0fc19dc6, 0x240ca1cc, 0x2de92c6f, 0x4a7484aa, 0x5cb0a9dc, 0x76f988da,
   0x983e5152, 0xa831c66d, 0xb00327c8, 0xbf597fc7, 0xc6e00bf3, 0xd5a79147, 0x06ca6351, 0x14292967,
   0x27b70a85, 0x2e1b2138, 0x4d2c6dfc, 0x53380d13, 0x650a7354, 0x766a0abb, 0x81c2c92e, 0x92722c85,
   0xa2bfe8a1, 0xa81a664b, 0xc24b8b70, 0xc76c51a3, 0xd192e819, 0xd6990624, 0xf40e3585, 0x106aa070,
   0x19a4c116, 0x1e376c08, 0x2748774c, 0x34b0bcb5, 0x391c0cb3, 0x4ed8aa4a, 0x5b9cca4f, 0x682e6ff3,
   0x748f82ee, 0x78a5636f, 0x84c87814, 0x8cc70208, 0x90befffa, 0xa4506ceb, 0xbef9a3f7, 0xc67178f2]

/-- The message word that follows sixteen others. -/
def nextWord (window : Vector UInt32 16) : UInt32 :=
  let near := window[14]
  let far := window[1]
  (rotateRight near 17 ^^^ rotateRight near 19 ^^^ (near >>> 10)) + window[9]
    + (rotateRight far 7 ^^^ rotateRight far 18 ^^^ (far >>> 3)) + window[0]

/-- The window moved on by one message word. -/
def advance (window : Vector UInt32 16) : Vector UInt32 16 :=
  window.tail.push (nextWord window)

/-- One round, which mixes a message word and a constant into the state. -/
def round (s : State) (word constant : UInt32) : State :=
  let choice := (s[4] &&& s[5]) ^^^ (~~~s[4] &&& s[6])
  let majority := (s[0] &&& s[1]) ^^^ (s[0] &&& s[2]) ^^^ (s[1] &&& s[2])
  let lower := s[7] + (rotateRight s[4] 6 ^^^ rotateRight s[4] 11 ^^^ rotateRight s[4] 25)
    + choice + constant + word
  let upper := (rotateRight s[0] 2 ^^^ rotateRight s[0] 13 ^^^ rotateRight s[0] 22) + majority
  #v[lower + upper, s[0], s[1], s[2], s[3] + lower, s[4], s[5], s[6]]

/-- The state after a block. -/
def absorb (state : State) (block : Vector UInt32 16) : State :=
  let (worked, _) := roundConstants.foldl
    (fun (s, window) constant => (round s window[0] constant, advance window)) (state, block)
  state.zipWith (· + ·) worked

end Sha256

/-- The SHA-256 digest of a message. -/
def sha256 (message : Bytes) : Vector UInt8 32 :=
  (((blocks .bigEndian message).foldl Sha256.absorb Sha256.initial).map
    ByteOrder.bigEndian.bytes).flatten

end CoinAddress.Digest
