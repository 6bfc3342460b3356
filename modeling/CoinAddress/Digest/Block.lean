/-!
# Message blocks

Both digests of this library read a message as blocks of sixteen 32-bit words, after the message has
been padded with a marker bit, zeros and its length in bits. They differ in the order in which four
bytes make a word, so the order is a parameter here.
-/

namespace CoinAddress

/-- A sequence of bytes. -/
abbrev Bytes := List UInt8

namespace Digest

/-- Which of the bytes of a word is written first. -/
inductive ByteOrder where
  /-- The most significant byte comes first. -/
  | bigEndian
  /-- The least significant byte comes first. -/
  | littleEndian
deriving DecidableEq, Repr

/-- Turns the bits of a word to the left, those that leave it coming back on the right. -/
def rotateLeft (word turn : UInt32) : UInt32 :=
  (word <<< turn) ||| (word >>> (32 - turn))

/-- Turns the bits of a word to the right. -/
def rotateRight (word turn : UInt32) : UInt32 :=
  (word >>> turn) ||| (word <<< (32 - turn))

namespace ByteOrder

/-- The word that four bytes make. -/
def word : ByteOrder → (a b c d : UInt8) → UInt32
  | bigEndian, a, b, c, d =>
    (a.toUInt32 <<< 24) ||| (b.toUInt32 <<< 16) ||| (c.toUInt32 <<< 8) ||| d.toUInt32
  | littleEndian, a, b, c, d =>
    (d.toUInt32 <<< 24) ||| (c.toUInt32 <<< 16) ||| (b.toUInt32 <<< 8) ||| a.toUInt32

/-- The four bytes of a word. -/
def bytes : ByteOrder → (word : UInt32) → Vector UInt8 4
  | bigEndian, w => #v[(w >>> 24).toUInt8, (w >>> 16).toUInt8, (w >>> 8).toUInt8, w.toUInt8]
  | littleEndian, w => #v[w.toUInt8, (w >>> 8).toUInt8, (w >>> 16).toUInt8, (w >>> 24).toUInt8]

/-- The bytes of a number modulo `2 ^ 64`. -/
def lengthBytes (order : ByteOrder) (n : Nat) : Bytes :=
  let low := (order.bytes n.toUInt32).toList
  let high := (order.bytes (n >>> 32).toUInt32).toList
  match order with
  | bigEndian => high ++ low
  | littleEndian => low ++ high

/-- What follows a message of `n` bytes: the marker, zeros up to the last eight bytes of a block,
and the length in bits. -/
def padding (order : ByteOrder) (n : Nat) : Bytes :=
  0x80 :: List.replicate ((119 - n % 64) % 64) 0 ++ order.lengthBytes (8 * n)

/-- The words that the bytes make, four bytes a word. -/
def words (order : ByteOrder) : Bytes → List UInt32
  | a :: b :: c :: d :: rest => order.word a b c d :: order.words rest
  | _ => []

end ByteOrder

/-- The words in groups of sixteen. -/
def blocksOf (words : List UInt32) : List (Vector UInt32 16) :=
  if words.length < 16 then []
  else Vector.ofFn (fun i => words.getD i.val 0) :: blocksOf (words.drop 16)
termination_by words.length
decreasing_by simp only [List.length_drop]; omega

/-- The blocks of a padded message. -/
def blocks (order : ByteOrder) (message : Bytes) : List (Vector UInt32 16) :=
  blocksOf (order.words (message ++ order.padding message.length))

end Digest

end CoinAddress
