import CoinAddress.Digest.Block

/-!
# RIPEMD-160

Two lines of eighty steps run side by side over each block, with their own word orders, rotations
and constants, and are added crosswise into a state of five words. A line is a list of five passes,
and a pass names its mixing function, its constant and the order in which it takes the words.
-/

namespace CoinAddress.Digest.Ripemd160

/-- The state between two blocks. -/
abbrev State := Vector UInt32 5

/-- The state before the first block. -/
def initial : State :=
  #v[0x67452301, 0xefcdab89, 0x98badcfe, 0x10325476, 0xc3d2e1f0]

/-- A function that mixes three words bit by bit. -/
abbrev Mixer := (x y z : UInt32) → UInt32

/-- The sum of the bits modulo two. -/
def parity : Mixer := fun x y z => x ^^^ y ^^^ z

/-- The second word where the first has a bit, and else the third. -/
def select : Mixer := fun x y z => (x &&& y) ||| (~~~x &&& z)

/-- The first word or the negated second, flipped by the third. -/
def orFlip : Mixer := fun x y z => (x ||| ~~~y) ^^^ z

/-- The first word where the third has a bit, and else the second. -/
def selectLast : Mixer := fun x y z => (x &&& z) ||| (y &&& ~~~z)

/-- The second word or the negated third, flipped by the first. -/
def flipOr : Mixer := fun x y z => x ^^^ (y ||| ~~~z)

/-- Sixteen steps of a line. -/
structure Pass where
  /-- How the middle words of the state are mixed. -/
  mixer : Mixer
  /-- What every step adds. -/
  constant : UInt32
  /-- The message word that each step takes, and by how much it rotates. -/
  steps : List (Fin 16 × UInt32)

/-- The first line. -/
def leftLine : List Pass :=
  [⟨parity, 0x00000000,
      [(0, 11), (1, 14), (2, 15), (3, 12), (4, 5), (5, 8), (6, 7), (7, 9),
       (8, 11), (9, 13), (10, 14), (11, 15), (12, 6), (13, 7), (14, 9), (15, 8)]⟩,
   ⟨select, 0x5a827999,
      [(7, 7), (4, 6), (13, 8), (1, 13), (10, 11), (6, 9), (15, 7), (3, 15),
       (12, 7), (0, 12), (9, 15), (5, 9), (2, 11), (14, 7), (11, 13), (8, 12)]⟩,
   ⟨orFlip, 0x6ed9eba1,
      [(3, 11), (10, 13), (14, 6), (4, 7), (9, 14), (15, 9), (8, 13), (1, 15),
       (2, 14), (7, 8), (0, 13), (6, 6), (13, 5), (11, 12), (5, 7), (12, 5)]⟩,
   ⟨selectLast, 0x8f1bbcdc,
      [(1, 11), (9, 12), (11, 14), (10, 15), (0, 14), (8, 15), (12, 9), (4, 8),
       (13, 9), (3, 14), (7, 5), (15, 6), (14, 8), (5, 6), (6, 5), (2, 12)]⟩,
   ⟨flipOr, 0xa953fd4e,
      [(4, 9), (0, 15), (5, 5), (9, 11), (7, 6), (12, 8), (2, 13), (10, 12),
       (14, 5), (1, 12), (3, 13), (8, 14), (11, 11), (6, 8), (15, 5), (13, 6)]⟩]

/-- The second line. -/
def rightLine : List Pass :=
  [⟨flipOr, 0x50a28be6,
      [(5, 8), (14, 9), (7, 9), (0, 11), (9, 13), (2, 15), (11, 15), (4, 5),
       (13, 7), (6, 7), (15, 8), (8, 11), (1, 14), (10, 14), (3, 12), (12, 6)]⟩,
   ⟨selectLast, 0x5c4dd124,
      [(6, 9), (11, 13), (3, 15), (7, 7), (0, 12), (13, 8), (5, 9), (10, 11),
       (14, 7), (15, 7), (8, 12), (12, 7), (4, 6), (9, 15), (1, 13), (2, 11)]⟩,
   ⟨orFlip, 0x6d703ef3,
      [(15, 9), (5, 7), (1, 15), (3, 11), (7, 8), (14, 6), (6, 6), (9, 14),
       (11, 12), (8, 13), (12, 5), (2, 14), (10, 13), (0, 13), (4, 7), (13, 5)]⟩,
   ⟨select, 0x7a6d76e9,
      [(8, 15), (6, 5), (4, 8), (1, 11), (3, 14), (11, 14), (15, 6), (0, 14),
       (5, 6), (12, 9), (2, 12), (13, 9), (9, 12), (7, 5), (10, 15), (14, 8)]⟩,
   ⟨parity, 0x00000000,
      [(12, 8), (15, 5), (10, 12), (4, 9), (1, 12), (5, 5), (8, 14), (7, 6),
       (6, 8), (2, 13), (13, 6), (14, 5), (0, 15), (3, 13), (9, 11), (11, 11)]⟩]

/-- The state after one pass over a block. -/
def Pass.run (block : Vector UInt32 16) (state : State) (pass : Pass) : State :=
  pass.steps.foldl
    (fun s (index, turn) =>
      let sum := s[0] + pass.mixer s[1] s[2] s[3] + block[index] + pass.constant
      #v[s[4], rotateLeft sum turn + s[4], s[1], rotateLeft s[2] 10, s[3]])
    state

/-- The state after a block. -/
def absorb (state : State) (block : Vector UInt32 16) : State :=
  let left := leftLine.foldl (Pass.run block) state
  let right := rightLine.foldl (Pass.run block) state
  #v[state[1] + left[2] + right[3], state[2] + left[3] + right[4], state[3] + left[4] + right[0],
     state[4] + left[0] + right[1], state[0] + left[1] + right[2]]

end Ripemd160

/-- The RIPEMD-160 digest of a message. -/
def ripemd160 (message : Bytes) : Vector UInt8 20 :=
  (((blocks .littleEndian message).foldl Ripemd160.absorb Ripemd160.initial).map
    ByteOrder.littleEndian.bytes).flatten

end CoinAddress.Digest
