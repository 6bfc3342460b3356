import CoinAddress.Digest.Block

/-!
# Change of radix

A numeral is a list of digits with the lowest first. To change its radix, the digits of the source
numeral are taken from the highest down. Each one is brought into the target numeral by a pass that
multiplies every place by the source radix and carries upwards, in 32-bit words.
-/

namespace CoinAddress

/-- A change from one radix to another. -/
structure Conversion where
  /-- The radix of the digits that are read. -/
  source : UInt32
  /-- The radix of the digits that are written. -/
  target : UInt32
  /-- There are at least two digits to write. -/
  one_lt_target : 1 < target := by decide

namespace Conversion

/-- One place of a pass: the digit that stands there and the carry that enters it. -/
structure Place where
  /-- The digit before the pass. -/
  digit : UInt8
  /-- The carry from the place below. -/
  carry : UInt32
deriving DecidableEq, Repr

/-- The digit at a place, multiplied by the source radix, with the carry added. -/
def total (c : Conversion) (p : Place) : UInt32 :=
  p.digit.toUInt32 * c.source + p.carry

/-- The digit after the pass. -/
def stored (c : Conversion) (p : Place) : UInt8 :=
  (c.total p % c.target).toUInt8

/-- The carry that leaves a place for the next one. -/
def carryOut (c : Conversion) (p : Place) : UInt32 :=
  c.total p / c.target

/-- The places of a pass over a numeral, with the carry that enters the lowest. -/
def pass (c : Conversion) (carry : UInt32) : List UInt8 → List Place
  | [] => []
  | digit :: digits => ⟨digit, carry⟩ :: c.pass (c.carryOut ⟨digit, carry⟩) digits

/-- The carry that is left after all places of a pass. -/
def overflow (c : Conversion) (carry : UInt32) (places : List Place) : UInt32 :=
  match places.getLast? with
  | some p => c.carryOut p
  | none => carry

/-- The digits of a carry. -/
def spill (c : Conversion) (carry : UInt32) : List UInt8 :=
  if carry = 0 then [] else (carry % c.target).toUInt8 :: c.spill (carry / c.target)
termination_by carry.toNat
decreasing_by
  have one_lt := UInt32.lt_iff_toNat_lt.mp c.one_lt_target
  have positive : 0 < carry.toNat := Nat.pos_of_ne_zero fun h => by
    exact absurd (UInt32.toNat_inj.mp h) (by assumption)
  rw [UInt32.toNat_div]
  exact Nat.div_lt_self positive one_lt

/-- The numeral multiplied by the source radix, with a digit added. -/
def absorb (c : Conversion) (numeral : List UInt8) (digit : UInt8) : List UInt8 :=
  let places := c.pass digit.toUInt32 numeral
  places.map c.stored ++ c.spill (c.overflow digit.toUInt32 places)

/-- The target numeral of the source digits, which come highest first. -/
def convert (c : Conversion) (digits : List UInt8) : List UInt8 :=
  digits.foldl c.absorb []

end Conversion

end CoinAddress
