/-!
# The shortest decimal of a binary number

A double stands for all reals that round to it, an interval around its own value. Among the decimals
in that interval the one with the fewest digits is chosen, and of several the nearest to the value,
a tie going to the even one. The search tries one digit, two digits and so on, and looks at the two
decimals of that many digits next to the value. All arithmetic is exact.
-/

namespace CoinAddress.Decimal

/-- A decimal without sign: a natural number times a power of ten. -/
structure Scaled where
  /-- The digits, as a number. -/
  digits : Nat
  /-- The power of ten. -/
  power : Int
deriving DecidableEq, Repr

/-- The decimal without zeros at its end. -/
def Scaled.trim (d : Scaled) : Scaled :=
  if h : d.digits ≠ 0 ∧ d.digits % 10 = 0 then Scaled.trim ⟨d.digits / 10, d.power + 1⟩ else d
termination_by d.digits
decreasing_by omega

/-- The exponent of the first digit. -/
def Scaled.exponent (d : Scaled) : Int :=
  d.power + (Nat.toDigits 10 d.digits).length - 1

/-- A double without sign: a natural number times a power of two. -/
structure Binary where
  /-- The significant bits, as a number. -/
  mantissa : Nat
  /-- The power of two. -/
  power : Int
  /-- Whether the next lower double is only half as far away as the next higher one. -/
  lowerIsNear : Bool
deriving DecidableEq, Repr

/-- The size of the finite double with these bits. -/
def Binary.ofBits (bits : UInt64) : Binary :=
  let fraction := (bits &&& 0xfffffffffffff).toNat
  let biased := (bits >>> 52 &&& 0x7ff).toNat
  if biased = 0 then ⟨fraction, -1074, false⟩
  else ⟨0x10000000000000 + fraction, Int.ofNat biased - 1075, fraction = 0 ∧ biased > 1⟩

namespace Binary

/-- How many quarters of a unit in the last place the value has. -/
def quarters (b : Binary) : Nat := 4 * b.mantissa

/-- The lower end of the interval, in quarters. -/
def lowQuarters (b : Binary) : Nat := b.quarters - (if b.lowerIsNear then 1 else 2)

/-- The upper end of the interval, in quarters. -/
def highQuarters (b : Binary) : Nat := b.quarters + 2

/-- The size of a quarter against the given power of ten, as a fraction. -/
def quarterAgainst (b : Binary) (power : Int) : Nat × Nat :=
  (Nat.pow 2 (b.power - 2).toNat * Nat.pow 10 (-power).toNat,
    Nat.pow 2 (2 - b.power).toNat * Nat.pow 10 power.toNat)

/-- The decimal of the given power nearest to the value, if any lies in the interval. The ends of
the interval belong to it when the mantissa is even. -/
def nearest? (b : Binary) (power : Int) : Option Scaled :=
  let (quarter, unit) := b.quarterAgainst power
  let value := b.quarters * quarter
  let low := b.lowQuarters * quarter
  let high := b.highQuarters * quarter
  let inside (digits : Nat) : Bool :=
    if b.mantissa % 2 = 0 then low ≤ digits * unit ∧ digits * unit ≤ high
    else low < digits * unit ∧ digits * unit < high
  let below := value / unit
  let above := below + 1
  let fromBelow := value - below * unit
  let fromAbove := above * unit - value
  match inside below, inside above with
  | false, false => none
  | true, false => some ⟨below, power⟩
  | false, true => some ⟨above, power⟩
  | true, true =>
    if fromBelow < fromAbove ∨ fromBelow = fromAbove ∧ below % 2 = 0 then some ⟨below, power⟩
    else some ⟨above, power⟩

/-- The exponent of the first decimal digit of a value that is not zero. -/
def exponent (b : Binary) : Int :=
  let (quarter, unit) := b.quarterAgainst 0
  let value := b.quarters * quarter
  if unit ≤ value then (Nat.toDigits 10 (value / unit)).length - 1
  else
    match (List.range 400).find? fun (n : Nat) => unit ≤ value * Nat.pow 10 n with
    | some n => -n
    | none => 0

/-- The decimal with the fewest digits in the interval. Seventeen digits always suffice. -/
def shortest (b : Binary) : Scaled :=
  if b.mantissa = 0 then ⟨0, 0⟩
  else
    match (List.range 17).findSome? fun (n : Nat) => b.nearest? (b.exponent - n) with
    | some d => d.trim
    | none => ⟨0, 0⟩

end Binary

end CoinAddress.Decimal
