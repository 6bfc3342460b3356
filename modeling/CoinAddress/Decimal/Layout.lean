import CoinAddress.Decimal.Shortest

/-!
# Decimal text

How the digits of a number are laid out: with a point at its place while the exponent is small, and
else with one digit before the point and the exponent after the mark `e`.
-/

namespace CoinAddress.Decimal

/-- The decisions of a decimal notation. -/
structure Layout where
  /-- The least exponent that is written with the point at its place. -/
  leastPositional : Int
  /-- The greatest exponent that is written with the point at its place. -/
  greatestPositional : Int
deriving DecidableEq, Repr

/-- The text with the point at its place. A whole number gets a zero after the point. -/
def Scaled.positional (d : Scaled) : List Char :=
  let digits := Nat.toDigits 10 d.digits
  let whole := (d.exponent + 1).toNat
  if 0 ≤ d.power then digits ++ List.replicate d.power.toNat '0' ++ ['.', '0']
  else if 0 ≤ d.exponent then digits.take whole ++ '.' :: digits.drop whole
  else ['0', '.'] ++ List.replicate (-d.exponent - 1).toNat '0' ++ digits

/-- The text with one digit before the point, if there is more than one, and the exponent, which
always has a sign. -/
def Scaled.exponential (d : Scaled) : List Char :=
  let fraction := match Nat.toDigits 10 d.digits with
    | [] => []
    | [digit] => [digit]
    | digit :: rest => digit :: '.' :: rest
  let sign := if d.exponent < 0 then '-' else '+'
  fraction ++ 'e' :: sign :: Nat.toDigits 10 d.exponent.natAbs

/-- The text of the finite double with these bits. -/
def Layout.text (layout : Layout) (bits : UInt64) : String :=
  let sign := if bits >>> 63 = 1 then ['-'] else []
  let d := (Binary.ofBits bits).shortest
  let isPositional := layout.leastPositional ≤ d.exponent ∧ d.exponent ≤ layout.greatestPositional
  let size := if isPositional then d.positional else d.exponential
  String.ofList (sign ++ size)

end CoinAddress.Decimal
