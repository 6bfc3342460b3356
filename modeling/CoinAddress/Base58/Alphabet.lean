import CoinAddress.Base58.Conversion

/-!
# The Base58 alphabet

Fifty-eight ASCII letters and digits. The ones that look alike in print, `0`, `O`, `I` and `l`, are
left out.
-/

namespace CoinAddress.Base58

/-- The characters of the digits `0` to `57`. -/
def alphabet : Vector Char 58 :=
  #v['1', '2', '3', '4', '5', '6', '7', '8', '9',
     'A', 'B', 'C', 'D', 'E', 'F', 'G', 'H', 'J', 'K', 'L', 'M', 'N', 'P', 'Q', 'R', 'S', 'T',
     'U', 'V', 'W', 'X', 'Y', 'Z',
     'a', 'b', 'c', 'd', 'e', 'f', 'g', 'h', 'i', 'j', 'k', 'm', 'n', 'o', 'p', 'q', 'r', 's',
     't', 'u', 'v', 'w', 'x', 'y', 'z']

/-- The character of the digit zero. -/
def zeroSymbol : Char := alphabet[0]

/-- The character of a digit. Numerals hold digits below 58 only, so the other branch is not met. -/
def symbol (digit : UInt8) : Char :=
  if h : digit.toNat < 58 then alphabet[digit.toNat] else zeroSymbol

/-- The digit of each ASCII character that has one. -/
def digitTable : Vector (Option UInt8) 128 :=
  Vector.ofFn fun code => (alphabet.toList.idxOf? (Char.ofNat code)).map UInt8.ofNat

/-- The digit of a character, if it is in the alphabet. -/
def digit? (c : Char) : Option UInt8 :=
  if h : c.toNat < 128 then digitTable[c.toNat] else none

end CoinAddress.Base58
