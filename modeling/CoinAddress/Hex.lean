import CoinAddress.Digest.Block
import CoinAddress.Text.Quoted

/-!
# Hexadecimal text

Bytes are written with two lower-case digits each and read with digits of either case. Reading works
on the UTF-8 bytes of a text, so lengths and positions count bytes.
-/

namespace CoinAddress.Hex

/-- The two digits of a byte. -/
def byteDigits (byte : UInt8) : List Char :=
  [Nat.digitChar (byte.toNat / 16), Nat.digitChar (byte.toNat % 16)]

/-- The two digits of a byte, as a text. -/
def byte (b : UInt8) : String :=
  String.ofList (byteDigits b)

/-- The digits of all bytes, without separators. -/
def encode (bytes : Bytes) : String :=
  String.ofList (bytes.flatMap byteDigits)

/-- The bytes between brackets, separated by commas. -/
def list (bytes : Bytes) : String :=
  "[" ++ ", ".intercalate (bytes.map byte) ++ "]"

/-- The value of a digit of either case. -/
def digit? (c : Char) : Option Nat :=
  if '0' ≤ c ∧ c ≤ '9' then some (c.toNat - '0'.toNat)
  else if 'a' ≤ c ∧ c ≤ 'f' then some (c.toNat - 'a'.toNat + 10)
  else if 'A' ≤ c ∧ c ≤ 'F' then some (c.toNat - 'A'.toNat + 10)
  else none

/-- Why a text does not spell bytes. -/
inductive Error where
  /-- The last byte has one digit only. -/
  | oddLength
  /-- The byte at this position is no digit. -/
  | strayByte (byte : UInt8) (position : Nat)
deriving DecidableEq, Repr

/-- The text of the error. A stray byte is shown as the character that has its code. -/
def Error.message : Error → String
  | oddLength => "Odd number of digits"
  | strayByte byte position =>
    s!"Invalid character {Text.quotedChar (Char.ofUInt8 byte)} at position {position}"

/-- The UTF-8 bytes of a text. -/
def utf8 (text : String) : Bytes :=
  text.toList.flatMap String.utf8EncodeChar

/-- The value of the digit at a position. -/
def digitAt (position : Nat) (byte : UInt8) : Except Error Nat :=
  match digit? (Char.ofUInt8 byte) with
  | some value => .ok value
  | none => .error (.strayByte byte position)

/-- Reads pairs of digits, the first of which stands at the given position. -/
def decodePairs (position : Nat) : Bytes → Except Error Bytes
  | high :: low :: rest => do
    let h ← digitAt position high
    let l ← digitAt (position + 1) low
    let bytes ← decodePairs (position + 2) rest
    return UInt8.ofNat (16 * h + l) :: bytes
  | _ => .ok []

/-- The bytes that a text spells. An odd number of digits is reported before a stray byte. -/
def decode (text : String) : Except Error Bytes :=
  let digits := utf8 text
  if digits.length % 2 = 0 then decodePairs 0 digits else .error .oddLength

end CoinAddress.Hex
