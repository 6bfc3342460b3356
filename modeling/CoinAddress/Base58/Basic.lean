import CoinAddress.Base58.Alphabet
import CoinAddress.Hex

/-!
# Base58 text

A byte string is read as a big-endian number and written in radix 58. The number does not tell how
many zero bytes lead, so each of them is written as one leading zero symbol and restored on reading.
-/

namespace CoinAddress.Base58

/-- From bytes to digits of the alphabet. -/
def fromBytes : Conversion where
  source := 256
  target := 58

/-- From digits of the alphabet to bytes. -/
def toBytes : Conversion where
  source := 58
  target := 256

/-- Why a text is refused. -/
inductive Error where
  /-- The character at this position is not in the alphabet. -/
  | strayCharacter (c : Char) (position : Nat)
  /-- There are fewer bytes than a version and a checksum need. -/
  | tooShort (length : Nat)
  /-- The last four bytes are not the checksum of the others. -/
  | checksumMismatch (expected found : Vector UInt8 4)
deriving DecidableEq, Repr

/-- The text of the error. -/
def Error.message : Error → String
  | strayCharacter c position =>
    s!"invalid base58 character {Text.quotedChar c} at position {position}"
  | tooShort length => s!"decoded data too short: {length} bytes, need at least 5"
  | checksumMismatch expected found =>
    s!"checksum mismatch: expected {Hex.list expected.toList}, found {Hex.list found.toList}"

/-- The text of a byte string. -/
def encode (bytes : Bytes) : String :=
  let zeros := bytes.takeWhile (· = 0)
  let rest := bytes.dropWhile (· = 0)
  String.ofList
    (zeros.map (fun _ => zeroSymbol) ++ (fromBytes.convert rest).reverse.map symbol)

/-- The digits of the characters, the first of which has the given position. -/
def readDigits (position : Nat) : List Char → Except Error (List UInt8)
  | [] => .ok []
  | c :: cs =>
    match digit? c with
    | none => .error (.strayCharacter c position)
    | some digit => (readDigits (position + 1) cs).map (digit :: ·)

/-- The byte string of a text. The first character outside the alphabet is reported. -/
def decode (text : String) : Except Error Bytes := do
  let digits ← readDigits 0 text.toList
  let zeros := digits.takeWhile (· = 0)
  let rest := digits.dropWhile (· = 0)
  return zeros ++ (toBytes.convert rest).reverse

end CoinAddress.Base58
