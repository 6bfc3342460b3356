import CoinAddress.Address.Basic
import CoinAddress.Base58.Check

/-!
# Address text

The text of an address is the Base58Check text of its version and hash. A text is refused by its
length before anything else, so long input is never converted.
-/

namespace CoinAddress.Address

/-- Why a text is not an address of any network. -/
inductive Malformed where
  /-- The text is not Base58Check. -/
  | text (error : Base58.Error)
  /-- The payload is not a hash. -/
  | payloadLength (length : Nat)
  /-- The text is longer than that of any address. -/
  | tooLong (length : Nat)
  /-- No network accepts the version. -/
  | unknownVersion (version : UInt8)
deriving DecidableEq, Repr

/-- The text of the reason. -/
def Malformed.message : Malformed → String
  | text error => error.message
  | payloadLength length => s!"payload is {length} bytes, expected 20"
  | tooLong length => s!"address text is {length} characters, at most 35 allowed"
  | unknownVersion version => s!"no registered network accepts version 0x{Hex.byte version}"

/-- Why a text is refused. -/
inductive Error where
  /-- The text is not an address of any network. -/
  | malformed (reason : Malformed)
  /-- The text is an address, and the expected network does not accept its version. -/
  | wrongNetwork (version : UInt8) (acceptable : List UInt8)
deriving DecidableEq, Repr

/-- The text of the error. -/
def Error.message : Error → String
  | malformed reason => s!"malformed address: {reason.message}"
  | wrongNetwork version acceptable =>
    s!"wrong network: version 0x{Hex.byte version} is not one of {Hex.list acceptable}"

/-- The greatest length of the text of an address. -/
def maxTextLength : Nat := 35

/-- The text of an address. -/
def toText (address : Address) : String :=
  Base58.encodeCheck ⟨address.version, address.hash.toList⟩

/-- The address of a text of any length. -/
def decodeText (text : String) : Except Malformed Address :=
  match Base58.decodeCheck text with
  | .error error => .error (.text error)
  | .ok decoded =>
    match hash? decoded.payload with
    | some hash => .ok ⟨decoded.version, hash⟩
    | none => .error (.payloadLength decoded.payload.length)

/-- The address of a text. The length is that of the UTF-8 form. -/
def ofText (text : String) : Except Malformed Address :=
  if text.utf8ByteSize > maxTextLength then .error (.tooLong text.utf8ByteSize)
  else decodeText text

/-- The address of a text, which the expected network, if any, has to accept. -/
def parse (expected : Option Network) (text : String) : Except Error Address := do
  let address ← (ofText text).mapError .malformed
  match expected with
  | none => return address
  | some network =>
    if network.accepts address.version then return address
    else throw (.wrongNetwork address.version network.acceptable)

end CoinAddress.Address
