import CoinAddress.Address.Text
import CoinAddress.Json.Reader

/-!
# Addresses as JSON

An address is a string that holds its text.
-/

namespace CoinAddress.Address

/-- Why a document is not an address. -/
inductive JsonError where
  /-- The document is not a string. -/
  | document (fault : Json.Fault)
  /-- The string is not an address. -/
  | text (error : Error)
deriving DecidableEq, Repr

/-- The text of the error. -/
def JsonError.message : JsonError → String
  | document fault => fault.message
  | text error => error.message

/-- The document of an address. -/
def toJson (address : Address) : String :=
  String.ofList (Json.quote address.toText)

/-- The address of a document. The string is read as an address before the document has to end. -/
def ofJson (document : String) : Except JsonError Address := do
  let (text, rest) ← (Json.Reader.string.run document.toList).mapError .document
  let address ← (parse none text).mapError .text
  if (Json.skipBlanks rest).isEmpty then return address
  else throw (.document .trailingCharacters)

end CoinAddress.Address
