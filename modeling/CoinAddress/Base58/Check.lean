import CoinAddress.Base58.Basic
import CoinAddress.Digest.Composite

/-!
# Base58Check text

A version byte and a payload, followed by the checksum of both, written in Base58.
-/

namespace CoinAddress.Base58

/-- A version byte and the bytes that it labels. -/
structure Versioned where
  /-- What the payload is for. -/
  version : UInt8
  /-- The labelled bytes. -/
  payload : Bytes
deriving DecidableEq, Repr

/-- The bytes that the checksum covers. -/
def Versioned.body (v : Versioned) : Bytes :=
  v.version :: v.payload

/-- The text of a version and a payload. -/
def encodeCheck (v : Versioned) : String :=
  encode (v.body ++ (Digest.checksum v.body).toList)

/-- Takes the checksum off the end of a byte string and tests it. -/
def splitCheck (bytes : Bytes) : Except Error Versioned :=
  let body := bytes.take (bytes.length - 4)
  match body, bytes.drop (bytes.length - 4) with
  | version :: payload, [a, b, c, d] =>
    let expected := Digest.checksum body
    let found := #v[a, b, c, d]
    if found = expected then .ok ⟨version, payload⟩ else .error (.checksumMismatch expected found)
  | _, _ => .error (.tooShort bytes.length)

/-- The version and the payload of a text. -/
def decodeCheck (text : String) : Except Error Versioned :=
  decode text >>= splitCheck

end CoinAddress.Base58
