import CoinAddress.Digest.Ripemd160
import CoinAddress.Digest.Sha256

/-!
# Composite digests

Addresses commit to a public key or script by `hash160`, and their text carries a `checksum` of four
bytes.
-/

namespace CoinAddress.Digest

/-- SHA-256 applied twice. -/
def doubleSha256 (message : Bytes) : Vector UInt8 32 :=
  sha256 (sha256 message).toList

/-- RIPEMD-160 of SHA-256. -/
def hash160 (message : Bytes) : Vector UInt8 20 :=
  ripemd160 (sha256 message).toList

/-- The first four bytes of `doubleSha256`. -/
def checksum (message : Bytes) : Vector UInt8 4 :=
  (doubleSha256 message).take 4

end CoinAddress.Digest
