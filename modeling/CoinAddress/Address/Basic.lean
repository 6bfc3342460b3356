import CoinAddress.Network
import CoinAddress.Digest.Composite

/-!
# Addresses

An address is a version byte and a hash of twenty bytes. To which network it belongs is not part of
it. Addresses are ordered by version, then by the bytes of the hash.
-/

namespace CoinAddress

/-- A version and the hash that an output pays to. -/
structure Address where
  /-- Tells the networks and the kind of output. -/
  version : UInt8
  /-- The hash of a key or of a script. -/
  hash : Vector UInt8 20
deriving DecidableEq, Repr

namespace Address

/-- Why bytes do not make an address. -/
inductive BuildError where
  /-- The hash does not have twenty bytes. -/
  | hashLength (length : Nat)
  /-- A version and a hash have twenty-one bytes. -/
  | bytesLength (length : Nat)
  /-- The script does not pay to a script hash. -/
  | notScriptHash
deriving DecidableEq, Repr

/-- The text of the error. -/
def BuildError.message : BuildError → String
  | hashLength length => s!"invalid hash length: {length} bytes, expected 20"
  | bytesLength length => s!"invalid address bytes length: {length}, expected 21"
  | notScriptHash => "script is not a pay-to-script-hash output script"

/-- The bytes as a hash, if there are twenty of them. -/
def hash? (bytes : Bytes) : Option (Vector UInt8 20) :=
  if h : bytes.length = 20 then some ⟨bytes.toArray, h⟩ else none

/-- The address of a kind on a network, from the bytes of the hash. -/
def ofHash (network : Network) (bytes : Bytes) (kind : Kind) : Except BuildError Address :=
  match hash? bytes with
  | some hash => .ok ⟨network.version kind, hash⟩
  | none => .error (.hashLength bytes.length)

/-- The address that pays to a key hash. -/
def ofKeyHash (network : Network) (hash : Vector UInt8 20) : Address :=
  ⟨network.keyVersion, hash⟩

/-- The address that pays to a script hash. -/
def ofScriptHash (network : Network) (hash : Vector UInt8 20) : Address :=
  ⟨network.scriptVersion, hash⟩

/-- The address that pays to whoever can present the script. -/
def ofRedeemScript (network : Network) (script : Bytes) : Address :=
  ofScriptHash network (Digest.hash160 script)

/-- Whether the address pays to a script hash on a network. -/
def isScriptHash (address : Address) (network : Network) : Bool :=
  address.version = network.scriptVersion

/-- The version followed by the hash. -/
def toBytes (address : Address) : Bytes :=
  address.version :: address.hash.toList

/-- The address of a version followed by a hash. -/
def ofBytes (bytes : Bytes) : Except BuildError Address :=
  match bytes with
  | [] => .error (.bytesLength 0)
  | version :: rest =>
    match hash? rest with
    | some hash => .ok ⟨version, hash⟩
    | none => .error (.bytesLength bytes.length)

instance : Ord Address where
  compare a b :=
    (compare a.version b.version).then (List.compareLex compare a.hash.toList b.hash.toList)

/-- The addresses in ascending order. -/
def sort (addresses : List Address) : List Address :=
  addresses.mergeSort fun a b => (compare a b).isLE

/-- How many different addresses a list holds. -/
def countDistinct (addresses : List Address) : Nat :=
  addresses.eraseDups.length

end Address

end CoinAddress
