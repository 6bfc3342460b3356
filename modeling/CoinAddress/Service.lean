import CoinAddress.Address.Json
import CoinAddress.Config.Json
import CoinAddress.Registry.Request

/-!
# The address service

The service answers requests made of texts and ids against one registry. Networks are named by their
ids and hashes are hexadecimal, and an address is described by an `AddressInfo`.
-/

namespace CoinAddress

/-- What the service tells of an address. -/
structure AddressInfo where
  /-- The text of the address. -/
  address : String
  /-- The version of the address. -/
  version : UInt8
  /-- The hash of the address in hexadecimal. -/
  hash : String
  /-- The id of the network against which the address was read. -/
  network : Option String
  /-- Whether the address pays to a script hash on that network. -/
  isScriptHash : Bool
deriving DecidableEq, Repr

/-- What the service tells of an address that was read against a network, or against none. -/
def AddressInfo.ofAddress (address : Address) (network : Option Network) : AddressInfo where
  address := address.toText
  version := address.version
  hash := Hex.encode address.hash.toList
  network := network.map (·.id)
  isScriptHash := network.any address.isScriptHash

namespace Service

/-- The version of the service. -/
def version : String := "0.1.0"

/-- Why the service cannot answer. -/
inductive Error where
  /-- No network has the id. -/
  | unknownNetwork (id : String)
  /-- The hash is not hexadecimal. -/
  | hashText (error : Hex.Error)
  /-- The hash does not make an address. -/
  | hash (error : Address.BuildError)
  /-- The text is not an address of the expected network or of any. -/
  | address (error : Address.Error)
  /-- The document defines no networks. -/
  | config (error : Config.Error)
deriving DecidableEq, Repr

/-- The text of the error. -/
def Error.message : Error → String
  | unknownNetwork id => s!"Unknown network: {id}"
  | hashText error => s!"Invalid hash hex: {error.message}"
  | hash error => s!"Invalid hash: {error.message}"
  | address error => s!"Invalid address: {error.message}"
  | config error => error.message

/-- The first network with an id. -/
def lookUp (registry : Registry) (id : String) : Except Error Network :=
  match registry.findById? id with
  | some network => .ok network
  | none => .error (.unknownNetwork id)

/-- The text of the address of a kind that a network gives to a hash. -/
def encodeAddress (registry : Registry) (id hash : String) (kind : Kind) : Except Error String := do
  let network ← lookUp registry id
  let bytes ← (Hex.decode hash).mapError .hashText
  let address ← (Address.ofHash network bytes kind).mapError .hash
  return address.toText

/-- Reads an address text, which the network with the given id, if any, has to accept. -/
def decodeAddress (registry : Registry) (text : String) (id : Option String) :
    Except Error AddressInfo := do
  let network ← id.mapM (lookUp registry)
  let address ← (Address.parse network text).mapError .address
  return .ofAddress address network

/-- What the service tells of a resolution. -/
def describe (resolution : Resolution) : AddressInfo :=
  .ofAddress resolution.address (some resolution.network)

/-- Reads an address text against the network to which it resolves. -/
def resolveAddress (registry : Registry) (text : String) :
    Registry.Change (Except Error AddressInfo) :=
  registry.resolving text fun outcome => (outcome.map describe).mapError .address

/-- The id of the network to which an address text resolves. -/
def resolveNetwork (registry : Registry) (text : String) :
    Registry.Change (Except Error String) :=
  registry.resolving text fun outcome => (outcome.map (·.network.id)).mapError .address

/-- The network to which an address text resolves, with all its versions. -/
def resolve (registry : Registry) (text : String) :
    Registry.Change (Except Address.Error Network) :=
  registry.resolving text fun outcome => outcome.map (·.network)

/-- Registers the networks of a config document and answers how many were appended. -/
def registerNetworks (registry : Registry) (document : String) :
    Registry.Change (Except Error UInt32) :=
  match Config.ofJson document with
  | .error error => .unchanged registry (.error (.config error))
  | .ok config =>
    (registry.registerConfig config).map fun
      | .ok count => .ok count.toUInt32
      | .error entry => .error (.config (.entry entry))

/-- Removes the first registered network with an id, and answers whether there was one. -/
def unregisterNetwork (registry : Registry) (id : String) : Registry.Change Bool :=
  registry.unregisterId id

end Service

end CoinAddress
