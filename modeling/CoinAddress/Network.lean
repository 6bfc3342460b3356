import CoinAddress.Hex

/-!
# Networks

A network is known by its id and owns address versions: one for key hashes, one for script hashes,
and a list of all versions that it accepts. Two definitions with one id are definitions of the same
network, whatever their versions, and different networks may accept the same version.
-/

namespace CoinAddress

/-- What an address pays to. -/
inductive Kind where
  /-- The hash of a public key. -/
  | keyHash
  /-- The hash of a script. -/
  | scriptHash
deriving DecidableEq, Repr

/-- The definition of a network. -/
structure Network where
  /-- The name that identifies the network. -/
  id : String
  /-- The version of addresses that pay to a key hash. -/
  keyVersion : UInt8
  /-- The version of addresses that pay to a script hash. -/
  scriptVersion : UInt8
  /-- All versions that the network takes for its own, in the order of their declaration. -/
  acceptable : List UInt8
deriving DecidableEq, Repr

namespace Network

/-- Why a list of acceptable versions is refused. -/
inductive Error where
  /-- The list is empty. -/
  | noVersion
  /-- The version occurs a second time. -/
  | repeatedVersion (version : UInt8)
deriving DecidableEq, Repr

/-- The text of the error. -/
def Error.message : Error → String
  | noVersion => "acceptable version list is empty"
  | repeatedVersion version => s!"version 0x{Hex.byte version} listed more than once"

/-- The main network. -/
def mainnet : Network where
  id := "org.floj.production"
  keyVersion := 0x23
  scriptVersion := 0x08
  acceptable := [0x23, 0x08]

/-- The test network. -/
def testnet : Network where
  id := "org.floj.test"
  keyVersion := 0x73
  scriptVersion := 0xc6
  acceptable := [0x73, 0xc6]

/-- The networks that are known without registration. -/
def builtins : List Network := [mainnet, testnet]

/-- The network that accepts its two versions and no other. -/
def ofVersions (id : String) (keyVersion scriptVersion : UInt8) : Network where
  id := id
  keyVersion := keyVersion
  scriptVersion := scriptVersion
  acceptable :=
    if keyVersion = scriptVersion then [keyVersion] else [keyVersion, scriptVersion]

/-- The first element that occurs among the elements before it or among `seen`. -/
def firstRepeated? (seen : List UInt8) : List UInt8 → Option UInt8
  | [] => none
  | version :: rest =>
    if version ∈ seen then some version else firstRepeated? (version :: seen) rest

/-- The network that accepts the listed versions, which need not include its own two. -/
def ofAcceptable (id : String) (keyVersion scriptVersion : UInt8) (acceptable : List UInt8) :
    Except Error Network :=
  match acceptable, firstRepeated? [] acceptable with
  | [], _ => .error .noVersion
  | _, some version => .error (.repeatedVersion version)
  | _, none => .ok { id, keyVersion, scriptVersion, acceptable }

/-- The version of addresses of a kind. -/
def version (network : Network) : Kind → UInt8
  | .keyHash => network.keyVersion
  | .scriptHash => network.scriptVersion

/-- Whether a version is one of the acceptable ones. -/
def accepts (network : Network) (version : UInt8) : Bool :=
  version ∈ network.acceptable

/-- Whether a network with this id is known without registration. -/
def isBuiltinId (id : String) : Bool :=
  builtins.any (·.id = id)

/-- Whether the network has the id of the main or of the test network. -/
def isBuiltin (network : Network) : Bool :=
  network.id = mainnet.id || network.id = testnet.id

/-- Whether two definitions are of the same network. -/
def isSame (a b : Network) : Bool :=
  a.id = b.id

/-- How many different networks a list defines. -/
def countDistinct (networks : List Network) : Nat :=
  (networks.map (·.id)).eraseDups.length

end Network

end CoinAddress
