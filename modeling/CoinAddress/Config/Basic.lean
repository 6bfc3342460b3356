import CoinAddress.Registry.Basic

/-!
# Network configs

A config lists networks to register. An entry may leave the acceptable versions open, and then its
two versions are the acceptable ones. A config defines its networks only if every entry is valid.
-/

namespace CoinAddress

/-- A network as a config describes it, valid or not. -/
structure Config.Entry where
  /-- The name of the network. -/
  id : String
  /-- The version of addresses that pay to a key hash. -/
  keyVersion : UInt8
  /-- The version of addresses that pay to a script hash. -/
  scriptVersion : UInt8
  /-- The acceptable versions, unless they are the other two. -/
  acceptable : Option (List UInt8)
deriving DecidableEq, Repr

/-- A list of networks to register. -/
structure Config where
  /-- The entries in the order of the document. -/
  entries : List Config.Entry
deriving DecidableEq, Repr

namespace Config

/-- An entry that defines no network. -/
structure InvalidEntry where
  /-- The id of the entry. -/
  id : String
  /-- What is wrong with its list of versions. -/
  cause : Network.Error
deriving DecidableEq, Repr

/-- The text of the error. -/
def InvalidEntry.message (invalid : InvalidEntry) : String :=
  s!"invalid network {invalid.id}: {invalid.cause.message}"

/-- The network that an entry defines. -/
def Entry.network (entry : Entry) : Except InvalidEntry Network :=
  match entry.acceptable with
  | none => .ok (.ofVersions entry.id entry.keyVersion entry.scriptVersion)
  | some versions =>
    (Network.ofAcceptable entry.id entry.keyVersion entry.scriptVersion versions).mapError
      (⟨entry.id, ·⟩)

/-- The entry that defines a network. -/
def Entry.ofNetwork (network : Network) : Entry where
  id := network.id
  keyVersion := network.keyVersion
  scriptVersion := network.scriptVersion
  acceptable := some network.acceptable

/-- The networks of all entries in order, or the first invalid entry. -/
def networks (config : Config) : Except InvalidEntry (List Network) :=
  config.entries.mapM Entry.network

/-- The config that defines the networks. -/
def ofNetworks (networks : List Network) : Config where
  entries := networks.map Entry.ofNetwork

end Config

namespace Registry

/-- Registers all networks of a config and answers how many were appended. An invalid entry anywhere
leaves the registry and the journal as they are. -/
def registerConfig (registry : Registry) (config : Config) :
    Change (Except Config.InvalidEntry Nat) :=
  match config.networks with
  | .error invalid => .unchanged registry (.error invalid)
  | .ok networks =>
    let change := registry.registerAll networks
    { answer := .ok change.answer
      registry := change.registry
      journal := change.journal ++ [.configRegistered change.answer] }

end Registry

end CoinAddress
