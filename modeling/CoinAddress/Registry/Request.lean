import CoinAddress.Config.Basic
import CoinAddress.Registry.Resolution

/-!
# Requests to a registry

A request names one operation and its arguments. Performing it answers, and changes the registry and
writes to the journal as the operation does. A run performs requests one after another.
-/

namespace CoinAddress.Registry

/-- An operation of the registry with its arguments. -/
inductive Request where
  /-- Append a network. -/
  | register (network : Network)
  /-- Append the networks of a batch. -/
  | registerAll (batch : List Network)
  /-- Append the networks of a config. -/
  | registerConfig (config : Config)
  /-- Remove the first registered network with the id of the given one. -/
  | unregister (network : Network)
  /-- Remove the first registered network with an id. -/
  | unregisterId (id : String)
  /-- List the networks that accept a version. -/
  | findByVersion (version : UInt8)
  /-- Find the first network with an id. -/
  | findById (id : String)
  /-- List all networks. -/
  | networks
  /-- Count the networks. -/
  | size
  /-- Find the network of an address text. -/
  | resolve (text : String)
  /-- Find the address and the network of an address text. -/
  | resolveAddress (text : String)
deriving DecidableEq, Repr

/-- The answer to a request. -/
inductive Reply where
  /-- Whether something was appended or removed. -/
  | done (changed : Bool)
  /-- How many networks were appended. -/
  | appended (count : Nat)
  /-- The config has an invalid entry. -/
  | invalid (entry : Config.InvalidEntry)
  /-- The networks found. -/
  | found (networks : List Network)
  /-- The network found, if there is one. -/
  | lookedUp (network : Option Network)
  /-- The number of networks, and whether it is zero. -/
  | counted (size : Nat) (isEmpty : Bool)
  /-- The network of an address text. -/
  | resolved (outcome : Except Address.Error Network)
  /-- The address and the network of an address text. -/
  | resolvedAddress (outcome : Except Address.Error Resolution)

/-- Performs a request. -/
def perform (registry : Registry) : Request → Change Reply
  | .register network => (registry.register network).map .done
  | .registerAll batch => (registry.registerAll batch).map .appended
  | .registerConfig config =>
    (registry.registerConfig config).map fun
      | .ok count => .appended count
      | .error entry => .invalid entry
  | .unregister network => (registry.unregister network).map .done
  | .unregisterId id => (registry.unregisterId id).map .done
  | .findByVersion version => .unchanged registry (.found (registry.findByVersion version))
  | .findById id => .unchanged registry (.lookedUp (registry.findById? id))
  | .networks => .unchanged registry (.found registry.networks)
  | .size => .unchanged registry (.counted registry.size registry.isEmpty)
  | .resolve text => registry.resolving text fun outcome => .resolved (outcome.map (·.network))
  | .resolveAddress text => registry.resolving text .resolvedAddress

/-- Performs requests one after another. Answers the change that each of them made. -/
def run (registry : Registry) : List Request → List (Change Reply)
  | [] => []
  | request :: requests =>
    let change := registry.perform request
    change :: change.registry.run requests

end CoinAddress.Registry
