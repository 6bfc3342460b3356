import CoinAddress.Address.Text
import CoinAddress.Registry.Basic

/-!
# Resolution

An address text is resolved to the first network, in search order, that accepts its version. The
other networks that accept it are shadowed, and the journal tells of them.
-/

namespace CoinAddress

/-- The outcome of resolving an address text. -/
structure Resolution where
  /-- The address that the text spells. -/
  address : Address
  /-- The first network that accepts the version. -/
  network : Network
  /-- The other networks that accept the version, in search order. -/
  shadowed : List Network
deriving DecidableEq, Repr

/-- The records of a resolution: one if networks are shadowed, and else none. -/
def Resolution.journal (resolution : Resolution) : List Registry.Record :=
  match resolution.shadowed with
  | [] => []
  | others =>
    [.shadowed resolution.address.version resolution.network.id (others.map (·.id))]

namespace Registry

/-- Resolves an address text. The text is read before the registry is searched. -/
def resolveAddress (registry : Registry) (text : String) : Except Address.Error Resolution := do
  let address ← Address.parse none text
  match registry.findByVersion address.version with
  | [] => throw (.malformed (.unknownVersion address.version))
  | network :: shadowed => return { address, network, shadowed }

/-- The network of an address text. -/
def resolve (registry : Registry) (text : String) : Except Address.Error Network :=
  (registry.resolveAddress text).map (·.network)

/-- Resolves an address text and writes what that took to the journal. -/
def resolving {α : Type} (registry : Registry) (text : String)
    (answer : Except Address.Error Resolution → α) : Change α :=
  let outcome := registry.resolveAddress text
  let journal := match outcome with
    | .ok resolution => resolution.journal
    | .error _ => []
  ⟨answer outcome, registry, journal⟩

end Registry

end CoinAddress
