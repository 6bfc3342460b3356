import CoinAddress.Proofs.Address.Canonical
import CoinAddress.Proofs.Registry.Run

/-!
# Resolution of address texts

A text that is an address resolves to the first network, in search order, that accepts its version
(`resolve_of_find?`). As the built-in networks come first in every registry, no run takes their
addresses or their ids away from them (`builtins_after`).
-/

namespace CoinAddress.Registry

variable {registry : Registry} {address : Address} {network : Network}

/-- The first network that accepts a version heads the list of those that do. -/
lemma findByVersion_of_find? {version : UInt8}
    (found : registry.networks.find? (·.accepts version) = some network) :
    ∃ shadowed, registry.findByVersion version = network :: shadowed := by
  rw [← List.head?_filter] at found
  exact List.head?_eq_some_iff.mp found

/-- A text that is an address resolves to the head of the networks that accept its version. -/
lemma resolveAddress_eq_ok {text : String} {shadowed : List Network}
    (read : Address.parse none text = .ok address)
    (accepting : registry.findByVersion address.version = network :: shadowed) :
    registry.resolveAddress text = .ok { address, network, shadowed } := by
  apply Outcome.bind_eq_ok_iff.mpr
  refine ⟨address, read, ?_⟩
  rw [accepting]
  rfl

/-- A text that is an address resolves to the first network that accepts its version. -/
lemma resolve_of_find? {text : String} (read : Address.parse none text = .ok address)
    (found : registry.networks.find? (·.accepts address.version) = some network) :
    registry.resolve text = .ok network := by
  obtain ⟨shadowed, accepting⟩ := findByVersion_of_find? found
  rw [resolve, resolveAddress_eq_ok read accepting]
  rfl

/-- The main network comes first, the test network second, and then those that were registered. -/
lemma networks_eq_cons (registry : Registry) :
    registry.networks = .mainnet :: .testnet :: registry.registered :=
  rfl

/-- A version of the main network is accepted by it first. -/
lemma find?_mainnet {version : UInt8} (accepts : version ∈ Network.mainnet.acceptable) :
    registry.networks.find? (·.accepts version) = some .mainnet := by
  rw [networks_eq_cons, List.find?_cons, Network.accepts_iff.mpr accepts]

/-- A version of the test network that the main network does not accept is accepted by it first. -/
lemma find?_testnet {version : UInt8} (refuses : version ∉ Network.mainnet.acceptable)
    (accepts : version ∈ Network.testnet.acceptable) :
    registry.networks.find? (·.accepts version) = some .testnet := by
  have passed : Network.mainnet.accepts version = false :=
    Bool.eq_false_iff.mpr (refuses ∘ Network.accepts_iff.mp)
  rw [networks_eq_cons, List.find?_cons, passed, List.find?_cons, Network.accepts_iff.mpr accepts]

/-- After every run the addresses of the built-in networks resolve to them, and their ids are found
as theirs. -/
theorem builtins_after (operations : List Operation) :
    let registry := initial.after operations
    (∀ address : Address, address.version = 0x23 ∨ address.version = 0x08 →
      registry.resolve address.toText = .ok .mainnet) ∧
    (∀ address : Address, address.version = 0x73 ∨ address.version = 0xc6 →
      registry.resolve address.toText = .ok .testnet) ∧
    registry.findById? "org.floj.production" = some .mainnet ∧
    registry.findById? "org.floj.test" = some .testnet := by
  intro registry
  refine ⟨?_, ?_, rfl, rfl⟩
  · intro address version
    have accepts : address.version ∈ Network.mainnet.acceptable := by
      rcases version with eq | eq <;> rw [eq] <;> decide
    exact resolve_of_find? address.parse_toText (find?_mainnet accepts)
  · intro address version
    have accepts : address.version ∈ Network.testnet.acceptable := by
      rcases version with eq | eq <;> rw [eq] <;> decide
    have refuses : address.version ∉ Network.mainnet.acceptable := by
      rcases version with eq | eq <;> rw [eq] <;> decide
    exact resolve_of_find? address.parse_toText (find?_testnet refuses accepts)

/-- A run that removes the test network and registers others under its id and for its versions. -/
def usurping : List Operation :=
  [.perform (.unregister .testnet), .perform (.register (.ofVersions "org.floj.test" 0x23 0x73)),
    .perform (.registerAll [.ofVersions "alt" 0x73 0xc6, .ofVersions "alt" 0x08 0x23]),
    .unregisterNetwork "org.floj.test"]

/-- After the usurping run an address of the test network still resolves to it. -/
theorem builtins_after_usurping :
    let address : Address := ⟨0xc6, Vector.replicate 20 0⟩
    address.version = 0xc6 ∧
      (initial.after usurping).resolve address.toText = .ok .testnet := by
  intro address
  exact ⟨rfl, (builtins_after usurping).2.1 address (.inr rfl)⟩

end CoinAddress.Registry
