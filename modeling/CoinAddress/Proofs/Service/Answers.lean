import CoinAddress.Proofs.Hex
import CoinAddress.Proofs.Registry.Namesakes

/-!
# Answers of the service

The service names networks by ids and hashes by hexadecimal text. When it answers, and what, is
stated here once for every request that is about addresses, in terms of the address behind the text:
a network and a hash are encoded (`encodeAddress_eq_ok_iff`), a text is decoded
(`decodeAddress_eq_ok_iff`) or resolved (`resolveAddress_eq_ok_iff`).
-/

namespace CoinAddress

namespace Service

section
variable {registry : Registry} {id hash text : String} {network : Network} {info : AddressInfo}

/-- An id is looked up by the search by id. -/
lemma lookUp_eq_ok_iff : lookUp registry id = .ok network ↔ registry.findById? id = some network := by
  rw [lookUp]
  cases registry.findById? id <;> simp

/-- An expected id is looked up as the network that it leads to. -/
lemma mapM_lookUp_eq_ok_iff {expected : Option Network} :
    (some id).mapM (lookUp registry) = .ok expected
      ↔ ∃ network, registry.findById? id = some network ∧ some network = expected := by
  rw [Option.mapM_some]
  show (lookUp registry id).map some = .ok expected ↔ _
  rw [Outcome.map_eq_ok_iff]
  simp only [lookUp_eq_ok_iff]

/-- The service encodes a hash in hexadecimal digits as an address of a network that it knows. -/
theorem encodeAddress_eq_ok_iff {kind : Kind} :
    encodeAddress registry id hash kind = .ok text
      ↔ ∃ network, ∃ address : Address, registry.findById? id = some network ∧
          Hex.encode address.hash.toList = hash.toLower ∧
          address.version = network.version kind ∧ address.toText = text := by
  rw [encodeAddress, Outcome.bind_eq_ok_iff]
  constructor
  · rintro ⟨network, found, rest⟩
    obtain ⟨bytes, read, rest⟩ := Outcome.bind_eq_ok_iff.mp rest
    obtain ⟨address, made, written⟩ := Outcome.bind_eq_ok_iff.mp rest
    rw [Outcome.mapError_eq_ok_iff] at read made
    obtain ⟨same, version⟩ := Address.ofHash_eq_ok_iff.mp made
    have spelled : Hex.encode address.hash.toList = hash.toLower :=
      same ▸ Hex.decode_eq_ok_iff.mp read
    exact ⟨network, address, lookUp_eq_ok_iff.mp found, spelled, version, Except.ok.inj written⟩
  · rintro ⟨network, address, found, spelled, version, rfl⟩
    refine ⟨network, lookUp_eq_ok_iff.mpr found, ?_⟩
    have read := Hex.decode_eq_ok_iff.mpr spelled
    have made := Address.ofHash_eq_ok_iff.mpr ⟨rfl, version⟩
    rw [read, Outcome.bind_eq_ok_iff]
    refine ⟨_, rfl, ?_⟩
    rw [made]
    rfl

/-- The service decodes a text that is an address of the expected network, or of any. -/
theorem decodeAddress_eq_ok_iff {expected : Option String} :
    decodeAddress registry text expected = .ok info
      ↔ ∃ network address, expected.mapM (lookUp registry) = .ok network ∧
          Address.parse network text = .ok address ∧ .ofAddress address network = info := by
  rw [decodeAddress, Outcome.bind_eq_ok_iff]
  constructor
  · rintro ⟨network, found, eq⟩
    obtain ⟨address, read, eq⟩ := Outcome.bind_eq_ok_iff.mp eq
    exact ⟨network, address, found, Outcome.mapError_eq_ok_iff.mp read, Except.ok.inj eq⟩
  · rintro ⟨network, address, found, read, rfl⟩
    refine ⟨network, found, ?_⟩
    rw [read]
    rfl

/-- The service tells of the address and the network that a text resolves to. -/
theorem resolveAddress_eq_ok_iff :
    (resolveAddress registry text).answer = .ok info
      ↔ ∃ resolution, registry.resolveAddress text = .ok resolution ∧ describe resolution = info := by
  show ((registry.resolveAddress text).map describe).mapError Error.address = .ok info ↔ _
  rw [Outcome.mapError_eq_ok_iff, Outcome.map_eq_ok_iff]

/-- The text of an address resolves to the first network that accepts its version. -/
lemma resolveAddress_toText {address : Address}
    (search : registry.networks.find? (·.accepts address.version) = some network) :
    (resolveAddress registry address.toText).answer = .ok (.ofAddress address (some network)) := by
  obtain ⟨shadowed, eq⟩ := Registry.resolveAddress_of_find? address.parse_toText search
  exact resolveAddress_eq_ok_iff.mpr ⟨_, eq, rfl⟩

/-- A known network decodes the text of an address if it accepts the version, and else complains of
the version. -/
lemma decodeAddress_toText (found : registry.findById? id = some network) (address : Address) :
    decodeAddress registry address.toText (some id) =
      if network.accepts address.version then .ok (.ofAddress address (some network))
      else .error (.address (.wrongNetwork address.version network.acceptable)) := by
  have known : (some id).mapM (lookUp registry) = .ok (some network) :=
    mapM_lookUp_eq_ok_iff.mpr ⟨network, found, rfl⟩
  rw [decodeAddress, known]
  show (Address.parse (some network) address.toText).mapError Error.address >>= _ = _
  rw [Address.parse_some, Address.parse_toText]
  show (if network.accepts address.version then Except.ok address
    else .error (.wrongNetwork address.version network.acceptable)).mapError Error.address >>= _ = _
  split <;> rfl

end

end Service

end CoinAddress
