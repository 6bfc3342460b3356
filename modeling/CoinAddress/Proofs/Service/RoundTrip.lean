import CoinAddress.Proofs.Service.Answers

/-!
# Encoding and decoding through the service

What the service encodes it decodes again, as long as the network accepts the version that it gives
to the kind of address (`decodeAddress_of_encodeAddress`). The other way round, an address is told
by its hash and its kind. As a network may accept further versions, which it never gives, encoding
that hash again leads back to the text only for the two versions that the network gives
(`encodeAddress_of_decodeAddress`).
-/

namespace CoinAddress

/-- The kind of the address. -/
def AddressInfo.kind (info : AddressInfo) : Kind :=
  if info.isScriptHash then .scriptHash else .keyHash

namespace Service

section
variable {registry : Registry} {id text : String} {network : Network}

/-- The service encodes the hash of every address again. -/
lemma encodeAddress_encode (found : registry.findById? id = some network) (hash : Vector UInt8 20)
    (kind : Kind) :
    encodeAddress registry id (Hex.encode hash.toList) kind
      = .ok (Address.toText ⟨network.version kind, hash⟩) := by
  apply encodeAddress_eq_ok_iff.mpr
  exact ⟨network, ⟨network.version kind, hash⟩, found, (Hex.toLower_encode _).symm, rfl, rfl⟩

/-- The hash that the service tells has forty digits. -/
lemma spelled_hash (address : Address) :
    (Hex.encode address.hash.toList).length = 40 ∧
      ∀ c ∈ (Hex.encode address.hash.toList).toList, c ∈ Hex.lowerDigits := by
  refine ⟨?_, Hex.mem_lowerDigits_of_mem_encode _⟩
  rw [Hex.length_encode, Vector.length_toList]

/-- The text that the service tells is the one that it has read. -/
lemma address_of_decodeAddress {expected : Option String} {info : AddressInfo}
    (decoded : decodeAddress registry text expected = .ok info) : info.address = text := by
  obtain ⟨network, address, _, read, rfl⟩ := decodeAddress_eq_ok_iff.mp decoded
  exact Address.toText_of_parse read

/-- The answer to a resolution has the text that was asked for. -/
lemma address_of_resolveAddress {info : AddressInfo}
    (resolved : (resolveAddress registry text).answer = .ok info) : info.address = text := by
  obtain ⟨resolution, eq, rfl⟩ := resolveAddress_eq_ok_iff.mp resolved
  exact Address.toText_of_parse (Registry.split_of_resolveAddress eq).1

end

/-- The version of a kind is that of script hashes for this kind, and for the other one too if the
network has one version for both. -/
lemma version_eq_scriptVersion_iff {network : Network} {kind : Kind} :
    network.version kind = network.scriptVersion
      ↔ kind = .scriptHash ∨ network.keyVersion = network.scriptVersion := by
  cases kind <;> simp [Network.version]

/-- The version that a network gives to the kind that it takes an address for. -/
lemma version_kind_ofAddress (address : Address) (network : Network) :
    network.version (AddressInfo.ofAddress address (some network)).kind
      = if address.version = network.scriptVersion then network.scriptVersion
        else network.keyVersion := by
  have kind : (AddressInfo.ofAddress address (some network)).kind
      = if address.version = network.scriptVersion then .scriptHash else .keyHash := by
    simp [AddressInfo.kind, AddressInfo.ofAddress, Address.isScriptHash]
  rw [kind]
  split <;> rfl

/-- The service encodes exactly what is forty hexadecimal digits, for a network that it knows. Any
text that it gives is an address, and the network decodes it as the hash and the kind that were
encoded, unless it refuses the version that it gives to the kind. -/
theorem decodeAddress_of_encodeAddress (registry : Registry) (id hash : String) (kind : Kind) :
    ((∃ text, encodeAddress registry id hash kind = .ok text)
      ↔ (∃ network, registry.findById? id = some network) ∧
        hash.length = 40 ∧ ∀ c ∈ hash.toList, c ∈ Hex.digits) ∧
    ∀ text, encodeAddress registry id hash kind = .ok text →
      ∃ network, registry.findById? id = some network ∧
        decodeAddress registry text none = .ok
          { address := text
            version := network.version kind
            hash := hash.toLower
            network := none
            isScriptHash := false } ∧
        decodeAddress registry text (some id) =
          if network.accepts (network.version kind) then .ok
            { address := text
              version := network.version kind
              hash := hash.toLower
              network := some id
              isScriptHash := kind = .scriptHash ∨ network.keyVersion = network.scriptVersion }
          else .error (.address (.wrongNetwork (network.version kind) network.acceptable)) := by
  refine ⟨?_, ?_⟩
  · have spelled : (∃ bytes, Hex.decode hash = .ok bytes ∧ bytes.length = 20)
        ↔ hash.length = 40 ∧ ∀ c ∈ hash.toList, c ∈ Hex.digits := Hex.exists_decode_iff
    rw [← spelled]
    constructor
    · rintro ⟨text, eq⟩
      obtain ⟨network, address, found, eq, _⟩ := encodeAddress_eq_ok_iff.mp eq
      exact ⟨⟨network, found⟩, address.hash.toList, Hex.decode_eq_ok_iff.mpr eq,
        Vector.length_toList⟩
    · rintro ⟨⟨network, found⟩, bytes, read, length⟩
      refine ⟨_, encodeAddress_eq_ok_iff.mpr
        ⟨network, ⟨network.version kind, ⟨bytes.toArray, length⟩⟩, found, ?_, rfl, rfl⟩⟩
      exact Hex.decode_eq_ok_iff.mp read
  · intro text eq
    obtain ⟨network, address, found, spelled, version, rfl⟩ := encodeAddress_eq_ok_iff.mp eq
    refine ⟨network, found, ?_, ?_⟩
    · apply decodeAddress_eq_ok_iff.mpr
      refine ⟨none, address, rfl, address.parse_toText, ?_⟩
      rw [AddressInfo.ofAddress, spelled, version]
      rfl
    · have script : address.isScriptHash network
          = decide (kind = .scriptHash ∨ network.keyVersion = network.scriptVersion) := by
        rw [Address.isScriptHash, version]
        exact decide_eq_decide.mpr version_eq_scriptVersion_iff
      rw [decodeAddress_toText found, AddressInfo.ofAddress, spelled, version,
        Option.map_some, Registry.id_of_findById? found, Option.any_some, script]

/-- A network that takes for its own only the addresses that pay to a script hash. -/
def scriptsOnly : Network := ⟨"scripts", 7, 9, [9]⟩

/-- That network decodes the script hash address that it gives to a hash, and refuses the key hash
address. -/
theorem decodeAddress_of_encodeAddress_scriptsOnly :
    let registry : Registry := ⟨[scriptsOnly]⟩
    let hash := "2B646639fbeaDE213a81afbb193dff43e2f93D32"
    (∃ text, encodeAddress registry "scripts" hash .scriptHash = .ok text ∧
      decodeAddress registry text (some "scripts")
        = .ok ⟨text, 9, "2b646639fbeade213a81afbb193dff43e2f93d32", some "scripts", true⟩) ∧
    ∃ text, encodeAddress registry "scripts" hash .keyHash = .ok text ∧
      decodeAddress registry text (some "scripts") = .error (.address (.wrongNetwork 7 [9])) := by
  intro registry hash
  have known : registry.findById? "scripts" = some scriptsOnly := by decide
  have spelled : hash.length = 40 ∧ ∀ c ∈ hash.toList, c ∈ Hex.digits :=
    ⟨by decide +kernel, List.all_iff_forall_prop.mp (by decide +kernel)⟩
  have lower : hash.toLower = "2b646639fbeade213a81afbb193dff43e2f93d32" := by decide +kernel
  refine ⟨?_, ?_⟩
  · obtain ⟨encodable, decodable⟩ :=
      decodeAddress_of_encodeAddress registry "scripts" hash .scriptHash
    obtain ⟨text, eq⟩ := encodable.mpr ⟨⟨_, known⟩, spelled⟩
    obtain ⟨network, found, _, decoded⟩ := decodable text eq
    cases known.symm.trans found
    rw [lower] at decoded
    exact ⟨text, eq, decoded⟩
  · obtain ⟨encodable, decodable⟩ :=
      decodeAddress_of_encodeAddress registry "scripts" hash .keyHash
    obtain ⟨text, eq⟩ := encodable.mpr ⟨⟨_, known⟩, spelled⟩
    obtain ⟨network, found, _, decoded⟩ := decodable text eq
    cases known.symm.trans found
    exact ⟨text, eq, decoded⟩

/-- What the service decodes for a network is the text that it was given and the hash in forty small
digits. Encoding hash and kind again leads back to the text exactly if the version is one of the two
that the network gives, and for any other version to the key hash address. Without a network, and in
a resolution, it tells the text that it was given as well. -/
theorem encodeAddress_of_decodeAddress (registry : Registry) (id text : String) :
    (∀ info, decodeAddress registry text (some id) = .ok info →
      ∃ network, ∃ address : Address, ∃ again,
        registry.findById? id = some network ∧
        address.toText = text ∧ info.address = text ∧
        info.version = address.version ∧ info.hash = Hex.encode address.hash.toList ∧
        info.hash.length = 40 ∧ (∀ c ∈ info.hash.toList, c ∈ Hex.lowerDigits) ∧
        encodeAddress registry id info.hash info.kind = .ok again ∧
        (again = text ↔ info.version = network.keyVersion ∨ info.version = network.scriptVersion) ∧
        (info.version ≠ network.keyVersion → info.version ≠ network.scriptVersion →
          again = (Address.ofKeyHash network address.hash).toText ∧ again ≠ text)) ∧
    (∀ info, (resolveAddress registry text).answer = .ok info → info.address = text) ∧
    (∀ info, decodeAddress registry text none = .ok info → info.address = text) := by
  refine ⟨?_, fun _ => address_of_resolveAddress, fun _ => address_of_decodeAddress⟩
  intro info decoded
  obtain ⟨_, address, known, read, rfl⟩ := decodeAddress_eq_ok_iff.mp decoded
  obtain ⟨network, found, rfl⟩ := mapM_lookUp_eq_ok_iff.mp known
  have own : address.toText = text := Address.toText_of_parse read
  obtain ⟨length, small⟩ := spelled_hash address
  have version := version_kind_ofAddress address network
  refine ⟨network, address, _, found, own, own, rfl, rfl, length, small,
    encodeAddress_encode found address.hash _, ?_, ?_⟩
  · rw [← own, Address.toText_eq_toText_iff, version]
    show _ ↔ address.version = network.keyVersion ∨ address.version = network.scriptVersion
    split
    case isTrue script => exact iff_of_true script.symm (.inr script)
    case isFalse foreign => rw [or_iff_left foreign, eq_comm]
  · intro (key : address.version ≠ network.keyVersion)
      (script : address.version ≠ network.scriptVersion)
    rw [version, if_neg script, ← own, Ne, Address.toText_eq_toText_iff]
    exact ⟨rfl, key.symm⟩

/-- A network that accepts a version which it gives to no address. -/
def tolerant : Network := ⟨"tolerant", 7, 9, [11, 9, 7]⟩

/-- An address with that version is decoded, and its hash is encoded as another address. -/
theorem encodeAddress_of_decodeAddress_tolerant :
    let registry : Registry := ⟨[tolerant]⟩
    let address : Address := ⟨11, Vector.replicate 20 0⟩
    let info := AddressInfo.ofAddress address (some tolerant)
    decodeAddress registry address.toText (some "tolerant") = .ok info ∧
      (resolveAddress registry address.toText).answer = .ok info ∧
      info.address = address.toText ∧
      ∃ again, encodeAddress registry "tolerant" info.hash .keyHash = .ok again ∧
        again ≠ address.toText := by
  intro registry address info
  have known : registry.findById? "tolerant" = some tolerant := by decide
  have decoded : decodeAddress registry address.toText (some "tolerant") = .ok info := by
    rw [decodeAddress_toText known]
    rfl
  have resolved : (resolveAddress registry address.toText).answer = .ok info :=
    resolveAddress_toText rfl
  obtain ⟨told, own, _⟩ := encodeAddress_of_decodeAddress registry "tolerant" address.toText
  obtain ⟨network, _, again, found, _, _, _, _, _, _, encoded, _, other⟩ := told info decoded
  cases known.symm.trans found
  refine ⟨decoded, resolved, own info resolved, again, encoded, ?_⟩
  exact (other (by decide) (by decide)).2

end Service

end CoinAddress
