import CoinAddress.Proofs.Address.Canonical
import CoinAddress.Proofs.Network

/-!
# Reading against an expected network

An expected network is asked once, after the text has been read without it. The outcome has three
cases (`Expected`): a text that is malformed for everybody, an address with a version that the network
refuses, and an address that it accepts. What two networks accept in common and what a network accepts
of its own addresses is then a matter of their lists alone (`parse_some_iff_parse_none`).
-/

namespace CoinAddress.Address

/-- The outcome that a text has against a network. -/
inductive Expected (network : Network) (text : String) : Except Error Address → Prop where
  | malformed {reason : Malformed} :
    parse none text = .error (.malformed reason) →
    Expected network text (.error (.malformed reason))
  | foreign {address : Address} :
    parse none text = .ok address →
    address.version ∉ network.acceptable →
    Expected network text (.error (.wrongNetwork address.version network.acceptable))
  | own {address : Address} :
    parse none text = .ok address →
    address.version ∈ network.acceptable →
    Expected network text (.ok address)

section
variable {network : Network} {text : String} {address : Address}

/-- Without an expected network the only complaint is that the text is malformed. -/
lemma exists_malformed {error : Error} (refused : parse none text = .error error) :
    ∃ reason, error = .malformed reason := by
  rw [parse_none] at refused
  cases read : ofText text with
  | error reason =>
    rw [read] at refused
    exact ⟨reason, (Except.error.inj refused).symm⟩
  | ok address =>
    rw [read] at refused
    cases refused

/-- What is no address of any network is no address of the expected one. -/
lemma parse_some_of_error {error : Error} (refused : parse none text = .error error) :
    parse (some network) text = .error error := by
  rw [parse_some, refused]
  rfl

/-- An address whose version the network does not list is one of a wrong network. -/
lemma parse_some_of_not_mem (read : parse none text = .ok address)
    (foreign : address.version ∉ network.acceptable) :
    parse (some network) text = .error (.wrongNetwork address.version network.acceptable) := by
  rw [parse_some, read]
  exact if_neg fun accepts => foreign (Network.accepts_iff.mp accepts)

/-- What is read against a network is the outcome that the text has against it. -/
lemma expected_parse_some (network : Network) (text : String) :
    Expected network text (parse (some network) text) := by
  cases read : parse none text with
  | error error =>
    obtain ⟨reason, rfl⟩ := exists_malformed read
    rw [parse_some_of_error read]
    exact .malformed read
  | ok address =>
    by_cases mem : address.version ∈ network.acceptable
    · rw [parse_some_of_accepts read (Network.accepts_iff.mpr mem)]
      exact .own read mem
    · rw [parse_some_of_not_mem read mem]
      exact .foreign read mem

/-- A text has one outcome only. -/
lemma Expected.parse_some_eq {outcome : Except Error Address}
    (expected : Expected network text outcome) : parse (some network) text = outcome := by
  cases expected with
  | malformed refused => exact parse_some_of_error refused
  | foreign read foreign => exact parse_some_of_not_mem read foreign
  | own read mem => exact parse_some_of_accepts read (Network.accepts_iff.mpr mem)

/-- A text has one outcome against a network, and parsing gives it. -/
lemma parse_some_eq_iff {outcome : Except Error Address} :
    parse (some network) text = outcome ↔ Expected network text outcome := by
  constructor
  · rintro rfl
    exact expected_parse_some network text
  · exact Expected.parse_some_eq

/-- A network takes the addresses whose versions it lists. -/
lemma parse_some_eq_ok_iff_mem :
    parse (some network) text = .ok address
      ↔ parse none text = .ok address ∧ address.version ∈ network.acceptable := by
  rw [parse_some_eq_ok_iff, Network.accepts_iff]

/-- A network that accepts the version which it gives to a kind reads the addresses of that kind. -/
lemma parse_some_of_ofHash {bytes : Bytes} {kind : Kind}
    (made : ofHash network bytes kind = .ok address)
    (mem : network.version kind ∈ network.acceptable) :
    parse (some network) address.toText = .ok address := by
  obtain ⟨_, version⟩ := ofHash_eq_ok_iff.mp made
  exact parse_some_eq_ok_iff_mem.mpr ⟨address.parse_toText, version ▸ mem⟩

/-- Twenty bytes make an address, and no other number of bytes does. -/
lemma exists_ofHash_iff {bytes : Bytes} {kind : Kind} :
    (∃ address, ofHash network bytes kind = .ok address) ↔ bytes.length = 20 := by
  constructor
  · rintro ⟨address, made⟩
    obtain ⟨rfl, _⟩ := ofHash_eq_ok_iff.mp made
    exact address.hash.length_toList
  · intro length
    exact ⟨⟨network.version kind, ⟨bytes.toArray, length⟩⟩, ofHash_eq_ok_iff.mpr ⟨rfl, rfl⟩⟩

end

/-- Against a network a text is read as it is without one, and then the version has to be in the list
of the network. A version outside the list is reported with the list. Malformed texts are the same for
all networks and for none. So two networks without a common version read no text in common, and a
network of two versions reads every address that it makes. -/
theorem parse_some_iff_parse_none :
    (∀ network text address, parse (some network) text = .ok address ↔
      parse none text = .ok address ∧ address.version ∈ network.acceptable) ∧
    (∀ network text version acceptable,
      parse (some network) text = .error (.wrongNetwork version acceptable) ↔
        acceptable = network.acceptable ∧ version ∉ network.acceptable ∧
          ∃ address, parse none text = .ok address ∧ address.version = version) ∧
    (∀ network text reason, parse (some network) text = .error (.malformed reason) ↔
      parse none text = .error (.malformed reason)) ∧
    (∀ network other : Network, network.acceptable.Disjoint other.acceptable →
      ∀ text address address', parse (some network) text = .ok address →
        parse (some other) text ≠ .ok address') ∧
    (∀ id keyVersion scriptVersion bytes kind,
      let network := Network.ofVersions id keyVersion scriptVersion
      ((∃ address, ofHash network bytes kind = .ok address) ↔ bytes.length = 20) ∧
      ∀ address, ofHash network bytes kind = .ok address →
        parse (some network) address.toText = .ok address) := by
  refine ⟨?_, ?_, ?_, ?_, ?_⟩
  · intro network text address
    exact parse_some_eq_ok_iff_mem
  · intro network text version acceptable
    rw [parse_some_eq_iff]
    constructor
    · intro expected
      cases expected with
      | foreign read foreign => exact ⟨rfl, foreign, _, read, rfl⟩
    · rintro ⟨rfl, foreign, address, read, rfl⟩
      exact .foreign read foreign
  · intro network text reason
    rw [parse_some_eq_iff]
    constructor
    · intro expected
      cases expected with
      | malformed refused => exact refused
    · exact .malformed
  · intro network other disjoint text address address' read read'
    obtain ⟨same, mem⟩ := parse_some_eq_ok_iff_mem.mp read
    obtain ⟨same', mem'⟩ := parse_some_eq_ok_iff_mem.mp read'
    cases same.symm.trans same'
    exact disjoint mem mem'
  · intro id keyVersion scriptVersion bytes kind network
    refine ⟨exists_ofHash_iff, ?_⟩
    intro address made
    exact parse_some_of_ofHash made (Network.version_mem_ofVersions ..)

/-- A network with one version for both kinds reads what it makes. Two networks that give the same
versions, but accept one of them each, have no text in common. -/
theorem parse_some_iff_parse_none_coinciding :
    let single := Network.ofVersions "single" 7 7
    let keys : Network := ⟨"keys", 7, 9, [7]⟩
    let scripts : Network := ⟨"scripts", 7, 9, [9]⟩
    let address : Address := ⟨7, Vector.replicate 20 0⟩
    ofHash single address.hash.toList .scriptHash = .ok address ∧
      parse (some single) address.toText = .ok address ∧
      keys.acceptable.Disjoint scripts.acceptable ∧
      parse (some keys) address.toText = .ok address ∧
      parse (some scripts) address.toText ≠ .ok address := by
  intro single keys scripts address
  have made : ofHash single address.hash.toList .scriptHash = .ok address :=
    ofHash_eq_ok_iff.mpr ⟨rfl, rfl⟩
  have disjoint : keys.acceptable.Disjoint scripts.acceptable :=
    List.disjoint_singleton.mpr (by decide)
  obtain ⟨accepted, _, _, apart, own⟩ := parse_some_iff_parse_none
  have read : parse (some keys) address.toText = .ok address :=
    (accepted keys _ address).mpr ⟨address.parse_toText, by decide⟩
  exact ⟨made, (own "single" 7 7 _ .scriptHash).2 address made, disjoint, read,
    apart keys scripts disjoint _ address address read⟩

end CoinAddress.Address
