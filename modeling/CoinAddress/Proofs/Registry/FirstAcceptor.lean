import CoinAddress.Proofs.Registry.Resolution

/-!
# The first acceptor

What a resolution answers is decided by the address that a text spells and by the list of networks
alone (`FirstAcceptor`). Every resolution answers this and nothing else, whichever entry point it is
asked through (`resolution_iff_firstAcceptor`), so a resolution never complains of a wrong network.
-/

namespace CoinAddress

/-- The address and the network of a resolution. -/
def Resolution.found (resolution : Resolution) : Address × Network :=
  (resolution.address, resolution.network)

namespace Registry

/-- The outcome that a text has against networks in search order. -/
inductive FirstAcceptor (networks : List Network) (text : String) :
    Except Address.Error (Address × Network) → Prop where
  | unreadable {error : Address.Error} :
    Address.parse none text = .error error →
    FirstAcceptor networks text (.error error)
  | unclaimed {address : Address} :
    Address.parse none text = .ok address →
    (∀ network ∈ networks, network.accepts address.version = false) →
    FirstAcceptor networks text (.error (.malformed (.unknownVersion address.version)))
  | claimed {address : Address} {network : Network} {earlier later : List Network} :
    Address.parse none text = .ok address →
    networks = earlier ++ network :: later →
    (∀ other ∈ earlier, other.accepts address.version = false) →
    network.accepts address.version = true →
    FirstAcceptor networks text (.ok (address, network))

section
variable {registry : Registry} {text : String} {address : Address} {network : Network}

/-- No network is found by its version exactly if all refuse the version. -/
lemma find?_accepts_eq_none_iff {networks : List Network} {version : UInt8} :
    networks.find? (·.accepts version) = none
      ↔ ∀ network ∈ networks, network.accepts version = false := by
  rw [List.find?_eq_none]
  simp only [Bool.not_eq_true]

/-- The network found by its version accepts it, and all before it refuse it. -/
lemma find?_accepts_eq_some_iff {networks : List Network} {version : UInt8} :
    networks.find? (·.accepts version) = some network
      ↔ network.accepts version = true ∧ ∃ earlier later, networks = earlier ++ network :: later
        ∧ ∀ other ∈ earlier, other.accepts version = false := by
  rw [List.find?_eq_some_iff_append]
  simp only [Bool.not_eq_true']

/-- A text that is no address is not looked up. -/
lemma resolveAddress_of_unreadable {error : Address.Error}
    (read : Address.parse none text = .error error) :
    registry.resolveAddress text = .error error := by
  rw [resolveAddress, read]
  rfl

/-- An address whose version nobody accepts is refused for its version. -/
lemma resolveAddress_of_find?_eq_none (read : Address.parse none text = .ok address)
    (search : registry.networks.find? (·.accepts address.version) = none) :
    registry.resolveAddress text = .error (.malformed (.unknownVersion address.version)) := by
  have nobody : registry.findByVersion address.version = [] :=
    List.filter_eq_nil_iff.mpr (List.find?_eq_none.mp search)
  simp only [resolveAddress, read, bind, Except.bind, nobody]
  rfl

/-- An address goes to the network that is found by its version. -/
lemma resolveAddress_of_find? (read : Address.parse none text = .ok address)
    (search : registry.networks.find? (·.accepts address.version) = some network) :
    ∃ shadowed, registry.resolveAddress text = .ok { address, network, shadowed } := by
  obtain ⟨shadowed, accepting⟩ := findByVersion_of_find? search
  exact ⟨shadowed, resolveAddress_eq_ok read accepting⟩

/-- A resolution has the outcome of the first acceptor. -/
lemma firstAcceptor_resolveAddress (registry : Registry) (text : String) :
    FirstAcceptor registry.networks text
      ((registry.resolveAddress text).map Resolution.found) := by
  cases read : Address.parse none text with
  | error error =>
    rw [resolveAddress_of_unreadable read]
    exact .unreadable read
  | ok address =>
    cases search : registry.networks.find? (·.accepts address.version) with
    | none =>
      rw [resolveAddress_of_find?_eq_none read search]
      exact .unclaimed read (find?_accepts_eq_none_iff.mp search)
    | some network =>
      obtain ⟨accepts, earlier, later, split, refused⟩ := find?_accepts_eq_some_iff.mp search
      obtain ⟨shadowed, eq⟩ := resolveAddress_of_find? read search
      rw [eq]
      exact .claimed read split refused accepts

/-- A text has one outcome only. -/
lemma FirstAcceptor.resolveAddress_eq {outcome : Except Address.Error (Address × Network)}
    (first : FirstAcceptor registry.networks text outcome) :
    (registry.resolveAddress text).map Resolution.found = outcome := by
  cases first with
  | unreadable read =>
    rw [resolveAddress_of_unreadable read]
    rfl
  | unclaimed read refused =>
    rw [resolveAddress_of_find?_eq_none read (find?_accepts_eq_none_iff.mpr refused)]
    rfl
  | @claimed _ _ earlier later read split refused accepts =>
    have search := find?_accepts_eq_some_iff.mpr ⟨accepts, earlier, later, split, refused⟩
    obtain ⟨shadowed, eq⟩ := resolveAddress_of_find? read search
    rw [eq]
    rfl

end

/-- A text resolves to the first acceptor, and the answer is never that the network is wrong. The
network of a resolution takes the text for the same address. All ways to ask for the network alone
answer that of the first acceptor, or the same error. -/
theorem resolution_iff_firstAcceptor (registry : Registry) (text : String) :
    (∀ outcome, (registry.resolveAddress text).map Resolution.found = outcome
      ↔ FirstAcceptor registry.networks text outcome) ∧
    (∀ version acceptable,
      registry.resolveAddress text ≠ .error (.wrongNetwork version acceptable)) ∧
    (∀ resolution, registry.resolveAddress text = .ok resolution →
      Address.parse (some resolution.network) text = .ok resolution.address) ∧
    (∀ outcome, FirstAcceptor registry.networks text outcome →
      registry.resolve text = outcome.map (·.2) ∧
      (registry.perform (.resolve text)).answer = .resolved (outcome.map (·.2)) ∧
      (Service.resolve registry text).answer = outcome.map (·.2)) := by
  refine ⟨?_, ?_, ?_, ?_⟩
  · intro outcome
    constructor
    · rintro rfl
      exact firstAcceptor_resolveAddress registry text
    · exact FirstAcceptor.resolveAddress_eq
  · intro version acceptable eq
    have first := firstAcceptor_resolveAddress registry text
    rw [eq] at first
    -- an unclaimed version has another complaint, so the text itself would have to be refused so
    cases first with
    | unreadable read => exact Address.parse_none_ne_wrongNetwork read
  · intro resolution eq
    have first := firstAcceptor_resolveAddress registry text
    rw [eq] at first
    cases first with
    | claimed read _ _ accepts => exact Address.parse_some_of_accepts read accepts
  · intro outcome first
    have eq : registry.resolve text = outcome.map (·.2) := by
      rw [← first.resolveAddress_eq, resolve]
      cases registry.resolveAddress text <;> rfl
    refine ⟨eq, ?_, ?_⟩
    · rw [← eq]
      rfl
    · rw [← eq]
      rfl

/-- Two networks with a common version, the second of which also claims one of the main network. -/
def overlapping : Registry := ⟨[.ofVersions "alt" 48 5, .ofVersions "other" 48 0x23]⟩

/-- An address with the common version resolves to the network that was registered first. -/
theorem resolution_iff_firstAcceptor_overlapping :
    let address : Address := ⟨48, Vector.replicate 20 0⟩
    FirstAcceptor overlapping.networks address.toText
      (.ok (address, .ofVersions "alt" 48 5)) ∧
    overlapping.resolve address.toText = .ok (.ofVersions "alt" 48 5) := by
  intro address
  have split : overlapping.networks = Network.builtins ++
      .ofVersions "alt" 48 5 :: [.ofVersions "other" 48 0x23] := rfl
  have first : FirstAcceptor overlapping.networks address.toText
      (.ok (address, .ofVersions "alt" 48 5)) :=
    .claimed address.parse_toText split (by decide) (by decide)
  exact ⟨first, ((resolution_iff_firstAcceptor overlapping address.toText).2.2.2 _ first).1⟩

end Registry

end CoinAddress
