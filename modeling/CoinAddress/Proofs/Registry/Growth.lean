import CoinAddress.Proofs.Registry.FirstAcceptor
import CoinAddress.Proofs.Registry.Views

/-!
# Growth of a registry

Registering appends to the list of networks and does nothing else (`Registration.networks_eq`). As
every search stops at the first network that it wants, what was found before is found ever after,
and new networks get only what nobody has claimed (`resolve_after_registration`).
-/

namespace CoinAddress.Registry

/-- The first network that accepts a version, or the complaint that there is none. -/
def firstToAccept (networks : List Network) (version : UInt8) : Except Address.Error Network :=
  match networks.find? (·.accepts version) with
  | some network => .ok network
  | none => .error (.malformed (.unknownVersion version))

/-- A call that is to register the networks of a batch, and the registry that it leaves. A call with
a config counts only if it succeeds. -/
inductive Registration (registry : Registry) : List Network → Registry → Prop where
  | register (network : Network) :
    Registration registry [network] (registry.register network).registry
  | registerAll (batch : List Network) :
    Registration registry batch (registry.registerAll batch).registry
  | registerConfig {config : Config} {batch : List Network} {count : Nat} :
    config.networks = .ok batch →
    (registry.registerConfig config).answer = .ok count →
    Registration registry batch (registry.registerConfig config).registry

/-- The networks of a batch that can be registered. -/
def added (batch : List Network) : List Network :=
  batch.filter fun network => !Network.isBuiltinId network.id

section
variable {registry after : Registry} {batch : List Network} {text : String}

/-- A batch is appended to the list of networks, without those of a built-in id. -/
lemma networks_registerAll (registry : Registry) (batch : List Network) :
    (registry.registerAll batch).registry.networks = registry.networks ++ added batch := by
  rw [networks, networks, List.append_assoc]
  rfl

/-- A registration appends to the list of networks. -/
lemma Registration.networks_eq (registration : Registration registry batch after) :
    after.networks = registry.networks ++ added batch := by
  cases registration with
  | register network => exact networks_registerAll registry [network]
  | registerAll => exact networks_registerAll registry batch
  | @registerConfig config batch count defined _ =>
    have eq : (registry.registerConfig config).registry
        = (registry.registerAll batch).registry := by
      rw [Registry.registerConfig, defined]
    rw [eq]
    exact networks_registerAll registry batch

/-- What an id led to it leads to after a registration. -/
lemma Registration.findById?_of_some (registration : Registration registry batch after) {id : String}
    {network : Network} (found : registry.findById? id = some network) :
    after.findById? id = some network := by
  rw [findById?_eq_find?] at found
  rw [findById?_eq_find?, registration.networks_eq, List.find?_append, found]
  rfl

/-- A text that is no address resolves to no network. -/
lemma resolve_of_unreadable {error : Address.Error}
    (read : Address.parse none text = .error error) : registry.resolve text = .error error := by
  rw [resolve, resolveAddress_of_unreadable read]
  rfl

/-- What an address resolves to is found by its version. -/
lemma resolve_of_read {address : Address} (read : Address.parse none text = .ok address) :
    registry.resolve text = firstToAccept registry.networks address.version := by
  rw [firstToAccept]
  cases search : registry.networks.find? (·.accepts address.version) with
  | none =>
    rw [resolve, resolveAddress_of_find?_eq_none read search]
    rfl
  | some network => exact resolve_of_find? read search

end

section
variable {networks networks' : List Network} {version : UInt8}

/-- What has been found is found among more networks too. -/
lemma firstToAccept_append_of_ok {network : Network}
    (eq : firstToAccept networks version = .ok network) :
    firstToAccept (networks ++ networks') version = .ok network := by
  rw [firstToAccept] at eq
  rw [firstToAccept, List.find?_append]
  cases search : networks.find? (·.accepts version) with
  | none => simp [search] at eq
  | some first =>
    rw [search] at eq
    exact eq

/-- If there is none among the first networks, those appended decide. -/
lemma firstToAccept_append_of_error {error : Address.Error}
    (eq : firstToAccept networks version = .error error) :
    firstToAccept (networks ++ networks') version = firstToAccept networks' version := by
  rw [firstToAccept] at eq
  rw [firstToAccept, firstToAccept, List.find?_append]
  cases search : networks.find? (·.accepts version) with
  | none => rfl
  | some first => simp [search] at eq

/-- The search complains of the version and of nothing else. -/
lemma error_of_firstToAccept {error : Address.Error}
    (eq : firstToAccept networks version = .error error) :
    error = .malformed (.unknownVersion version) := by
  rw [firstToAccept] at eq
  split at eq
  case h_1 => cases eq
  case h_2 =>
    cases eq
    rfl

end

/-- A registration leaves every network that a text resolved to as it was. A text with an unclaimed
version goes to the first of the added networks that accepts it, and any other error stays. The id of
every network that was there leads to a definition, and afterwards to the same one. -/
theorem resolve_after_registration {registry after : Registry} {batch : List Network}
    (registration : Registration registry batch after) :
    after.networks = registry.networks ++ added batch ∧
    (∀ text network, registry.resolve text = .ok network → after.resolve text = .ok network) ∧
    (∀ text version, registry.resolve text = .error (.malformed (.unknownVersion version)) →
      after.resolve text = firstToAccept (added batch) version) ∧
    (∀ text error, registry.resolve text = .error error →
      (∀ version, error ≠ .malformed (.unknownVersion version)) →
      after.resolve text = .error error) ∧
    (∀ network ∈ registry.networks, ∃ first, registry.findById? network.id = some first ∧
      after.findById? network.id = some first) ∧
    (∀ id network, registry.findById? id = some network → after.findById? id = some network) := by
  have grown := registration.networks_eq
  refine ⟨grown, ?_, ?_, ?_, ?_, fun _ _ => registration.findById?_of_some⟩
  · intro text network before
    cases read : Address.parse none text with
    | error error =>
      rw [resolve_of_unreadable read] at before
      cases before
    | ok address =>
      rw [resolve_of_read read] at before
      rw [resolve_of_read read, grown]
      exact firstToAccept_append_of_ok before
  · intro text version before
    cases read : Address.parse none text with
    | error error =>
      rw [resolve_of_unreadable read] at before
      cases before
      -- only the search complains of an unknown version, never the reading of a text
      exact absurd read Address.parse_none_ne_unknownVersion
    | ok address =>
      rw [resolve_of_read read] at before
      have same : version = address.version := by
        cases error_of_firstToAccept before
        rfl
      rw [resolve_of_read read, grown, same]
      exact firstToAccept_append_of_error before
  · intro text error before other
    cases read : Address.parse none text with
    | error fault =>
      rw [resolve_of_unreadable read] at before
      rw [resolve_of_unreadable read]
      exact before
    | ok address =>
      rw [resolve_of_read read] at before
      exact absurd (error_of_firstToAccept before) (other address.version)
  · intro network mem
    obtain ⟨first, found⟩ := exists_findById? mem
    exact ⟨first, found, registration.findById?_of_some found⟩

/-- A config with an entry that takes the id of the main network and one that repeats another id. -/
def repeating : Config where
  entries := [⟨"org.floj.production", 7, 9, none⟩, ⟨"alt", 48, 7, none⟩, ⟨"new", 7, 9, some [9, 7]⟩]

/-- When the config is registered beside a network, what that network has claimed stays with it, its
id included, and the first added network that accepts the new version gets it. -/
theorem resolve_after_registration_repeating :
    let registry : Registry := ⟨[.ofVersions "alt" 48 5]⟩
    let after := (registry.registerConfig repeating).registry
    let claimed : Address := ⟨48, Vector.replicate 20 0⟩
    let unclaimed : Address := ⟨7, Vector.replicate 20 0⟩
    after.resolve claimed.toText = .ok (.ofVersions "alt" 48 5) ∧
      after.resolve unclaimed.toText = .ok (.ofVersions "alt" 48 7) ∧
      .ofVersions "alt" 48 5 ∈ registry.networks ∧
      after.findById? "alt" = some (.ofVersions "alt" 48 5) := by
  intro registry after claimed unclaimed
  have success : (registry.registerConfig repeating).answer = .ok 2 := rfl
  have registration : Registration registry
      [.ofVersions "org.floj.production" 7 9, .ofVersions "alt" 48 7, ⟨"new", 7, 9, [9, 7]⟩] after :=
    .registerConfig rfl success
  obtain ⟨_, kept, assigned, _, present, _⟩ := resolve_after_registration registration
  have mem : .ofVersions "alt" 48 5 ∈ registry.networks :=
    List.mem_append_right _ (List.mem_singleton_self _)
  obtain ⟨first, before, same⟩ := present _ mem
  have own : registry.findById? "alt" = some (.ofVersions "alt" 48 5) := by decide
  have found : after.findById? "alt" = some (.ofVersions "alt" 48 5) :=
    same.trans (before.symm.trans own)
  refine ⟨kept _ _ ?_, ?_, mem, found⟩
  · rw [resolve_of_read claimed.parse_toText]
    rfl
  · rw [assigned unclaimed.toText 7]
    · rfl
    · rw [resolve_of_read unclaimed.parse_toText]
      rfl

end CoinAddress.Registry
