import CoinAddress.Proofs.Network
import CoinAddress.Service

/-!
# Loading of configs

A config is refused if an entry of it is at fault, wherever the entry stands and whatever its id is
(`Config.networks_eq_ok_iff`). Otherwise all entries are registered in their order, save those with
a built-in id. Nothing lies between the two (`registerConfig_all_or_nothing`).
-/

namespace CoinAddress

namespace Config

/-- The entry lists its versions, and it lists none or lists one of them twice. -/
def Entry.Faulty (entry : Entry) : Prop :=
  ∃ versions, entry.acceptable = some versions ∧ (versions = [] ∨ ¬ versions.Nodup)

/-- The network that an entry describes, at fault or not. -/
def Entry.described (entry : Entry) : Network :=
  match entry.acceptable with
  | none => .ofVersions entry.id entry.keyVersion entry.scriptVersion
  | some versions => ⟨entry.id, entry.keyVersion, entry.scriptVersion, versions⟩

/-- The networks that a config adds to a registry. -/
def additions (config : Config) : List Network :=
  (config.entries.filter fun entry => !Network.isBuiltinId entry.id).map Entry.described

/-- What an entry describes has the id of the entry. -/
lemma Entry.id_described (entry : Entry) : entry.described.id = entry.id := by
  rw [described]
  split <;> rfl

/-- An entry is sound exactly if the versions that it lists, if it does, are at least one and all
different. -/
lemma Entry.not_faulty_iff {entry : Entry} :
    ¬ entry.Faulty
      ↔ ∀ versions, entry.acceptable = some versions → versions ≠ [] ∧ versions.Nodup := by
  simp only [Faulty, not_exists, not_and, not_or, not_not, ne_eq]

/-- An entry defines the network that it describes, unless it is at fault. -/
lemma Entry.network_eq_ok_iff {entry : Entry} {network : Network} :
    entry.network = .ok network ↔ ¬ entry.Faulty ∧ entry.described = network := by
  rw [not_faulty_iff, Entry.network, described]
  cases listed : entry.acceptable with
  | none =>
    constructor
    · intro eq
      refine ⟨?_, Except.ok.inj eq⟩
      intro versions eq
      cases eq
    · rintro ⟨_, rfl⟩
      rfl
  | some versions =>
    rw [Outcome.mapError_eq_ok_iff, Network.ofAcceptable_eq_ok_iff]
    constructor
    · rintro ⟨proper, rfl⟩
      refine ⟨?_, rfl⟩
      intro versions' eq
      cases eq
      exact proper
    · rintro ⟨proper, rfl⟩
      exact ⟨proper versions rfl, rfl⟩

/-- A config defines the networks that its entries describe, unless one of them is at fault. -/
lemma networks_eq_ok_iff {config : Config} {networks : List Network} :
    config.networks = .ok networks
      ↔ (∀ entry ∈ config.entries, ¬ entry.Faulty)
        ∧ config.entries.map Entry.described = networks := by
  rw [Config.networks, Outcome.mapM_eq_ok_iff]
  simp only [Entry.network_eq_ok_iff]
  rw [List.forall₂_and_left, ← List.forall₂_map_left_iff, List.forall₂_eq_eq_eq]

/-- The networks that are registered of all described ones are those of the other entries. -/
lemma filter_described (config : Config) :
    (config.entries.map Entry.described).filter (!Network.isBuiltinId ·.id)
      = config.additions := by
  rw [List.filter_map, additions]
  congr 2
  funext entry
  rw [Function.comp_apply, entry.id_described]

end Config

namespace Registry

/-- What the service may do with a document of networks to register. -/
inductive Loading (registry : Registry) (document : String) :
    Change (Except Service.Error UInt32) → Prop where
  | unreadable {error : Config.Error} :
    Config.ofJson document = .error error →
    Loading registry document (.unchanged registry (.error (.config error)))
  | refused {config : Config} {invalid : Config.InvalidEntry} :
    Config.ofJson document = .ok config →
    (∃ entry ∈ config.entries, entry.Faulty) →
    Loading registry document (.unchanged registry (.error (.config (.entry invalid))))
  | taken {config : Config} {journal : List Record} :
    Config.ofJson document = .ok config →
    (∀ entry ∈ config.entries, ¬ entry.Faulty) →
    Loading registry document
      ⟨.ok config.additions.length.toUInt32, ⟨registry.registered ++ config.additions⟩, journal⟩

/-- A config with an entry at fault is refused as a whole, and any other is taken as a whole. -/
lemma registerConfig_cases (registry : Registry) (config : Config) :
    ((∃ entry ∈ config.entries, entry.Faulty) ∧
      ∃ invalid, registry.registerConfig config = .unchanged registry (.error invalid)) ∨
    ((∀ entry ∈ config.entries, ¬ entry.Faulty) ∧
      ∃ journal, registry.registerConfig config
        = ⟨.ok config.additions.length, ⟨registry.registered ++ config.additions⟩, journal⟩) := by
  by_cases sound : ∀ entry ∈ config.entries, ¬ entry.Faulty
  -- all networks are defined before the first is registered, so a fault leaves nothing to undo
  · have defined : config.networks = .ok (config.entries.map Config.Entry.described) :=
      Config.networks_eq_ok_iff.mpr ⟨sound, rfl⟩
    refine .inr ⟨sound, ?_⟩
    rw [registerConfig, defined, ← config.filter_described]
    exact ⟨_, rfl⟩
  · cases defined : config.networks with
    | error invalid =>
      refine .inl ⟨by simpa using sound, invalid, ?_⟩
      rw [registerConfig, defined]
    | ok networks => exact absurd (Config.networks_eq_ok_iff.mp defined).1 sound

/-- Registering the networks of a document has one of the outcomes of loading. -/
lemma loading_registerNetworks (registry : Registry) (document : String) :
    Loading registry document (Service.registerNetworks registry document) := by
  rw [Service.registerNetworks]
  cases read : Config.ofJson document with
  | error error => exact .unreadable read
  | ok config =>
    rcases registerConfig_cases registry config with ⟨faulty, invalid, eq⟩ | ⟨sound, journal, eq⟩
    · simp only [eq]
      exact .refused read faulty
    · simp only [eq]
      exact .taken read sound

/-- A config is refused exactly if an entry is at fault, and then nothing happens. If it is taken,
what it adds follows the registered networks, all of it at once. The same holds of documents. -/
theorem registerConfig_all_or_nothing (registry : Registry) (config : Config) :
    let loading := registry.registerConfig config
    ((∃ invalid, loading.answer = .error invalid) ↔ ∃ entry ∈ config.entries, entry.Faulty) ∧
    (∀ invalid, loading.answer = .error invalid →
      loading.registry = registry ∧ loading.journal = []) ∧
    (∀ count, loading.answer = .ok count →
      loading.registry.registered = registry.registered ++ config.additions ∧
      count = config.additions.length) ∧
    (∀ document, Loading registry document (Service.registerNetworks registry document)) := by
  intro loading
  rcases registerConfig_cases registry config with ⟨faulty, invalid, eq⟩ | ⟨sound, journal, eq⟩
  · have answer : loading.answer = .error invalid := congrArg Change.answer eq
    refine ⟨?_, ?_, ?_, loading_registerNetworks registry⟩
    · exact ⟨fun _ => faulty, fun _ => ⟨invalid, answer⟩⟩
    · intro _ _
      exact ⟨congrArg Change.registry eq, congrArg Change.journal eq⟩
    · intro count taken
      cases answer.symm.trans taken
  · have answer : loading.answer = .ok config.additions.length := congrArg Change.answer eq
    refine ⟨?_, ?_, ?_, loading_registerNetworks registry⟩
    · constructor
      · rintro ⟨invalid, refused⟩
        cases answer.symm.trans refused
      · rintro ⟨entry, mem, faulty⟩
        exact absurd faulty (sound entry mem)
    · intro invalid refused
      cases answer.symm.trans refused
    · intro count taken
      have state : loading.registry = ⟨registry.registered ++ config.additions⟩ :=
        congrArg Change.registry eq
      exact ⟨congrArg registered state, Except.ok.inj (taken.symm.trans answer)⟩

/-- A config whose entry for a built-in id repeats a version between two entries without fault. -/
def spoilt : Config where
  entries := [⟨"a", 7, 9, none⟩, ⟨"org.floj.test", 7, 9, some [7, 9, 7]⟩, ⟨"b", 9, 9, none⟩]

/-- The spoilt config is refused for the entry that would not be registered anyway. -/
theorem registerConfig_all_or_nothing_spoilt :
    (initial.registerConfig spoilt).answer
        = .error ⟨"org.floj.test", .repeatedVersion 7⟩ ∧
      (initial.registerConfig spoilt).registry = initial ∧
      (initial.registerConfig spoilt).journal = [] := by
  have refused : (initial.registerConfig spoilt).answer
      = .error ⟨"org.floj.test", .repeatedVersion 7⟩ := by decide
  exact ⟨refused, (registerConfig_all_or_nothing initial spoilt).2.1 _ refused⟩

end Registry

end CoinAddress
