import CoinAddress.Proofs.Config.Loading

/-!
# The first fault of a config

A config defines the networks of its entries one for one, unless an entry is at fault. Then the error
names the first such entry and the first thing that is wrong with its versions
(`networks_iff_first_fault`).
-/

namespace CoinAddress.Config

/-- The versions that an entry lists, or else its two versions, once if they are equal. -/
def Entry.versions (entry : Entry) : List UInt8 :=
  entry.acceptable.getD
    (if entry.keyVersion = entry.scriptVersion then [entry.keyVersion]
      else [entry.keyVersion, entry.scriptVersion])

/-- What an entry describes has its id, its two versions and the versions that it accepts. -/
lemma Entry.described_eq (entry : Entry) :
    entry.described = ⟨entry.id, entry.keyVersion, entry.scriptVersion, entry.versions⟩ := by
  rw [described, versions]
  cases entry.acceptable <;> rfl

/-- An entry defines a network exactly if it is not at fault. -/
lemma Entry.exists_network_iff {entry : Entry} :
    (∃ network, entry.network = .ok network) ↔ ¬ entry.Faulty := by
  simp only [network_eq_ok_iff, exists_and_left, exists_eq', and_true]

/-- An entry is invalid for what is wrong with the versions that it lists. -/
lemma Entry.network_eq_error_iff {entry : Entry} {invalid : InvalidEntry} :
    entry.network = .error invalid ↔ invalid.id = entry.id ∧
      ∃ versions, entry.acceptable = some versions ∧ Network.Refusal versions invalid.cause := by
  rw [Entry.network]
  cases entry.acceptable with
  | none =>
    constructor
    · intro eq
      cases eq
    · rintro ⟨_, _, eq, _⟩
      cases eq
  | some versions =>
    rw [Outcome.mapError_eq_error_iff]
    simp only [Network.ofAcceptable_eq_error_iff, Option.some.injEq, exists_eq_left']
    constructor
    · rintro ⟨cause, refusal, rfl⟩
      exact ⟨rfl, refusal⟩
    · rintro ⟨same, refusal⟩
      refine ⟨invalid.cause, refusal, ?_⟩
      rw [← same]

/-- A config defines networks exactly if no entry is at fault, and these have the ids and versions of
its entries, in their order. Otherwise its error has the id of the first entry at fault and the first
thing that is wrong with the versions of that entry. -/
theorem networks_iff_first_fault (config : Config) :
    (∀ networks, config.networks = .ok networks ↔
      (∀ entry ∈ config.entries, ¬ entry.Faulty) ∧
      networks = config.entries.map fun entry =>
        ⟨entry.id, entry.keyVersion, entry.scriptVersion, entry.versions⟩) ∧
    (∀ invalid, config.networks = .error invalid ↔
      ∃ earlier entry later, config.entries = earlier ++ entry :: later ∧
        (∀ other ∈ earlier, ¬ other.Faulty) ∧ invalid.id = entry.id ∧
        ∃ versions, entry.acceptable = some versions ∧ Network.Refusal versions invalid.cause) := by
  refine ⟨?_, ?_⟩
  · intro networks
    rw [networks_eq_ok_iff, ← funext Entry.described_eq, eq_comm (a := networks)]
  · intro invalid
    rw [Config.networks, Outcome.mapM_eq_error_iff]
    simp only [Entry.exists_network_iff, Entry.network_eq_error_iff]

/-- Of two entries at fault the first one is named, and of two repeated versions the one whose second
occurrence comes first. -/
example :
    networks ⟨[⟨"a", 7, 7, none⟩, ⟨"b", 7, 9, some [1, 2, 3, 2, 1]⟩, ⟨"c", 7, 9, some []⟩]⟩
      = .error ⟨"b", .repeatedVersion 2⟩ := by
  decide

end CoinAddress.Config
