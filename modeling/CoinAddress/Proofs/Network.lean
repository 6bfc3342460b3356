import CoinAddress.Config.Basic
import CoinAddress.Proofs.Outcome
import Mathlib.Data.List.Nodup

/-!
# Networks that can be made

Besides the two built-in networks there are those that the constructors give, directly or for the
entry of a config. All of them list at least one acceptable version and none twice, and nothing else
is asked of them (`constructed_iff_proper`).
-/

namespace CoinAddress

namespace Network

/-- A network that is built in or that a constructor gives. -/
inductive Constructed : Network → Prop where
  | mainnet : Constructed .mainnet
  | testnet : Constructed .testnet
  | ofVersions (id : String) (keyVersion scriptVersion : UInt8) :
    Constructed (.ofVersions id keyVersion scriptVersion)
  | ofAcceptable {id : String} {keyVersion scriptVersion : UInt8} {acceptable : List UInt8}
      {network : Network} :
    ofAcceptable id keyVersion scriptVersion acceptable = .ok network →
    Constructed network

/-- The list of acceptable versions is one that a network may have. -/
structure Proper (network : Network) : Prop where
  /-- There is an acceptable version. -/
  nonempty : network.acceptable ≠ []
  /-- No version is listed twice. -/
  nodup : network.acceptable.Nodup

/-- What is wrong with a list of acceptable versions that no network may have. -/
inductive Refusal : List UInt8 → Error → Prop where
  | noVersion :
    Refusal [] .noVersion
  | repeatedVersion {before after : List UInt8} {version : UInt8} :
    before.Nodup →
    version ∈ before →
    Refusal (before ++ version :: after) (.repeatedVersion version)

/-- Nothing is repeated exactly if no element occurs twice or among those already seen. -/
lemma firstRepeated?_eq_none_iff {seen versions : List UInt8} :
    firstRepeated? seen versions = none
      ↔ versions.Nodup ∧ ∀ version ∈ versions, version ∉ seen := by
  induction versions generalizing seen with
  | nil => exact ⟨fun _ => ⟨.nil, nofun⟩, fun _ => rfl⟩
  | cons version rest ih =>
    rw [firstRepeated?, List.nodup_cons, List.forall_mem_cons]
    by_cases mem : version ∈ seen
    · rw [if_pos mem]
      exact ⟨nofun, fun ⟨_, fresh, _⟩ => absurd mem fresh⟩
    · rw [if_neg mem, ih]
      constructor
      · rintro ⟨nodup, fresh⟩
        refine ⟨⟨?_, nodup⟩, mem, ?_⟩
        · intro again
          exact fresh version again (List.mem_cons_self ..)
        · intro other mem' seen'
          exact fresh other mem' (List.mem_cons_of_mem _ seen')
      · rintro ⟨⟨once, nodup⟩, _, fresh⟩
        refine ⟨nodup, ?_⟩
        intro other mem' seen'
        rcases List.mem_cons.mp seen' with rfl | seen'
        · exact once mem'
        · exact fresh other mem' seen'

/-- What is found is the first element that was seen, after a part in which nothing is repeated. -/
lemma firstRepeated?_eq_some_iff {seen versions : List UInt8} {version : UInt8} :
    firstRepeated? seen versions = some version
      ↔ ∃ before after, versions = before ++ version :: after ∧
        firstRepeated? seen before = none ∧ (version ∈ before ∨ version ∈ seen) := by
  induction versions generalizing seen with
  | nil => exact ⟨nofun, fun ⟨_, _, split, _⟩ => absurd split.symm (by simp)⟩
  | cons head rest ih =>
    rw [firstRepeated?]
    by_cases mem : head ∈ seen
    · rw [if_pos mem]
      constructor
      · intro eq
        cases eq
        exact ⟨[], rest, rfl, rfl, .inr mem⟩
      · rintro ⟨before, after, split, once, _⟩
        cases before with
        | nil => cases split; rfl
        | cons _ before =>
          cases split
          rw [firstRepeated?, if_pos mem] at once
          cases once
    · rw [if_neg mem, ih]
      -- the head passes from what was seen to the part in front, and back
      constructor
      · rintro ⟨before, after, rfl, once, again⟩
        refine ⟨head :: before, after, rfl, ?_, ?_⟩
        · rw [firstRepeated?, if_neg mem]
          exact once
        · simpa [or_assoc, or_left_comm] using again
      · rintro ⟨before, after, split, once, again⟩
        cases before with
        | nil =>
          cases split
          exact absurd (again.resolve_left List.not_mem_nil) mem
        | cons _ before =>
          cases split
          rw [firstRepeated?, if_neg mem] at once
          refine ⟨before, after, rfl, once, ?_⟩
          simpa [or_assoc, or_left_comm] using again

/-- A list of versions makes a network exactly if it is not empty and repeats none. -/
lemma ofAcceptable_eq_ok_iff {id : String} {keyVersion scriptVersion : UInt8}
    {acceptable : List UInt8} {network : Network} :
    ofAcceptable id keyVersion scriptVersion acceptable = .ok network
      ↔ (acceptable ≠ [] ∧ acceptable.Nodup)
        ∧ network = ⟨id, keyVersion, scriptVersion, acceptable⟩ := by
  unfold ofAcceptable
  constructor
  · intro eq
    split at eq
    case h_1 => cases eq
    case h_2 => cases eq
    case h_3 nonempty once =>
      cases eq
      exact ⟨⟨nonempty, (firstRepeated?_eq_none_iff.mp once).1⟩, rfl⟩
  · rintro ⟨⟨nonempty, nodup⟩, rfl⟩
    have once : firstRepeated? [] acceptable = none :=
      firstRepeated?_eq_none_iff.mpr ⟨nodup, fun _ _ => List.not_mem_nil⟩
    rw [once]
    cases acceptable with
    | nil => exact absurd rfl nonempty
    | cons version rest => rfl

/-- A list of versions that makes no network is refused for what is wrong with it. -/
lemma ofAcceptable_eq_error_iff {id : String} {keyVersion scriptVersion : UInt8}
    {acceptable : List UInt8} {cause : Error} :
    ofAcceptable id keyVersion scriptVersion acceptable = .error cause
      ↔ Refusal acceptable cause := by
  unfold ofAcceptable
  constructor
  · intro eq
    split at eq
    case h_1 =>
      cases eq
      exact .noVersion
    case h_2 version _ found =>
      cases eq
      obtain ⟨before, after, rfl, once, again⟩ := firstRepeated?_eq_some_iff.mp found
      have nodup := (firstRepeated?_eq_none_iff.mp once).1
      exact .repeatedVersion nodup (again.resolve_right List.not_mem_nil)
    case h_3 => cases eq
  · intro refusal
    cases refusal with
    | noVersion => rfl
    | @repeatedVersion before after version nodup again =>
      have once : firstRepeated? [] before = none :=
        firstRepeated?_eq_none_iff.mpr ⟨nodup, fun _ _ => List.not_mem_nil⟩
      have found : firstRepeated? [] (before ++ version :: after) = some version :=
        firstRepeated?_eq_some_iff.mpr ⟨before, after, rfl, once, .inl again⟩
      rw [found]
      cases before with
      | nil => cases again
      | cons => rfl

/-- A network of two versions accepts one or both of them. -/
lemma proper_ofVersions (id : String) (keyVersion scriptVersion : UInt8) :
    (ofVersions id keyVersion scriptVersion).Proper := by
  by_cases same : keyVersion = scriptVersion
  · have acceptable : (ofVersions id keyVersion scriptVersion).acceptable = [keyVersion] :=
      if_pos same
    exact ⟨acceptable ▸ List.cons_ne_nil _ _, acceptable ▸ List.nodup_singleton _⟩
  · have acceptable : (ofVersions id keyVersion scriptVersion).acceptable
        = [keyVersion, scriptVersion] := if_neg same
    exact ⟨acceptable ▸ List.cons_ne_nil _ _, acceptable ▸ by simpa using same⟩

/-- A network of two versions accepts both. -/
lemma version_mem_ofVersions (id : String) (keyVersion scriptVersion : UInt8) (kind : Kind) :
    (ofVersions id keyVersion scriptVersion).version kind
      ∈ (ofVersions id keyVersion scriptVersion).acceptable := by
  show _ ∈ if keyVersion = scriptVersion then [keyVersion] else [keyVersion, scriptVersion]
  split
  case isTrue same =>
    cases kind with
    | keyHash => exact List.mem_singleton_self keyVersion
    | scriptHash => exact List.mem_singleton.mpr same.symm
  case isFalse =>
    cases kind with
    | keyHash => exact List.mem_cons_self ..
    | scriptHash => exact List.mem_cons_of_mem _ (List.mem_singleton_self scriptVersion)

/-- Every network that can be made has a proper list of versions. -/
theorem Constructed.proper {network : Network} (constructed : network.Constructed) :
    network.Proper := by
  cases constructed with
  | mainnet => exact ⟨by decide, by decide⟩
  | testnet => exact ⟨by decide, by decide⟩
  | ofVersions id keyVersion scriptVersion => exact proper_ofVersions id keyVersion scriptVersion
  | ofAcceptable made =>
    obtain ⟨⟨nonempty, nodup⟩, rfl⟩ := ofAcceptable_eq_ok_iff.mp made
    exact ⟨nonempty, nodup⟩

/-- A network can be made exactly if its list of versions is proper. -/
lemma constructed_iff_proper {network : Network} : network.Constructed ↔ network.Proper := by
  constructor
  · exact Constructed.proper
  · rintro ⟨nonempty, nodup⟩
    exact .ofAcceptable (ofAcceptable_eq_ok_iff.mpr ⟨⟨nonempty, nodup⟩, rfl⟩)

/-- A network accepts the versions that it lists. -/
lemma accepts_iff {network : Network} {version : UInt8} :
    network.accepts version ↔ version ∈ network.acceptable :=
  decide_eq_true_iff

/-- A network is built in exactly if its id is. -/
lemma isBuiltinId_id (network : Network) : isBuiltinId network.id = network.isBuiltin := by
  rw [isBuiltinId, isBuiltin, builtins, List.any_cons, List.any_cons, List.any_nil, Bool.or_false,
    decide_eq_decide.mpr (eq_comm (a := mainnet.id)), decide_eq_decide.mpr (eq_comm (a := testnet.id))]

/-- An id is not built in exactly if no built-in network has it. -/
lemma isBuiltinId_eq_false_iff {id : String} :
    isBuiltinId id = false ↔ id ∉ builtins.map (·.id) := by
  rw [isBuiltinId, List.any_eq_false, List.mem_map]
  simp only [decide_eq_true_eq, not_exists, not_and]

/-- The built-in ids are those of the built-in networks. -/
lemma isBuiltinId_iff {id : String} : isBuiltinId id = true ↔ id ∈ builtins.map (·.id) := by
  rw [← not_iff_not, Bool.not_eq_true]
  exact isBuiltinId_eq_false_iff

end Network

namespace Config

/-- The network of a config entry is one that can be made. -/
lemma Entry.constructed_network {entry : Entry} {network : Network}
    (eq : entry.network = .ok network) : network.Constructed := by
  rw [Entry.network] at eq
  split at eq
  case h_1 =>
    cases eq
    exact .ofVersions ..
  case h_2 versions _ =>
    exact .ofAcceptable (Outcome.mapError_eq_ok_iff.mp eq)

/-- The networks of a config are ones that can be made. -/
lemma constructed_networks {config : Config} {networks : List Network}
    (eq : config.networks = .ok networks) : ∀ network ∈ networks, network.Constructed := by
  have all := Outcome.mapM_eq_ok_iff.mp eq
  clear eq
  generalize config.entries = entries at all
  induction all with
  | nil => exact nofun
  | cons made _ ih => exact List.forall_mem_cons.mpr ⟨Entry.constructed_network made, ih⟩

end Config

end CoinAddress
