import CoinAddress.Proofs.Registry.FirstAcceptor
import CoinAddress.Proofs.Registry.Views

/-!
# Networks of one id

One id may be registered more than once. The search by id stops at the first of its definitions and
the search by version at the first network that accepts the version, so a text may resolve to a
definition that its own id does not lead to. This happens exactly if an earlier definition of the id
refuses the version (`findById?_of_resolve`), and never as long as the ids differ.
-/

namespace CoinAddress.Registry

section
variable {registry : Registry} {network : Network}

/-- A resolution splits the networks at the first one that accepts the version of the address. -/
lemma split_of_resolveAddress {text : String} {resolution : Resolution}
    (eq : registry.resolveAddress text = .ok resolution) :
    Address.parse none text = .ok resolution.address ∧
    ∃ earlier later, registry.networks = earlier ++ resolution.network :: later ∧
      (∀ other ∈ earlier, other.accepts resolution.address.version = false) ∧
      resolution.network.accepts resolution.address.version = true := by
  have first := firstAcceptor_resolveAddress registry text
  rw [eq] at first
  cases first with
  | claimed read split refused accepts => exact ⟨read, _, _, split, refused, accepts⟩

/-- The id of a network leads to the network, which is then the first with this id, or to one that
stands before it. -/
lemma findById?_cases {earlier later : List Network} {first : Network}
    (split : registry.networks = earlier ++ network :: later)
    (found : registry.findById? network.id = some first) :
    (first = network ∧ ∀ other ∈ earlier, other.id ≠ network.id) ∨
      (first ∈ earlier ∧ first.id = network.id) := by
  rw [findById?_of_split split] at found
  cases search : earlier.find? (·.id = network.id) with
  | none =>
    rw [search] at found
    exact .inl ⟨(Option.some.inj found).symm, by simpa using List.find?_eq_none.mp search⟩
  | some other =>
    rw [search] at found
    cases found
    exact .inr ⟨List.mem_of_find?_eq_some search, by simpa using List.find?_some search⟩

/-- If all ids differ, the id of every network leads to it. -/
lemma findById?_of_nodup (distinct : (registry.networks.map (·.id)).Nodup)
    (mem : network ∈ registry.networks) : registry.findById? network.id = some network := by
  obtain ⟨earlier, later, split⟩ := List.append_of_mem mem
  obtain ⟨first, found⟩ := exists_findById? mem
  rcases findById?_cases split found with ⟨rfl, _⟩ | ⟨before, same⟩
  · exact found
  · rw [split, List.map_append, List.map_cons] at distinct
    have differ := (List.nodup_append.mp distinct).2.2
    exact absurd same
      (differ first.id (List.mem_map_of_mem before) network.id (List.mem_cons_self ..))

end

/-- After a run the ids of all networks differ if those of the registered ones do. -/
lemma nodup_ids_after {operations : List Operation}
    (distinct : ((initial.after operations).registered.map (·.id)).Nodup) :
    ((initial.after operations).networks.map (·.id)).Nodup := by
  have foreign : ∀ network ∈ (initial.after operations).registered,
      network.id ≠ Network.mainnet.id ∧ network.id ≠ Network.testnet.id := by
    intro network mem
    simpa [Network.isBuiltin] using foreign_after operations network mem
  rw [networks_eq_cons, List.map_cons, List.map_cons, List.nodup_cons, List.nodup_cons]
  refine ⟨?_, ?_, distinct⟩
  · intro mem
    rcases List.mem_cons.mp mem with same | mem
    · exact absurd same (by decide)
    · obtain ⟨network, mem, same⟩ := List.mem_map.mp mem
      exact (foreign network mem).1 same
  · intro mem
    obtain ⟨network, mem, same⟩ := List.mem_map.mp mem
    exact (foreign network mem).2 same

/-- If a text resolves to a network, its id leads to the first definition of the id. This is the
network itself exactly if no earlier network has the id, and exactly if the definition accepts the
version of the address. -/
theorem findById?_of_resolve {registry : Registry} {text : String} {network : Network}
    (resolved : registry.resolve text = .ok network) :
    ∃ address earlier later first,
      Address.parse none text = .ok address ∧
      registry.networks = earlier ++ network :: later ∧
      (∀ other ∈ earlier, other.accepts address.version = false) ∧
      registry.findById? network.id = some first ∧
      (first = network ↔ ∀ other ∈ earlier, other.id ≠ network.id) ∧
      (first = network ↔ first.accepts address.version = true) := by
  rw [resolve, Outcome.map_eq_ok_iff] at resolved
  obtain ⟨⟨address, network, shadowed⟩, eq, rfl⟩ := resolved
  obtain ⟨read, earlier, later, split, refused, accepts⟩ := split_of_resolveAddress eq
  have mem : network ∈ registry.networks :=
    split ▸ List.mem_append_right earlier (List.mem_cons_self ..)
  obtain ⟨first, found⟩ := exists_findById? mem
  refine ⟨address, earlier, later, first, read, split, refused, found, ?_⟩
  rcases findById?_cases split found with ⟨rfl, alone⟩ | ⟨before, same⟩
  · exact ⟨iff_of_true rfl alone, iff_of_true rfl accepts⟩
  · -- the first definition stands before the network, so it refuses what the network accepts
    have refuses : ¬ first.accepts address.version = true := by
      rw [refused first before]
      exact Bool.false_ne_true
    have different : first ≠ network := by
      rintro rfl
      exact refuses accepts
    exact ⟨iff_of_false different fun alone => alone first before same,
      iff_of_false different refuses⟩

/-- A run that registers one id twice, for different versions. -/
def doubled : List Operation :=
  [.perform (.register (.ofVersions "dup" 1 2)), .perform (.register (.ofVersions "dup" 3 4))]

/-- After the doubled run a text with the key version of the second definition resolves to it. -/
lemma resolve_doubled :
    (initial.after doubled).resolve (Address.toText ⟨3, Vector.replicate 20 0⟩)
      = .ok (.ofVersions "dup" 3 4) :=
  resolve_of_find? (Address.parse_toText _) (by decide)

/-- After the doubled run the id of that text leads to the definition that refuses its version. -/
theorem findById?_of_resolve_doubled :
    (initial.after doubled).resolve (Address.toText ⟨3, Vector.replicate 20 0⟩)
        = .ok (.ofVersions "dup" 3 4) ∧
      ∃ first, (initial.after doubled).findById? "dup" = some first ∧
        first ≠ .ofVersions "dup" 3 4 := by
  refine ⟨resolve_doubled, ?_⟩
  obtain ⟨_, _, _, first, _, _, _, found, _⟩ := findById?_of_resolve resolve_doubled
  refine ⟨first, found, ?_⟩
  have eq : some first = some (.ofVersions "dup" 1 2) := found.symm.trans (by decide)
  rw [Option.some.inj eq]
  decide

/-- What a text resolves to is not always what its id leads to. -/
theorem not_findById?_eq_resolve :
    ¬ ∀ (operations : List Operation) (text : String) (network : Network),
      (initial.after operations).resolve text = .ok network →
      (initial.after operations).findById? network.id = some network := by
  intro agree
  have found := agree doubled _ _ resolve_doubled
  exact absurd found (by decide)

end CoinAddress.Registry
