import CoinAddress.Proofs.Registry.Growth

/-!
# The order of a batch

Of networks with different ids and no version in common, at most one is ever wanted by a search
(`find?_eq_of_perm`). In which order they are registered is then seen by no search, whatever the
registry held before (`registerAll_perm`).
-/

namespace CoinAddress.Registry

section
variable {registry registry' : Registry} {batch batch' : List Network}

/-- If no two networks of a list are wanted, which one is found does not depend on their order. -/
lemma find?_eq_of_perm {wanted : Network → Bool} (perm : batch.Perm batch')
    (single : batch.Pairwise fun a b => ¬ (wanted a ∧ wanted b)) :
    batch.find? wanted = batch'.find? wanted := by
  induction perm with
  | nil => rfl
  | cons network _ ih =>
    rw [List.find?_cons, List.find?_cons, ih (List.pairwise_cons.mp single).2]
  | swap a b rest =>
    have apart : ¬ (wanted b ∧ wanted a) :=
      (List.pairwise_cons.mp single).1 a (List.mem_cons_self ..)
    rw [List.find?_cons, List.find?_cons, List.find?_cons, List.find?_cons]
    cases first : wanted b with
    | false => rfl
    | true =>
      have other : wanted a = false := Bool.eq_false_iff.mpr fun eq => apart ⟨first, eq⟩
      rw [other]
  | trans perm _ ih ih' =>
    -- the list in between has to satisfy the condition too, which does not depend on the order
    have symmetric : ∀ {a b : Network}, ¬ (wanted a ∧ wanted b) → ¬ (wanted b ∧ wanted a) :=
      fun apart both => apart both.symm
    rw [ih single, ih' ((perm.pairwise_iff symmetric).mp single)]

/-- A search that wants at most one network of a batch finds the same in whatever order the batch is
registered. -/
lemma find?_networks_registerAll_perm {wanted : Network → Bool} (perm : batch.Perm batch')
    (single : batch.Pairwise fun a b => ¬ (wanted a ∧ wanted b)) :
    (registry.registerAll batch).registry.networks.find? wanted
      = (registry.registerAll batch').registry.networks.find? wanted := by
  have kept : (added batch).Pairwise fun a b => ¬ (wanted a ∧ wanted b) :=
    single.sublist List.filter_sublist
  have sifted : (added batch).Perm (added batch') := perm.filter _
  rw [networks_registerAll, networks_registerAll, List.find?_append, List.find?_append,
    find?_eq_of_perm sifted kept]

/-- Registries in which every version is found alike resolve every text alike. -/
lemma resolve_congr (same : ∀ version, registry.networks.find? (·.accepts version)
    = registry'.networks.find? (·.accepts version)) (text : String) :
    registry.resolve text = registry'.resolve text := by
  cases read : Address.parse none text with
  | error error => rw [resolve_of_unreadable read, resolve_of_unreadable read]
  | ok address =>
    rw [resolve_of_read read, resolve_of_read read, firstToAccept, firstToAccept,
      same address.version]

end

/-- A batch of networks with different ids and no version in common can be registered in any order:
the count, the size, what a text resolves to and what an id leads to are the same. -/
theorem registerAll_perm (registry : Registry) {batch batch' : List Network}
    (distinct : batch.Pairwise fun a b => a.id ≠ b.id)
    (disjoint : batch.Pairwise fun a b => a.acceptable.Disjoint b.acceptable)
    (perm : batch.Perm batch') :
    let one := registry.registerAll batch
    let other := registry.registerAll batch'
    one.answer = other.answer ∧
    (∀ text, one.registry.resolve text = other.registry.resolve text) ∧
    (∀ id, one.registry.findById? id = other.registry.findById? id) ∧
    one.registry.size = other.registry.size := by
  intro one other
  have sifted : (added batch).Perm (added batch') := perm.filter _
  refine ⟨sifted.length_eq, ?_, ?_, ?_⟩
  · apply resolve_congr
    intro version
    apply find?_networks_registerAll_perm perm
    refine disjoint.imp fun apart both => ?_
    exact apart (Network.accepts_iff.mp both.1) (Network.accepts_iff.mp both.2)
  · intro id
    rw [findById?_eq_find?, findById?_eq_find?]
    apply find?_networks_registerAll_perm perm
    refine distinct.imp fun differ both => ?_
    exact differ ((of_decide_eq_true both.1).trans (of_decide_eq_true both.2).symm)
  · rw [size_eq_length, size_eq_length, networks_registerAll, networks_registerAll,
      (sifted.append_left _).length_eq]

/-- Networks without a common version: one with the id of a network that is registered, one with the
id of the main network, and one whose version is taken. -/
def apart : List Network :=
  [.ofVersions "alt" 48 7, .ofVersions "org.floj.production" 0x23 9, ⟨"new", 1, 2, [10, 5]⟩]

/-- Registered in either order beside a network that shares versions with two of them, the two without
a built-in id are counted, and an address of the new network resolves to it. -/
theorem registerAll_perm_apart :
    let registry : Registry := ⟨[.ofVersions "alt" 48 5]⟩
    let address : Address := ⟨10, Vector.replicate 20 0⟩
    (apart.Pairwise fun a b => a.id ≠ b.id) ∧
      (apart.Pairwise fun a b => a.acceptable.Disjoint b.acceptable) ∧
      apart.Perm apart.reverse ∧
      (registry.registerAll apart).answer = 2 ∧
      (registry.registerAll apart).answer = (registry.registerAll apart.reverse).answer ∧
      (registry.registerAll apart).registry.resolve address.toText = .ok ⟨"new", 1, 2, [10, 5]⟩ ∧
      (registry.registerAll apart).registry.resolve address.toText
        = (registry.registerAll apart.reverse).registry.resolve address.toText := by
  intro registry address
  have distinct : apart.Pairwise fun a b => a.id ≠ b.id := by decide
  have disjoint : apart.Pairwise fun a b => a.acceptable.Disjoint b.acceptable := by
    simp [apart, Network.ofVersions, List.Disjoint]
  have perm : apart.Perm apart.reverse := apart.reverse_perm.symm
  obtain ⟨count, resolve, _⟩ := registerAll_perm registry distinct disjoint perm
  have owned : (registry.registerAll apart).registry.resolve address.toText
      = .ok ⟨"new", 1, 2, [10, 5]⟩ := by
    rw [resolve_of_read address.parse_toText]
    rfl
  exact ⟨distinct, disjoint, perm, rfl, count, owned, resolve address.toText⟩

end CoinAddress.Registry
