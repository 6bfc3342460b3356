import CoinAddress.Proofs.Registry.Run
import Mathlib.Tactic.FinCases

/-!
# Views of a registry

A run keeps the built-in networks in front, no registered network has the id of a built-in one, and
every list of versions is proper (`WellFormed`). The searches are written each in their own way, and
all of them are views of the one list `networks` (`views_after`).
-/

namespace CoinAddress.Registry

/-- What holds of the registered networks at all times. -/
structure WellFormed (registry : Registry) : Prop where
  /-- No registered network counts as built in. -/
  foreign : ∀ network ∈ registry.registered, network.isBuiltin = false
  /-- Each registered network has a proper list of versions. -/
  proper : ∀ network ∈ registry.registered, network.Proper

/-- The networks that operations are given to register are ones that can be made. -/
def Feasible (operations : List Operation) : Prop :=
  ∀ operation ∈ operations, ∀ network ∈ operation.offered, network.Constructed

/-- Without registered networks a registry is well-formed. -/
lemma wellFormed_initial : initial.WellFormed :=
  ⟨nofun, nofun⟩

section
variable {registry registry' : Registry}

/-- A batch adds no network that counts as built in, whatever it offers. -/
lemma foreign_registerAll {batch : List Network}
    (foreign : ∀ network ∈ registry.registered, network.isBuiltin = false) :
    ∀ network ∈ (registry.registerAll batch).registry.registered, network.isBuiltin = false := by
  intro network mem
  rcases List.mem_append.mp mem with old | new
  · exact foreign network old
  · obtain ⟨_, accepted⟩ := List.mem_filter.mp new
    rw [← Network.isBuiltinId_id]
    simpa using accepted

/-- A batch of networks with proper lists leaves a registry well-formed. -/
lemma WellFormed.registerAll {batch : List Network} (wf : registry.WellFormed)
    (proper : ∀ network ∈ batch, network.Proper) :
    (registry.registerAll batch).registry.WellFormed := by
  refine ⟨foreign_registerAll wf.foreign, ?_⟩
  intro network mem
  rcases List.mem_append.mp mem with old | new
  · exact wf.proper network old
  · exact proper network (List.mem_of_mem_filter new)

/-- A removal leaves a registry well-formed. -/
lemma WellFormed.unregisterId (wf : registry.WellFormed) (id : String) :
    (registry.unregisterId id).registry.WellFormed := by
  have kept := registered_unregisterId_sublist registry id
  refine ⟨?_, ?_⟩
  · intro network mem
    exact wf.foreign network (kept.mem mem)
  · intro network mem
    exact wf.proper network (kept.mem mem)

/-- An operation that is offered networks that can be made leaves a registry well-formed. -/
lemma WellFormed.effect {offered : List Network} (wf : registry.WellFormed)
    (constructed : ∀ network ∈ offered, network.Constructed)
    (effect : Effect registry offered registry') : registry'.WellFormed := by
  cases effect with
  | nothing => exact wf
  | registerAll origin =>
    apply wf.registerAll
    intro network mem
    -- a network is offered by the caller or made for an entry of a config
    rcases origin network mem with given | made
    · exact (constructed network given).proper
    · exact made.proper
  | unregisterId id => exact wf.unregisterId id

end

/-- Every registry that a run leads to is well-formed. -/
theorem wellFormed_after {operations : List Operation} (feasible : Feasible operations) :
    (initial.after operations).WellFormed := by
  apply List.foldlRecOn (motive := WellFormed) operations Operation.apply wellFormed_initial
  intro registry wf operation mem
  exact wf.effect (feasible operation mem) (operation.effect registry)

/-- A run registers no network that counts as built in, not even if it is given networks that nobody
can make. -/
theorem foreign_after (operations : List Operation) :
    ∀ network ∈ (initial.after operations).registered, network.isBuiltin = false := by
  refine List.foldlRecOn (motive := fun registry : Registry =>
    ∀ network ∈ registry.registered, network.isBuiltin = false) operations Operation.apply ?_ ?_
  · intro network mem
    cases mem
  · intro registry foreign operation _
    have effect := operation.effect registry
    generalize operation.apply registry = registry' at effect ⊢
    cases effect with
    | nothing => exact foreign
    | registerAll => exact foreign_registerAll foreign
    | unregisterId id =>
      intro network mem
      exact foreign network ((registered_unregisterId_sublist registry id).mem mem)

/-- In a well-formed registry the first two networks count as built in and no other does. -/
lemma WellFormed.isBuiltin_iff {registry : Registry} (wf : registry.WellFormed) {index : Nat}
    {network : Network} (at_index : registry.networks[index]? = some network) :
    network.isBuiltin ↔ index < 2 := by
  match index with
  | 0 =>
    cases at_index
    exact ⟨fun _ => by decide, fun _ => by decide⟩
  | 1 =>
    cases at_index
    exact ⟨fun _ => by decide, fun _ => by decide⟩
  | index + 2 =>
    have mem : network ∈ registry.registered := List.mem_of_getElem? at_index
    rw [wf.foreign network mem]
    exact ⟨nofun, fun lt => by omega⟩

/-- In a well-formed registry every network has a proper list of versions. -/
lemma WellFormed.proper_networks {registry : Registry} (wf : registry.WellFormed) :
    ∀ network ∈ registry.networks, network.Proper := by
  intro network mem
  rcases List.mem_append.mp mem with builtin | registered
  · rcases List.mem_pair.mp builtin with rfl | rfl
    · exact Network.Constructed.mainnet.proper
    · exact Network.Constructed.testnet.proper
  · exact wf.proper network registered

/-- The size counts the list of networks. -/
lemma size_eq_length (registry : Registry) : registry.size = registry.networks.length := by
  rw [size, networks, List.length_append]

/-- Searching the two parts one after the other finds the first of all networks with an id. -/
lemma findById?_eq_find? (registry : Registry) (id : String) :
    registry.findById? id = registry.networks.find? (·.id = id) := by
  rw [findById?, networks, List.find?_append]
  cases Network.builtins.find? (·.id = id) <;> rfl

section
variable {registry : Registry} {network : Network}

/-- The definition that an id leads to has this id. -/
lemma id_of_findById? {id : String} (found : registry.findById? id = some network) :
    network.id = id := by
  rw [findById?_eq_find?] at found
  simpa using List.find?_some found

/-- The id of a network leads to an earlier definition of it, if there is one, and else to it. -/
lemma findById?_of_split {earlier later : List Network}
    (split : registry.networks = earlier ++ network :: later) :
    registry.findById? network.id = (earlier.find? (·.id = network.id)).or (some network) := by
  rw [findById?_eq_find?, split, List.find?_append]
  congr 1
  exact List.find?_cons_of_pos (decide_eq_true rfl)

/-- The id of every network leads to a definition. -/
lemma exists_findById? (mem : network ∈ registry.networks) :
    ∃ first, registry.findById? network.id = some first := by
  obtain ⟨earlier, later, split⟩ := List.append_of_mem mem
  rw [findById?_of_split split]
  exact Option.isSome_iff_exists.mp (by simp)

end

/-- In every registry that a run leads to, the networks are the two built-in ones, which alone count
as built in, and the registered ones, all with proper lists of versions; and the size, the search by
version and the search by id are views of their list. -/
theorem views_after (operations : List Operation) (feasible : Feasible operations) :
    let registry := initial.after operations
    registry.networks = [.mainnet, .testnet] ++ registry.registered ∧
    (∀ index network, registry.networks[index]? = some network →
      (network.isBuiltin ↔ index < 2)) ∧
    (∀ network ∈ registry.networks, network.acceptable ≠ [] ∧ network.acceptable.Nodup) ∧
    registry.size = registry.networks.length ∧
    (∀ version, registry.findByVersion version = registry.networks.filter (·.accepts version)) ∧
    (∀ id, registry.findById? id = registry.networks.find? (·.id = id)) := by
  intro registry
  have wf : registry.WellFormed := wellFormed_after feasible
  refine ⟨rfl, ?_, ?_, size_eq_length registry, fun _ => rfl, findById?_eq_find? registry⟩
  · intro index network at_index
    exact wf.isBuiltin_iff at_index
  · intro network mem
    have proper := wf.proper_networks network mem
    exact ⟨proper.nonempty, proper.nodup⟩

/-- A run that tries to take the id of a built-in network, registers one id twice and removes it
once. -/
def contested : List Operation :=
  [.perform (.registerAll [.ofVersions "org.floj.test" 1 2, .ofVersions "alt" 3 4]),
    .perform (.register (.ofVersions "alt" 48 5)), .perform (.unregisterId "org.floj.test"),
    .unregisterNetwork "alt"]

/-- After the contested run the second network with the id is the one that is found. -/
theorem views_after_contested :
    Feasible contested ∧ (initial.after contested).size = 3 ∧
      (initial.after contested).findById? "alt" = some ⟨"alt", 48, 5, [48, 5]⟩ := by
  have feasible : Feasible contested := by
    intro operation mem network offered
    fin_cases mem <;> fin_cases offered <;> exact .ofVersions ..
  obtain ⟨_, _, _, size, _, byId⟩ := views_after contested feasible
  exact ⟨feasible, size.trans (by decide), (byId "alt").trans (by decide)⟩

end CoinAddress.Registry
