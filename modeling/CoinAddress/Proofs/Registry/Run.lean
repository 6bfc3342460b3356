import CoinAddress.Proofs.Network
import CoinAddress.Service

/-!
# Runs of a registry

A registry is changed by requests to it and by two operations of the service. Each of them leaves it
as it is, registers a batch or removes by an id (`Operation.effect`), so what batches and removals
preserve holds of every registry that a run leads to. A removal takes out the first network with the
id, if there is one and it is not built in (`removal_unregisterId`).
-/

namespace CoinAddress.Registry

/-- What can be done with a registry. -/
inductive Operation where
  /-- The registry performs a request. -/
  | perform (request : Request)
  /-- The service registers the networks of a config document. -/
  | registerNetworks (document : String)
  /-- The service removes the first registered network with an id. -/
  | unregisterNetwork (id : String)

/-- The registry after an operation. -/
def Operation.apply (registry : Registry) : Operation → Registry
  | .perform request => (registry.perform request).registry
  | .registerNetworks document => (Service.registerNetworks registry document).registry
  | .unregisterNetwork id => (Service.unregisterNetwork registry id).registry

/-- The networks that an operation is given to register. Configs describe theirs. -/
def Operation.offered : Operation → List Network
  | .perform (.register network) => [network]
  | .perform (.registerAll batch) => batch
  | _ => []

/-- The registry after operations have been done one after another. -/
def after (registry : Registry) (operations : List Operation) : Registry :=
  operations.foldl Operation.apply registry

/-- What an operation with the offered networks can do to a registry. -/
inductive Effect (registry : Registry) (offered : List Network) : Registry → Prop where
  | nothing :
    Effect registry offered registry
  | registerAll {batch : List Network} :
    (∀ network ∈ batch, network ∈ offered ∨ network.Constructed) →
    Effect registry offered (registry.registerAll batch).registry
  | unregisterId (id : String) :
    Effect registry offered (registry.unregisterId id).registry

/-- A config has no effect or that of the batch of its networks. -/
lemma effect_registerConfig (registry : Registry) (config : Config) (offered : List Network) :
    Effect registry offered (registry.registerConfig config).registry := by
  rw [registerConfig]
  split
  case h_1 => exact .nothing
  case h_2 networks eq =>
    apply Effect.registerAll
    intro network mem
    exact .inr (Config.constructed_networks eq network mem)

/-- Every operation has one of the effects. -/
theorem Operation.effect (registry : Registry) (operation : Operation) :
    Effect registry operation.offered (operation.apply registry) := by
  cases operation with
  | perform request =>
    cases request with
    | register network => exact .registerAll fun _ mem => .inl mem
    | registerAll batch => exact .registerAll fun _ mem => .inl mem
    | registerConfig config => exact effect_registerConfig registry config _
    | unregister network => exact .unregisterId network.id
    | unregisterId id => exact .unregisterId id
    | _ => exact .nothing
  | registerNetworks document =>
    rw [apply, Service.registerNetworks]
    split
    case h_1 => exact .nothing
    case h_2 config _ => exact effect_registerConfig registry config _
  | unregisterNetwork id => exact .unregisterId id

/-- What the removal of an id comes to. -/
inductive Removal (registry : Registry) (id : String) : Change Bool → Prop where
  | refused :
    Network.isBuiltinId id = true →
    Removal registry id ⟨false, registry, [.removalRefused id]⟩
  | absent :
    Network.isBuiltinId id = false →
    (∀ network ∈ registry.registered, network.id ≠ id) →
    Removal registry id (.unchanged registry false)
  | taken {network : Network} {earlier later : List Network} :
    Network.isBuiltinId id = false →
    registry.registered = earlier ++ network :: later →
    (∀ other ∈ earlier, other.id ≠ id) →
    network.id = id →
    Removal registry id ⟨true, ⟨earlier ++ later⟩, [.removed id]⟩

/-- A removal is refused, finds nothing or takes out the first network with the id. -/
theorem removal_unregisterId (registry : Registry) (id : String) :
    Removal registry id (registry.unregisterId id) := by
  rw [unregisterId]
  split
  case isTrue builtin => exact .refused builtin
  case isFalse foreign =>
    rw [Bool.not_eq_true] at foreign
    split
    case h_1 index found =>
      obtain ⟨lt, same, first⟩ := List.findIdx?_eq_some_iff_getElem.mp found
      have split : registry.registered.take index ++ registry.registered[index] ::
          registry.registered.drop (index + 1) = registry.registered := by
        rw [List.getElem_cons_drop, List.take_append_drop]
      have others : ∀ other ∈ registry.registered.take index, other.id ≠ id := by
        intro other mem
        obtain ⟨j, before, rfl⟩ := List.mem_take_iff_getElem.mp mem
        simpa using first j (Nat.lt_of_lt_of_le before (Nat.min_le_left ..))
      rw [List.eraseIdx_eq_take_drop_succ]
      exact .taken foreign split.symm others (of_decide_eq_true same)
    case h_2 none =>
      exact .absent foreign (by simpa using List.findIdx?_eq_none_iff.mp none)

/-- Removing by an id leaves the other networks in their order. -/
lemma registered_unregisterId_sublist (registry : Registry) (id : String) :
    (registry.unregisterId id).registry.registered.Sublist registry.registered := by
  have removal := removal_unregisterId registry id
  generalize registry.unregisterId id = change at removal ⊢
  cases removal with
  | refused => exact .refl _
  | absent => exact .refl _
  | @taken network earlier later _ split =>
    rw [split]
    exact (List.sublist_cons_self network later).append_left earlier

end CoinAddress.Registry
