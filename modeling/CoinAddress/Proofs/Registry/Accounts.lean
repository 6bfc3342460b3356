import CoinAddress.Proofs.Config.Loading
import CoinAddress.Proofs.Registry.Batch
import CoinAddress.Proofs.Registry.Growth

/-!
# Accounts of a run

A registry can be told from the requests that were made of it and the replies that they got. Each
exchange accounts for the difference that it makes to the ids and to the size (`account_perform`), and
so a run from the initial registry accounts for all there is (`account_run`).
-/

namespace CoinAddress.Registry

/-- A request and the reply to it. -/
structure Exchange where
  request : Request
  reply : Reply

namespace Exchange

/-- The ids of the networks that were to be registered. Those of a config count if it was taken. -/
def offered : Exchange → List String
  | ⟨.register network, _⟩ => [network.id]
  | ⟨.registerAll batch, _⟩ => batch.map (·.id)
  | ⟨.registerConfig config, .appended _⟩ => config.entries.map (·.id)
  | _ => []

/-- How many networks were appended by the reply. -/
def appended : Exchange → Nat
  | ⟨.register _, .done true⟩ => 1
  | ⟨.registerAll _, .appended count⟩ => count
  | ⟨.registerConfig _, .appended count⟩ => count
  | _ => 0

/-- The id that was removed by the reply, if it tells of a removal. -/
def removed : Exchange → List String
  | ⟨.unregister network, .done true⟩ => [network.id]
  | ⟨.unregisterId id, .done true⟩ => [id]
  | _ => []

end Exchange

/-- The exchanges of a run. -/
def exchanges (registry : Registry) (requests : List Request) : List Exchange :=
  List.zipWith Exchange.mk requests ((registry.run requests).map (·.answer))

/-- The ids of all networks, each as often as it occurs. -/
def ids (registry : Registry) : List String :=
  registry.networks.map (·.id)

/-- Exchanges account for the difference between the registries before and after them. -/
structure Account (before : Registry) (exchanges : List Exchange) (after : Registry) : Prop where
  /-- What was offered of an id and what was removed of it balance. -/
  count : ∀ id, Network.isBuiltinId id = false →
    after.ids.count id + (exchanges.flatMap Exchange.removed).count id
      = before.ids.count id + (exchanges.flatMap Exchange.offered).count id
  /-- What was appended and what was removed balance. -/
  size : after.size + (exchanges.flatMap Exchange.removed).length
    = before.size + (exchanges.map Exchange.appended).sum

section
variable {before between after registry : Registry} {exchange : Exchange} {id : String}

/-- Accounts of exchanges one after the other add up. -/
lemma Account.trans {first second : List Exchange} (account : Account before first between)
    (account' : Account between second after) : Account before (first ++ second) after := by
  constructor
  · intro id foreign
    have left := account.count id foreign
    have right := account'.count id foreign
    rw [List.flatMap_append, List.flatMap_append, List.count_append, List.count_append]
    omega
  · have left := account.size
    have right := account'.size
    rw [List.flatMap_append, List.map_append, List.length_append, List.sum_append]
    omega

/-- One exchange accounts for a difference if it balances on its own. -/
lemma Account.single
    (count : ∀ id, Network.isBuiltinId id = false →
      after.ids.count id + exchange.removed.count id
        = before.ids.count id + exchange.offered.count id)
    (size : after.size + exchange.removed.length = before.size + exchange.appended) :
    Account before [exchange] after := by
  constructor
  · intro id foreign
    rw [List.flatMap_singleton, List.flatMap_singleton]
    exact count id foreign
  · rw [List.flatMap_singleton, List.map_singleton, List.sum_singleton]
    exact size

/-- An exchange that tells of no change accounts for none. -/
lemma Account.unchanged (offered : exchange.offered = []) (appended : exchange.appended = 0)
    (removed : exchange.removed = []) : Account registry [exchange] registry := by
  apply Account.single
  · intro id _
    rw [offered, removed]
  · rw [appended, removed]
    rfl

/-- A batch adds all that it offers of an id, unless the id is built in. -/
lemma count_ids_registerAll (registry : Registry) (batch : List Network)
    (foreign : Network.isBuiltinId id = false) :
    (registry.registerAll batch).registry.ids.count id
      = registry.ids.count id + (batch.map (·.id)).count id := by
  have kept : ((added batch).map (·.id)).count id = (batch.map (·.id)).count id := by
    have moved : (added batch).map (·.id)
        = (batch.map (·.id)).filter (!Network.isBuiltinId ·) := by
      rw [List.filter_map]
      rfl
    rw [moved, List.count_filter (by rw [foreign]; rfl)]
  rw [ids, networks_registerAll, List.map_append, List.count_append, kept]
  rfl

/-- A batch makes the registry larger by the count that is answered. -/
lemma size_registerAll (registry : Registry) (batch : List Network) :
    (registry.registerAll batch).registry.size
      = registry.size + (registry.registerAll batch).answer := by
  rw [size, size, Nat.add_assoc]
  exact congrArg _ List.length_append

/-- An exchange that offers the networks of a batch and has its count accounts for the batch. -/
lemma account_registerAll (batch : List Network) (offered : exchange.offered = batch.map (·.id))
    (appended : exchange.appended = (registry.registerAll batch).answer)
    (removed : exchange.removed = []) :
    Account registry [exchange] (registry.registerAll batch).registry := by
  apply Account.single
  · intro id foreign
    rw [offered, removed, count_ids_registerAll registry batch foreign]
    rfl
  · rw [appended, removed, size_registerAll]
    rfl

/-- Only registered networks have an id that is not built in. -/
lemma count_ids_of_foreign (registry : Registry) (foreign : Network.isBuiltinId id = false) :
    registry.ids.count id = (registry.registered.map (·.id)).count id := by
  rw [ids, networks, List.map_append, List.count_append,
    List.count_eq_zero.mpr (Network.isBuiltinId_eq_false_iff.mp foreign), Nat.zero_add]

/-- A removal of an id that is not built in fails exactly if no network has the id. -/
lemma answer_unregisterId_eq_false_iff (registry : Registry)
    (foreign : Network.isBuiltinId id = false) :
    (registry.unregisterId id).answer = false ↔ registry.ids.count id = 0 := by
  rw [count_ids_of_foreign registry foreign, List.count_eq_zero, List.mem_map]
  have removal := removal_unregisterId registry id
  generalize registry.unregisterId id = change at removal ⊢
  cases removal with
  | refused builtin => rw [foreign] at builtin; cases builtin
  | absent _ none =>
    refine iff_of_true rfl ?_
    rintro ⟨network, mem, same⟩
    exact none network mem same
  | @taken network earlier later _ split _ same =>
    refine iff_of_false nofun fun none => none ⟨network, ?_, same⟩
    rw [split]
    exact List.mem_append_right earlier (List.mem_cons_self ..)

/-- An exchange that tells of a removal exactly if it succeeds accounts for the removal. -/
lemma account_unregisterId (id : String) (offered : exchange.offered = [])
    (appended : exchange.appended = 0)
    (removed : exchange.removed = if (registry.unregisterId id).answer then [id] else []) :
    Account registry [exchange] (registry.unregisterId id).registry := by
  have removal := removal_unregisterId registry id
  generalize registry.unregisterId id = change at removal removed ⊢
  cases removal with
  | refused => exact .unchanged offered appended removed
  | absent => exact .unchanged offered appended removed
  | @taken network earlier later foreign split _ same =>
    rw [if_pos rfl] at removed
    apply Account.single
    · intro id' foreign'
      rw [offered, removed, count_ids_of_foreign _ foreign', count_ids_of_foreign _ foreign', split,
        List.map_append, List.map_append, List.map_cons, List.count_append, List.count_append, same,
        List.count_cons, List.count_cons, List.count_nil]
      omega
    · rw [appended, removed, size, size, split, List.length_append, List.length_append]
      simp only [List.length_cons, List.length_nil]
      omega

end

/-- Every exchange accounts for what it does to the registry. -/
theorem account_perform (registry : Registry) (request : Request) :
    Account registry [⟨request, (registry.perform request).answer⟩]
      (registry.perform request).registry := by
  cases request with
  | register network =>
    apply account_registerAll [network] rfl ?_ rfl
    rw [answer_registerAll_singleton]
    show Exchange.appended ⟨_, .done (registry.register network).answer⟩ = _
    cases (registry.register network).answer <;> rfl
  | registerAll batch => exact account_registerAll batch rfl rfl rfl
  | registerConfig config =>
    rw [perform, registerConfig]
    cases defined : config.networks with
    | error invalid => exact .unchanged rfl rfl rfl
    | ok networks =>
      apply account_registerAll networks ?_ rfl rfl
      rw [← (Config.networks_eq_ok_iff.mp defined).2, List.map_map]
      exact List.map_congr_left fun entry _ => entry.id_described.symm
  | unregister network =>
    apply account_unregisterId network.id rfl rfl
    show Exchange.removed ⟨_, .done (registry.unregisterId network.id).answer⟩ = _
    cases (registry.unregisterId network.id).answer <;> rfl
  | unregisterId id =>
    apply account_unregisterId id rfl rfl
    show Exchange.removed ⟨_, .done (registry.unregisterId id).answer⟩ = _
    cases (registry.unregisterId id).answer <;> rfl
  | _ => exact .unchanged rfl rfl rfl

/-- The exchanges of a run account for what the run does to the registry. -/
theorem account_run (registry : Registry) (requests : List Request) :
    Account registry (registry.exchanges requests) (registry.after (requests.map .perform)) := by
  induction requests generalizing registry with
  | nil => exact ⟨fun _ _ => rfl, rfl⟩
  | cons request requests ih =>
    exact (account_perform registry request).trans (ih (registry.perform request).registry)

/-- After a run from the initial registry, an id that is not built in occurs as often as it was
offered, less its removals that succeeded, and one more removal of it fails exactly if it does not
occur. The size is two with all counts that were answered, less the removals that succeeded. -/
theorem replies_account_for_networks (requests : List Request) :
    let registry := initial.after (requests.map .perform)
    let exchanges := initial.exchanges requests
    (∀ id, id ∉ Network.builtins.map (·.id) →
      registry.ids.count id + (exchanges.flatMap Exchange.removed).count id
        = (exchanges.flatMap Exchange.offered).count id ∧
      ((registry.perform (.unregisterId id)).answer = .done false ↔ registry.ids.count id = 0) ∧
      (∀ network, network.id = id →
        ((registry.perform (.unregister network)).answer = .done false
          ↔ registry.ids.count id = 0))) ∧
    registry.size + (exchanges.flatMap Exchange.removed).length
      = 2 + (exchanges.map Exchange.appended).sum := by
  intro registry exchanges
  have account := account_run initial requests
  refine ⟨?_, account.size⟩
  intro id foreign
  have notBuiltin := Network.isBuiltinId_eq_false_iff.mpr foreign
  have fails : (registry.perform (.unregisterId id)).answer = .done false
      ↔ registry.ids.count id = 0 := by
    rw [← answer_unregisterId_eq_false_iff registry notBuiltin]
    exact ⟨Reply.done.inj, congrArg Reply.done⟩
  refine ⟨?_, fails, ?_⟩
  · have before : initial.ids.count id = 0 := List.count_eq_zero.mpr foreign
    have balance := account.count id notBuiltin
    rw [before, Nat.zero_add] at balance
    exact balance
  · rintro network rfl
    exact fails

/-- A run that registers one id five times, once in vain, and removes it twice. -/
def recurring : List Request :=
  [.registerAll [.ofVersions "dup" 1 2, .ofVersions "org.floj.test" 3 4, .ofVersions "dup" 5 6],
    .registerConfig ⟨[⟨"dup", 7, 8, none⟩, ⟨"bad", 9, 9, some []⟩]⟩,
    .registerConfig ⟨[⟨"org.floj.test", 7, 8, none⟩, ⟨"dup", 9, 9, none⟩]⟩,
    .unregisterId "dup", .register (.ofVersions "dup" 10 11), .unregisterId "org.floj.test",
    .unregister (.ofVersions "dup" 0 0), .unregisterId "other"]

/-- After the recurring run the id occurs twice, and there are four networks. -/
theorem replies_account_for_networks_recurring :
    "dup" ∉ Network.builtins.map (·.id) ∧
      (initial.after (recurring.map .perform)).ids.count "dup" + 2 = 4 ∧
      (initial.after (recurring.map .perform)).size + 2 = 2 + 4 := by
  have foreign : "dup" ∉ Network.builtins.map (·.id) := by decide
  obtain ⟨count, size⟩ := replies_account_for_networks recurring
  exact ⟨foreign, (count "dup" foreign).1, size⟩

end CoinAddress.Registry
