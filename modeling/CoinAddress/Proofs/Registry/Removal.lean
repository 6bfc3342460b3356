import CoinAddress.Proofs.Registry.Growth

/-!
# Removal from a registry

A removal erases the first registered network with an id and leaves all others in their places
(`unregisterId_of_cut`). So each version loses this one network from its acceptors, if it had it,
and only texts that resolved to it go to another network, the next acceptor (`Withdrawal`). A
registration is undone by the removal of its id, unless an older network has the id and goes first
(`unregisterId_erases_first`).
-/

namespace CoinAddress.Registry

/-- A list of networks is cut at the first one with an id. -/
structure Cut (id : String) (networks earlier : List Network) (network : Network)
    (later : List Network) : Prop where
  /-- The network stands between the two parts. -/
  split : networks = earlier ++ network :: later
  /-- No network before it has the id. -/
  first : ∀ other ∈ earlier, other.id ≠ id
  /-- The network has the id. -/
  same : network.id = id

/-- The first registered network with an id is withdrawn, and nothing else is changed. -/
structure Withdrawal (registry : Registry) (id : String) (network : Network) (after : Registry) :
    Prop where
  /-- The registry is cut at the network, and the parts are joined. -/
  erased : ∃ earlier later, Cut id registry.registered earlier network later ∧
    after.registered = earlier ++ later
  /-- A version loses the network, if the network accepted it, and no other. -/
  acceptors : ∀ version, after.findByVersion version =
    if network.accepts version then (registry.findByVersion version).erase network
    else registry.findByVersion version
  /-- A text that did not resolve to the network resolves as before. -/
  kept : ∀ text, registry.resolve text ≠ .ok network →
    after.resolve text = registry.resolve text
  /-- A text that did resolves to the next network that accepted its version, if there is one. -/
  passed : ∀ text, registry.resolve text = .ok network → ∃ address others,
    Address.parse none text = .ok address ∧
    registry.findByVersion address.version = network :: others ∧
    after.resolve text = firstToAccept others address.version

section
variable {id text : String} {version : UInt8} {networks earlier later : List Network}
  {network : Network}

/-- Networks can be cut at the first one with an id, if there is one. -/
lemma exists_cut (mem : ∃ network ∈ networks, network.id = id) :
    ∃ earlier network later, Cut id networks earlier network later := by
  obtain ⟨network, mem, same⟩ := mem
  have found : (networks.find? (·.id = id)).isSome :=
    List.find?_isSome.mpr ⟨network, mem, decide_eq_true same⟩
  obtain ⟨first, search⟩ := Option.isSome_iff_exists.mp found
  obtain ⟨same, earlier, later, split, others⟩ := List.find?_eq_some_iff_append.mp search
  exact ⟨earlier, first, later, split, by simpa using others, of_decide_eq_true same⟩

/-- Networks that are added at the end do not move the cut. -/
lemma Cut.append (cut : Cut id networks earlier network later) (networks' : List Network) :
    Cut id (networks ++ networks') earlier network (later ++ networks') := by
  refine ⟨?_, cut.first, cut.same⟩
  rw [cut.split, List.append_assoc, List.cons_append]

/-- A network in front that accepts the version is the first to do so. -/
lemma firstToAccept_cons (accepts : network.accepts version = true) :
    firstToAccept (network :: networks) version = .ok network := by
  rw [firstToAccept, List.find?_cons, accepts]

/-- Networks that refuse the version may be left out of the search. -/
lemma firstToAccept_filter :
    firstToAccept (networks.filter (·.accepts version)) version
      = firstToAccept networks version := by
  simp only [firstToAccept, List.find?_filter, and_self, Bool.decide_eq_true]

/-- Of networks that all accept the version, the first one is found. -/
lemma exists_cons_of_firstToAccept (accept : ∀ network ∈ networks, network.accepts version = true)
    (eq : firstToAccept networks version = .ok network) :
    ∃ others, networks = network :: others := by
  cases networks with
  | nil => cases eq
  | cons head others =>
    rw [firstToAccept_cons (accept head (List.mem_cons_self ..))] at eq
    cases eq
    exact ⟨others, rfl⟩

/-- Of networks that all accept the version, any other than the first may be erased. -/
lemma firstToAccept_erase (accept : ∀ network ∈ networks, network.accepts version = true)
    (differ : firstToAccept networks version ≠ .ok network) :
    firstToAccept (networks.erase network) version = firstToAccept networks version := by
  cases networks with
  | nil => rfl
  | cons head others =>
    have accepts := accept head (List.mem_cons_self ..)
    have other : ¬ (head == network) = true := by
      intro same
      rw [eq_of_beq same] at accepts differ
      exact differ (firstToAccept_cons accepts)
    rw [List.erase_cons_tail other, firstToAccept_cons accepts, firstToAccept_cons accepts]

end

section
variable {registry after : Registry} {id text : String} {earlier later : List Network}
  {network : Network}

/-- What the search by version lists accepts the version. -/
lemma accepts_of_mem_findByVersion {version : UInt8} :
    ∀ network ∈ registry.findByVersion version, network.accepts version = true :=
  fun _ mem => (List.mem_filter.mp mem).2

/-- What an address resolves to is the first of the networks that accept its version. -/
lemma resolve_eq_firstToAccept {address : Address} (read : Address.parse none text = .ok address) :
    registry.resolve text
      = firstToAccept (registry.findByVersion address.version) address.version := by
  rw [resolve_of_read read]
  exact firstToAccept_filter.symm

/-- A removal takes out the network at which the id cuts the registered ones. -/
lemma unregisterId_of_cut (foreign : Network.isBuiltinId id = false)
    (cut : Cut id registry.registered earlier network later) :
    registry.unregisterId id = ⟨true, ⟨earlier ++ later⟩, [.removed id]⟩ := by
  have passed : earlier.findIdx? (·.id = id) = none := by
    simpa [List.findIdx?_eq_none_iff] using cut.first
  have found : registry.registered.findIdx? (·.id = id) = some earlier.length := by
    rw [cut.split, List.findIdx?_append, passed, List.findIdx?_cons,
      if_pos (decide_eq_true cut.same), Option.none_or, Option.map_some, Nat.zero_add]
  have erased : registry.registered.eraseIdx earlier.length = earlier ++ later := by
    rw [cut.split, List.eraseIdx_append_of_length_le (Nat.le_refl _), Nat.sub_self,
      List.eraseIdx_cons_zero]
  rw [unregisterId, foreign, if_neg Bool.false_ne_true, found]
  dsimp only
  rw [erased]

/-- The network at the cut is none of those before it, built in or registered. -/
lemma Cut.not_mem (foreign : Network.isBuiltinId id = false)
    (cut : Cut id registry.registered earlier network later) :
    network ∉ Network.builtins ++ earlier := by
  intro mem
  rcases List.mem_append.mp mem with builtin | before
  · apply Network.isBuiltinId_eq_false_iff.mp foreign
    exact List.mem_map.mpr ⟨network, builtin, cut.same⟩
  · exact cut.first network before cut.same

/-- To join the two parts is to erase the network from the list of all networks. -/
lemma Cut.networks_eq (foreign : Network.isBuiltinId id = false)
    (cut : Cut id registry.registered earlier network later)
    (joined : after.registered = earlier ++ later) :
    after.networks = registry.networks.erase network := by
  -- the first network that equals the one at the cut is erased, so none may stand before it
  rw [networks, networks, joined, cut.split, ← List.append_assoc, ← List.append_assoc,
    List.erase_append_right _ (cut.not_mem foreign), List.erase_cons_head]

/-- A network that is erased from the list of all networks is erased from all lists of acceptors. -/
lemma findByVersion_of_erase (erased : after.networks = registry.networks.erase network)
    (version : UInt8) :
    after.findByVersion version = (registry.findByVersion version).erase network := by
  show after.networks.filter _ = (registry.networks.filter _).erase network
  rw [erased, List.erase_filter]

/-- A text that resolved to another network than the one that is erased resolves as before. -/
lemma resolve_of_erase_of_ne (erased : after.networks = registry.networks.erase network)
    (differ : registry.resolve text ≠ .ok network) :
    after.resolve text = registry.resolve text := by
  cases read : Address.parse none text with
  | error error => rw [resolve_of_unreadable read, resolve_of_unreadable read]
  | ok address =>
    rw [resolve_eq_firstToAccept read] at differ
    rw [resolve_eq_firstToAccept read, resolve_eq_firstToAccept read,
      findByVersion_of_erase erased, firstToAccept_erase accepts_of_mem_findByVersion differ]

/-- A text that resolved to the network that is erased resolves to the next acceptor. -/
lemma resolve_of_erase (erased : after.networks = registry.networks.erase network)
    (resolved : registry.resolve text = .ok network) : ∃ address others,
    Address.parse none text = .ok address ∧
    registry.findByVersion address.version = network :: others ∧
    after.resolve text = firstToAccept others address.version := by
  cases read : Address.parse none text with
  | error error =>
    rw [resolve_of_unreadable read] at resolved
    cases resolved
  | ok address =>
    rw [resolve_eq_firstToAccept read] at resolved
    obtain ⟨others, found⟩ := exists_cons_of_firstToAccept accepts_of_mem_findByVersion resolved
    refine ⟨address, others, rfl, found, ?_⟩
    rw [resolve_eq_firstToAccept read, findByVersion_of_erase erased, found, List.erase_cons_head]

/-- To join the two parts is to withdraw the network. -/
lemma Cut.withdrawal (foreign : Network.isBuiltinId id = false)
    (cut : Cut id registry.registered earlier network later)
    (joined : after.registered = earlier ++ later) : Withdrawal registry id network after := by
  have erased := cut.networks_eq foreign joined
  refine ⟨⟨earlier, later, cut, joined⟩, ?_, ?_, ?_⟩
  · intro version
    rw [findByVersion_of_erase erased]
    split
    case isTrue => rfl
    case isFalse refuses =>
      exact List.erase_of_not_mem fun mem => refuses (accepts_of_mem_findByVersion network mem)
  · intro text differ
    exact resolve_of_erase_of_ne erased differ
  · intro text resolved
    exact resolve_of_erase erased resolved

/-- A removal withdraws a network if a registered one has the id and no built-in one, and else it
does nothing. -/
lemma unregisterId_cases (registry : Registry) (id : String) :
    let removal := registry.unregisterId id
    let removable := id ∉ Network.builtins.map (·.id) ∧
      ∃ network ∈ registry.registered, network.id = id
    (removable ∧ removal.answer = true ∧
      ∃ network, Withdrawal registry id network removal.registry) ∨
    (¬ removable ∧ removal.answer = false ∧ removal.registry = registry) := by
  intro removal removable
  have outcome : Removal registry id removal := removal_unregisterId registry id
  generalize removal = change at outcome ⊢
  cases outcome with
  | refused builtin =>
    refine .inr ⟨?_, rfl, rfl⟩
    rintro ⟨foreign, _⟩
    exact foreign (Network.isBuiltinId_iff.mp builtin)
  | absent _ none =>
    refine .inr ⟨?_, rfl, rfl⟩
    rintro ⟨_, network, mem, same⟩
    exact none network mem same
  | @taken network earlier later foreign split first same =>
    have cut : Cut id registry.registered earlier network later := ⟨split, first, same⟩
    have mem : network ∈ registry.registered :=
      split ▸ List.mem_append_right earlier (List.mem_cons_self ..)
    exact .inl ⟨⟨Network.isBuiltinId_eq_false_iff.mp foreign, network, mem, same⟩, rfl, network,
      cut.withdrawal foreign rfl⟩

/-- A network with a built-in id is not registered. -/
lemma register_of_builtin (builtin : Network.isBuiltinId network.id = true) :
    (registry.register network).registry = registry := by
  show Registry.mk (registry.registered ++ [network].filter (!Network.isBuiltinId ·.id)) = registry
  rw [List.filter_singleton, builtin]
  exact congrArg Registry.mk (List.append_nil _)

/-- Any other network is registered last. -/
lemma register_of_foreign (foreign : Network.isBuiltinId network.id = false) :
    (registry.register network).registry = ⟨registry.registered ++ [network]⟩ := by
  show Registry.mk (registry.registered ++ [network].filter (!Network.isBuiltinId ·.id)) = _
  rw [List.filter_singleton, foreign]
  rfl

/-- A registration is undone by the removal of its id, if the id is built in or new. -/
lemma unregisterId_register_of_new
    (new : network.id ∈ Network.builtins.map (·.id) ∨
      ∀ other ∈ registry.registered, other.id ≠ network.id) :
    ((registry.register network).registry.unregisterId network.id).registry = registry := by
  cases builtin : Network.isBuiltinId network.id with
  | true =>
    rw [register_of_builtin builtin, unregisterId, if_pos builtin]
  | false =>
    have first := new.resolve_left (Network.isBuiltinId_eq_false_iff.mp builtin)
    -- no other network has the id, so the cut is behind all that were registered before
    have cut : Cut network.id (registry.registered ++ [network]) registry.registered network [] :=
      ⟨rfl, first, rfl⟩
    rw [register_of_foreign builtin, unregisterId_of_cut builtin cut, List.append_nil]

/-- If an older network has the id, it is the one that is removed, and the new one stays last. -/
lemma unregisterId_register_of_cut {old : Network}
    (foreign : Network.isBuiltinId network.id = false)
    (cut : Cut network.id registry.registered earlier old later) :
    ((registry.register network).registry.unregisterId network.id).registry
      = ⟨earlier ++ later ++ [network]⟩ := by
  rw [register_of_foreign foreign, unregisterId_of_cut foreign (cut.append [network]),
    List.append_assoc]

end

/-- A removal succeeds exactly if the id is not built in and a registered network has it. It then
withdraws the first of these networks, and else it changes nothing. Registering a network and
removing its id restores the registry, if the id is built in or was not registered before. If it was,
the earliest network with the id is erased, and the new one is the last. -/
theorem unregisterId_erases_first (registry : Registry) (id : String) :
    let removal := registry.unregisterId id
    (removal.answer = true ↔ id ∉ Network.builtins.map (·.id) ∧
      ∃ network ∈ registry.registered, network.id = id) ∧
    (removal.answer = true → ∃ network, Withdrawal registry id network removal.registry) ∧
    (removal.answer = false → removal.registry = registry) ∧
    (∀ network, network.id = id →
      let restored := ((registry.register network).registry.unregisterId id).registry
      let new := id ∈ Network.builtins.map (·.id) ∨ ∀ other ∈ registry.registered, other.id ≠ id
      (new → restored = registry) ∧
      (¬ new → ∃ earlier old later, Cut id registry.registered earlier old later ∧
        restored.registered = earlier ++ later ++ [network])) := by
  intro removal
  have outcome := unregisterId_cases registry id
  refine ⟨?_, ?_, ?_, ?_⟩
  · rcases outcome with ⟨removable, success, _⟩ | ⟨irremovable, failure, _⟩
    · exact iff_of_true success removable
    · exact iff_of_false (Bool.eq_false_iff.mp failure) irremovable
  · intro success
    rcases outcome with ⟨_, _, withdrawal⟩ | ⟨_, failure, _⟩
    · exact withdrawal
    · cases failure.symm.trans success
  · intro failure
    rcases outcome with ⟨_, success, _⟩ | ⟨_, _, unchanged⟩
    · cases success.symm.trans failure
    · exact unchanged
  · rintro network rfl restored new
    refine ⟨unregisterId_register_of_new, ?_⟩
    intro known
    obtain ⟨foreign, older⟩ := not_or.mp known
    obtain ⟨earlier, old, later, cut⟩ := exists_cut (by simpa using older)
    refine ⟨earlier, old, later, cut, ?_⟩
    have eq := unregisterId_register_of_cut (Network.isBuiltinId_eq_false_iff.mpr foreign) cut
    exact congrArg registered eq

/-- Networks that share a version, two of them with one id. -/
def sharing : Registry :=
  ⟨[.ofVersions "alt" 48 5, .ofVersions "dup" 48 7, .ofVersions "dup" 7 9]⟩

/-- Removing the id that is there twice withdraws a network, and the shared version stays with the
other network that had it. After another registration of the id an older network goes first. -/
theorem unregisterId_erases_first_sharing :
    let address : Address := ⟨48, Vector.replicate 20 0⟩
    let after := (sharing.unregisterId "dup").registry
    let registered := (sharing.register (.ofVersions "dup" 1 2)).registry
    (sharing.unregisterId "dup").answer = true ∧
      (∃ network, Withdrawal sharing "dup" network after) ∧
      after.resolve address.toText = .ok (.ofVersions "alt" 48 5) ∧
      ∃ earlier old later, Cut "dup" sharing.registered earlier old later ∧
        (registered.unregisterId "dup").registry.registered
          = earlier ++ later ++ [.ofVersions "dup" 1 2] := by
  intro address after registered
  have success : (sharing.unregisterId "dup").answer = true := by decide
  obtain ⟨_, withdrawn, _, restoration⟩ := unregisterId_erases_first sharing "dup"
  obtain ⟨network, withdrawal⟩ := withdrawn success
  have before : sharing.resolve address.toText = .ok (.ofVersions "alt" 48 5) :=
    resolve_of_find? address.parse_toText (by decide)
  have differ : sharing.resolve address.toText ≠ .ok network := by
    intro eq
    obtain ⟨_, _, cut, _⟩ := withdrawal.erased
    cases before.symm.trans eq
    exact absurd cut.same (by decide)
  refine ⟨success, ⟨network, withdrawal⟩, (withdrawal.kept _ differ).trans before, ?_⟩
  exact (restoration (.ofVersions "dup" 1 2) rfl).2 (by decide)

end CoinAddress.Registry
