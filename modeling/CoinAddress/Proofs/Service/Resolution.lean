import CoinAddress.Proofs.Service.Answers

/-!
# Resolving and decoding again

The service finds the network of a text by the version and that of an id by the id. Decoding a text
once more, against the id that it resolved to, gives the answer of the resolution as long as the ids
differ. If an id is registered more than once, it may give an error instead, and it never gives
another answer (`decodeAddress_of_resolveAddress`).
-/

namespace CoinAddress.Service

/-- Against another definition of its network an address differs in the kind at most. -/
lemma ofAddress_of_same_id {network other : Network} (address : Address)
    (same : network.id = other.id) :
    AddressInfo.ofAddress address (some network)
      = { AddressInfo.ofAddress address (some other) with
          isScriptHash := address.version = network.scriptVersion } := by
  simp only [AddressInfo.ofAddress, Option.map_some, same]
  rfl

/-- All ways to resolve a text report the same id or the same error. The id is that of a definition,
and decoding the text against the id asks this definition for the version and the kind. If it accepts
the version, and also if the ids of the registered networks differ, this gives the answer of the
resolution. -/
theorem decodeAddress_of_resolveAddress (operations : List Registry.Operation) (text : String) :
    let registry := Registry.initial.after operations
    let resolved := (resolveAddress registry text).answer
    (resolveNetwork registry text).answer = resolved.map (·.network.getD "") ∧
    (resolveNetwork registry text).answer
      = ((resolve registry text).answer.map (·.id)).mapError .address ∧
    ∀ info, resolved = .ok info →
      ∃ id network, info.network = some id ∧ registry.findById? id = some network ∧
        decodeAddress registry text (some id) =
          (if network.accepts info.version then
            .ok { info with isScriptHash := info.version = network.scriptVersion }
          else .error (.address (.wrongNetwork info.version network.acceptable))) ∧
        (network.accepts info.version = true ∨ (registry.registered.map (·.id)).Nodup →
          decodeAddress registry text (some id) = .ok info) := by
  intro registry resolved
  refine ⟨?_, ?_, ?_⟩
  · show ((registry.resolveAddress text).map (·.network.id)).mapError Error.address
      = (((registry.resolveAddress text).map describe).mapError Error.address).map _
    cases registry.resolveAddress text <;> rfl
  · show ((registry.resolveAddress text).map (·.network.id)).mapError Error.address
      = (((registry.resolveAddress text).map (·.network)).map _).mapError Error.address
    cases registry.resolveAddress text <;> rfl
  · intro info answer
    obtain ⟨⟨address, winner, shadowed⟩, eq, rfl⟩ := resolveAddress_eq_ok_iff.mp answer
    obtain ⟨read, earlier, later, split, refused, accepts⟩ := Registry.split_of_resolveAddress eq
    have mem : winner ∈ registry.networks :=
      split ▸ List.mem_append_right earlier (List.mem_cons_self ..)
    obtain ⟨network, found⟩ := Registry.exists_findById? mem
    have decoded := decodeAddress_toText found address
    rw [Address.toText_of_parse read] at decoded
    refine ⟨winner.id, network, rfl, found, ?_, ?_⟩
    · rw [decoded, ofAddress_of_same_id address (Registry.id_of_findById? found)]
      rfl
    · intro either
      have same : network = winner := by
        rcases either with takes | distinct
        · rcases Registry.findById?_cases split found with ⟨same, _⟩ | ⟨before, _⟩
          · exact same
          · -- whoever stands before the winner has refused the version
            cases (refused network before).symm.trans takes
        · have alone := Registry.findById?_of_nodup (Registry.nodup_ids_after distinct) mem
          exact Option.some.inj (found.symm.trans alone)
      rw [decoded, same, if_pos accepts]
      rfl

/-- A run that registers one id twice, for different versions, and another one. -/
def twins : List Registry.Operation :=
  [.registerNetworks "[[[\"dup\", 1, 2], [\"dup\", 3, 4], [\"alt\", 5, 6]]]"]

/-- A run that removes the first of the two definitions again. -/
def separated : List Registry.Operation :=
  twins ++ [.unregisterNetwork "dup"]

/-- A text that resolves to the second twin is refused by the first, and accepted once the first has
been removed. -/
theorem decodeAddress_of_resolveAddress_twins :
    let registry := Registry.initial.after twins
    let registry' := Registry.initial.after separated
    let address : Address := ⟨3, Vector.replicate 20 0⟩
    decodeAddress registry address.toText (some "dup")
        = .error (.address (.wrongNetwork 3 [1, 2])) ∧
      (resolveAddress registry' address.toText).answer
        = .ok (.ofAddress address (some (.ofVersions "dup" 3 4))) ∧
      (registry'.registered.map (·.id)).Nodup ∧
      decodeAddress registry' address.toText (some "dup")
        = .ok (.ofAddress address (some (.ofVersions "dup" 3 4))) := by
  intro registry registry' address
  have registered : registry.registered =
      [.ofVersions "dup" 1 2, .ofVersions "dup" 3 4, .ofVersions "alt" 5 6] := by decide +kernel
  have registered' : registry'.registered =
      [.ofVersions "dup" 3 4, .ofVersions "alt" 5 6] := by decide +kernel
  have before : (resolveAddress registry address.toText).answer
      = .ok (.ofAddress address (some (.ofVersions "dup" 3 4))) := by
    apply resolveAddress_toText
    rw [Registry.networks, registered]
    rfl
  have after : (resolveAddress registry' address.toText).answer
      = .ok (.ofAddress address (some (.ofVersions "dup" 3 4))) := by
    apply resolveAddress_toText
    rw [Registry.networks, registered']
    rfl
  have distinct : (registry'.registered.map (·.id)).Nodup := by
    rw [registered']
    decide
  refine ⟨?_, after, distinct, ?_⟩
  · obtain ⟨id, network, named, found, decoded, _⟩ :=
      (decodeAddress_of_resolveAddress twins address.toText).2.2 _ before
    cases named
    have first : registry.findById? "dup" = some (.ofVersions "dup" 1 2) := by
      rw [Registry.findById?, registered]
      decide
    cases first.symm.trans found
    exact decoded
  · obtain ⟨id, network, named, _, _, again⟩ :=
      (decodeAddress_of_resolveAddress separated address.toText).2.2 _ after
    cases named
    exact again (.inr distinct)

end CoinAddress.Service
