import CoinAddress.Proofs.Registry.Run

/-!
# Batches

A batch is sifted and journaled as a whole and appended once. It can be cut in two anywhere
(`registerAll_append`), so it comes to what its networks come to when there is a call for each: the
same registry, the same records, and a count of the calls that succeed (`registerAll_one_by_one`).
-/

namespace CoinAddress.Registry

/-- A change, and another one to the registry that it leaves. Their counts add up. -/
def Change.followedBy (first : Change Nat) (next : Registry → Change Nat) : Change Nat :=
  let second := next first.registry
  { answer := first.answer + second.answer
    registry := second.registry
    journal := first.journal ++ second.journal }

/-- Requests, made one after another, come to the same as one change that counts those that succeed. -/
structure AddUp (registry : Registry) (requests : List Request) (change : Change Nat) : Prop where
  /-- The change leaves the registry that the last request leaves. -/
  left : change.registry = registry.after (requests.map .perform)
  /-- The change writes what the requests write, in their order. -/
  written : change.journal = (registry.run requests).flatMap (·.journal)
  /-- All requests are answered by whether they succeed, and the change counts the successes. -/
  counted : ∃ answers : List Bool,
    (registry.run requests).map (·.answer) = answers.map .done ∧ change.answer = answers.count true

section
variable {registry : Registry} {requests : List Request} {network : Network}

/-- An empty batch does nothing. -/
lemma registerAll_nil (registry : Registry) : registry.registerAll [] = .unchanged registry 0 := by
  rw [registerAll, List.filter_nil, List.append_nil]
  rfl

/-- A batch can be cut in two anywhere. -/
lemma registerAll_append (registry : Registry) (first second : List Network) :
    registry.registerAll (first ++ second)
      = (registry.registerAll first).followedBy (·.registerAll second) := by
  simp only [registerAll, Change.followedBy, List.filter_append, List.length_append,
    List.map_append, List.append_assoc]

/-- A batch of one network counts one exactly if the call for the network succeeds. -/
lemma answer_registerAll_singleton (registry : Registry) (network : Network) :
    (registry.registerAll [network]).answer = [(registry.register network).answer].count true := by
  have le : (registry.registerAll [network]).answer ≤ 1 := List.length_filter_le ..
  show _ = [decide ((registry.registerAll [network]).answer = 1)].count true
  rcases Nat.le_one_iff_eq_zero_or_eq_one.mp le with none | one
  · rw [none]
    rfl
  · rw [one]
    rfl

/-- If requests come to a change, so do they after a call for one more network, with its batch put
before the change. -/
lemma AddUp.register {next : Registry → Change Nat}
    (rest : AddUp (registry.register network).registry requests
      (next (registry.register network).registry)) :
    AddUp registry (.register network :: requests)
      ((registry.registerAll [network]).followedBy next) := by
  obtain ⟨answers, replies, count⟩ := rest.counted
  refine ⟨rest.left, congrArg (_ ++ ·) rest.written, ?_⟩
  refine ⟨(registry.register network).answer :: answers, congrArg (_ :: ·) replies, ?_⟩
  calc (registry.registerAll [network]).answer + (next (registry.register network).registry).answer
      = [(registry.register network).answer].count true + answers.count true := by
        rw [answer_registerAll_singleton, count]
    _ = ((registry.register network).answer :: answers).count true := List.count_append.symm

/-- The calls for the networks of a batch come to the batch. -/
lemma addUp_register (registry : Registry) (batch : List Network) :
    AddUp registry (batch.map .register) (registry.registerAll batch) := by
  induction batch generalizing registry with
  | nil =>
    rw [registerAll_nil]
    exact ⟨rfl, rfl, [], rfl, rfl⟩
  | cons network batch ih =>
    -- the batch is cut behind its first network, and the call for it is a batch of its own
    rw [← List.singleton_append, registerAll_append]
    exact .register (ih _)

end

/-- Registering the networks of a batch one after another comes to the batch. So do two batches into
which it is cut, with the sum of their counts. -/
theorem registerAll_one_by_one (registry : Registry) (batch : List Network) :
    AddUp registry (batch.map .register) (registry.registerAll batch) ∧
    (∀ first second, registry.registerAll (first ++ second)
      = (registry.registerAll first).followedBy (·.registerAll second)) :=
  ⟨addUp_register registry batch, registerAll_append registry⟩

end CoinAddress.Registry
